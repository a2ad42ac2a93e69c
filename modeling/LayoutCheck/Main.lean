import LayoutCheck.Program

/-! # The command

Copies the files that a run can touch into a tree, runs the program on it, shows the report and
writes the summary back. Formatters are run by the shell of this library. -/

open LayoutCheck

namespace LayoutCheck.Snapshot

def addFile (t : FileTree) (name : String) : IO FileTree := do
  try
    let content ← IO.FS.readBinFile name
    return t.furnish (.ofText name.toList) (.file content.toList true)
  catch _ => return t

def unlisted (t : FileTree) (p : Path) : FileTree :=
  match t.locate .target p with
  | .ok place =>
    { t with
      unlistable := fun names =>
        if names = place.names then some .noPermission else t.unlistable names }
  | .error _ => t

def addDirectory (t : FileTree) (name : String) : IO FileTree := do
  let t := t.furnish (.ofText name.toList) .directory
  try
    let entries ← (← IO.FS.realPath name).readDir
    entries.foldlM (fun t e => addFile t (name ++ "/" ++ e.fileName)) t
  catch _ => return unlisted t (.ofText name.toList)

def add (t : FileTree) (name : String) : IO FileTree := do
  try
    if ← (← IO.FS.realPath name).isDir then addDirectory t name else addFile t name
  catch _ => return t

def addPath (t : FileTree) (p : Path) : IO FileTree := add t (String.ofList p.display)

def start : IO FileTree := do
  let here := Path.ofText (toString (← IO.currentDir)).toList
  let t := FileTree.pristine.furnish here .directory
  return { t with workingDir := here.components }

def directoryOf (p : Path) : Path :=
  match p.parent with
  | some ⟨[]⟩ | none => .ofText ['.']
  | some d => d

def ofCheck (t : FileTree) (o : CheckOptions) : IO FileTree := do
  let t ← o.config.toList.foldlM addPath t
  let t ← (o.jsonSummary.map directoryOf).toList.foldlM addPath t
  match Settings.resolve t false o with
  | .error _ => return t
  | .ok s => addPath (← addPath t s.executable) s.fixtureDir

def ofCommand (t : FileTree) : Command → IO FileTree
  | .check o => ofCheck t o
  | .canonicalize file => addPath t file
  | .compare o => do addPath (← addPath t o.source) o.formatted

def writeBack (old new : FileTree) (p : Path) : IO Unit := do
  match new.contents p with
  | .ok bytes =>
    if (old.contents p).toOption ≠ some bytes then
      IO.FS.writeBinFile (String.ofList p.display) ⟨bytes.toArray⟩
  | .error _ => return ()

end LayoutCheck.Snapshot

def main (args : List String) : IO UInt32 := do
  let arguments := args.map String.toList
  let empty ← Snapshot.start
  let tree ← match CommandLine.parse arguments with
    | .ok line => Snapshot.ofCommand empty line.command
    | .error _ => pure empty
  let stdout ← IO.getStdout
  let milliseconds ← IO.monoMsNow
  let now : Instant := ⟨milliseconds / 1000, milliseconds % 1000 * 1000000⟩
  let host : Host :=
    { tree := tree
      onTerminal := ← stdout.isTty
      clock := now
      launch := Execution.launch tree }
  let result := host.run arguments
  stdout.write ⟨result.output.toArray⟩
  stdout.flush
  (← IO.getStderr).putStr (String.ofList result.diagnostic)
  match CommandLine.parse arguments with
  | .ok ⟨_, .check o⟩ => o.jsonSummary.toList.forM (Snapshot.writeBack tree result.tree)
  | _ => pure ()
  return result.exitCode.toUInt32
