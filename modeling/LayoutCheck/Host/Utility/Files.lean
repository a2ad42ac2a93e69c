import LayoutCheck.Host.FileTree
import LayoutCheck.Host.Utility.Ordering
import LayoutCheck.Host.Utility.Printing

/-! # Programs on files

Programs that make, copy, move and remove files, and `ls`, which lists them. -/

namespace LayoutCheck

abbrev FileUtility := List Octets → Desk → FileTree → FileTree × Completion

namespace Utility

def forEach (d : Desk) (names : List Octets) (act : Octets → FileTree → Except Octets FileTree)
    (t : FileTree) : FileTree × Completion :=
  let (t, errors) := names.foldl (fun (acc : FileTree × List Write) name =>
    match act name acc.1 with
    | .ok t => (t, acc.2)
    | .error words => (acc.1, acc.2 ++ [.err (d.message words)])) (t, [])
  (t, ⟨errors, if errors = [] then 0 else 1, .after 0⟩)

def withFileOptions (o : OptionSet) (run : Chosen → List Octets → Desk → FileTree →
    FileTree × Completion) : FileUtility := fun args d t =>
  match o.read args with
  | .ok k => run k k.operands d t
  | .error e => (t, d.refuse e.words)

def troubleWith (words : String) (name : Octets) (e : Errno) : Octets :=
  lit words ++ alwaysQuoted name ++ lit ": " ++ e.description

def itself (t : FileTree) (name : Octets) : Except Errno (List Name × Node) := do
  match ← t.locate .link (Octets.toPath name) with
  | ⟨names, some node⟩ => .ok (names, node)
  | ⟨_, none⟩ => .error .noEntry

def touch : FileUtility := withFileOptions { plain := "acfhm", valued := "drt" } fun k names d t =>
  if names = [] then (t, d.refuse (lit "missing file operand"))
  else
    forEach d names (fun name t =>
      let p := Octets.toPath name
      match t.node p with
      | .ok _ => .ok t
      | .error .noEntry =>
        if k.has 'c' then .ok t
        else (t.write p []).mapError (troubleWith "cannot touch " name)
      | .error e => .error (troubleWith "cannot touch " name e)) t

def makeDirectory (name : Octets) (t : FileTree) : Except Errno FileTree := do
  match ← t.locate .target (Octets.toPath (dropSlashes name)) with
  | ⟨names, none⟩ => .ok (t.put names (.directory []))
  | ⟨_, some _⟩ => .error .exists_

/-- The longest start of a path that names something else than a directory. -/
def obstacle (t : FileTree) (name : Octets) : Octets :=
  let ends := (List.range (name.length + 1)).filter fun n =>
    (name.drop n).head? = some '/' ∨ n = name.length
  ((ends.map name.take).find? fun p =>
    t.exists? (Octets.toPath p) && !t.isDirectory (Octets.toPath p)).getD name

def makeDirectories (name : Octets) (t : FileTree) : Except Octets FileTree :=
  if t.isDirectory (Octets.toPath name) then .ok t
  else
    let p := Octets.toPath name
    let made := t.makeDirs p.isAbsolute p.components
    if made.isDirectory p then .ok made
    else
      let words := "cannot create directory "
      .error (if t.exists? p then troubleWith words name .exists_
        else troubleWith words (obstacle t name) .notDirectory)

def mkdir : FileUtility := 
  withFileOptions {
      plain := "pv", valued := "m"
      names := [("parents", 'p', .nothing), ("mode", 'm', .value), ("verbose", 'v', .nothing)] }
    fun k names d t =>
  if names = [] then (t, missingOperand d)
  else
    forEach d names (fun name t =>
      if k.has 'p' then makeDirectories name t
      else (makeDirectory name t).mapError (troubleWith "cannot create directory " name)) t

def rm : FileUtility := 
  withFileOptions {
      plain := "rRfiIdv"
      names := [("recursive", 'r', .nothing), ("force", 'f', .nothing),
        ("verbose", 'v', .nothing)] }
    fun k names d t =>
  let forced := k.has 'f'
  let deep := k.has 'r' || k.has 'R'
  if names = [] then (t, if forced then .silent 0 else missingOperand d)
  else
    forEach d names (fun name t =>
      let trouble := troubleWith "cannot remove " name
      match itself t name with
      | .ok (place, .directory _) =>
        if !deep then .error (trouble .isDirectory)
        else if baseName name = ['.'] ∨ baseName name = ['.', '.'] then
          .error (lit "refusing to remove \x27.\x27 or \x27..\x27 directory: skipping "
            ++ alwaysQuoted name)
        else .ok (t.remove place)
      | .ok (place, _) => .ok (t.remove place)
      | .error e =>
        if forced ∧ (e = .noEntry ∨ e = .notDirectory) then .ok t else .error (trouble e)) t

def rmdir : FileUtility := withFileOptions { plain := "pv" } fun _ names d t =>
  if names = [] then (t, missingOperand d)
  else
    forEach d names (fun name t =>
      let trouble := troubleWith "failed to remove " name
      match itself t (dropSlashes name) with
      | .ok (place, .directory []) => .ok (t.remove place)
      | .ok (_, .directory _) => .error (trouble .notEmpty)
      | .ok _ => .error (trouble .notDirectory)
      | .error e => .error (trouble e)) t

/-- Where a file goes: into a directory under its own name, or to the path itself. -/
def destination (t : FileTree) (target source : Octets) : Octets :=
  if t.isDirectory (Octets.toPath target) then
    (if target.getLast? = some '/' then target else target ++ ['/']) ++ baseName source
  else target

def isSameFile (t : FileTree) (a b : Octets) : Bool :=
  match t.locate .target (Octets.toPath a), t.locate .target (Octets.toPath b) with
  | .ok ⟨m, some _⟩, .ok ⟨n, some _⟩ => m == n
  | _, _ => false

/-- Puts a node at a path. A file that is there only gets a new content. -/
def place (name : Octets) (node : Node) (t : FileTree) : Except Errno FileTree := do
  match ← t.locate .making (Octets.toPath name), node with
  | ⟨names, some (.file _ exec)⟩, .file content _ => .ok (t.put names (.file content exec))
  | ⟨_, some (.directory _)⟩, .file _ _ => .error .isDirectory
  | ⟨names, _⟩, node => .ok (t.put names node)

def copyOne (deep : Bool) (target source : Octets) (t : FileTree) : Except Octets FileTree :=
  match t.node (Octets.toPath source) with
  | .error e => .error (troubleWith "cannot stat " source e)
  | .ok node =>
    let goal := destination t target source
    if isSameFile t source goal then
      .error (alwaysQuoted source ++ lit " and " ++ alwaysQuoted goal ++ lit " are the same file")
    else
      match node, deep with
      | .directory _, false =>
        .error (lit "-r not specified; omitting directory " ++ alwaysQuoted source)
      | .directory _, true =>
        (place goal node t).mapError (troubleWith "cannot create directory " goal)
      | _, _ => (place goal node t).mapError (troubleWith "cannot create regular file " goal)

def moveOne (target source : Octets) (t : FileTree) : Except Octets FileTree :=
  match itself t source with
  | .error e => .error (troubleWith "cannot stat " source e)
  | .ok (origin, node) =>
    let goal := destination t target source
    let trouble (e : Errno) : Octets :=
      lit "cannot move " ++ alwaysQuoted source ++ lit " to " ++ alwaysQuoted goal ++ lit ": "
        ++ e.description
    if isSameFile t source goal then
      .error (alwaysQuoted source ++ lit " and " ++ alwaysQuoted goal ++ lit " are the same file")
    else
      match t.locate .link (Octets.toPath goal), node with
      | .ok ⟨_, some (.directory _)⟩, .directory _ => .error (trouble .notEmpty)
      | .ok ⟨_, some _⟩, .directory _ =>
        .error (lit "cannot overwrite non-directory " ++ alwaysQuoted goal ++ lit " with directory "
          ++ alwaysQuoted source)
      | .ok ⟨names, _⟩, _ => .ok ((t.remove origin).put names node)
      | .error e, _ => .error (trouble e)

def toTarget (names : List Octets) (d : Desk) (t : FileTree)
    (act : Octets → Octets → FileTree → Except Octets FileTree) : FileTree × Completion :=
  match names.reverse with
  | [] => (t, d.refuse (lit "missing file operand"))
  | [name] => (t, d.refuse (lit "missing destination file operand after " ++ alwaysQuoted name))
  | target :: sources =>
    if sources.length > 1 ∧ ¬t.isDirectory (Octets.toPath target) then
      let e := if t.exists? (Octets.toPath target) then Errno.notDirectory else .noEntry
      (t, .fail 1 (d.message (troubleWith "target " target e)))
    else forEach d sources.reverse (act target) t

def cp : FileUtility := 
  withFileOptions {
      plain := "rRapfvilLPHdunsx"
      names := [("recursive", 'r', .nothing), ("archive", 'a', .nothing),
        ("force", 'f', .nothing)] }
    fun k names d t =>
  toTarget names d t (copyOne (k.hasAny "rRa"))

def mv : FileUtility := withFileOptions { plain := "fivnuT" } fun _ names d t =>
  toTarget names d t moveOne

def ln : FileUtility := withFileOptions { plain := "sfnvrTLP" } fun k names d t =>
  let soft := k.has 's'
  match names with
  | [] => (t, d.refuse (lit "missing file operand"))
  | source :: rest =>
    let target := (rest.head?).getD ['.']
    let goal := destination t target source
    forEach d [goal] (fun goal t =>
      let words := if soft then "failed to create symbolic link " else "failed to create hard link "
      match t.locate .link (Octets.toPath goal) with
      | .error e => .error (troubleWith words goal e)
      | .ok ⟨names, old⟩ =>
        if old.isSome ∧ ¬k.has 'f' then .error (troubleWith words goal .exists_)
        else if soft then .ok (t.put names (.link (Octets.toPath source)))
        else
          match t.node (Octets.toPath source) with
          | .ok node => .ok (t.put names node)
          | .error e => .error (troubleWith "failed to access " source e)) t

/-- Does a mode make files executable? `none` if it does not say. -/
def executable? (mode : Octets) : Option (Option Bool) :=
  if mode ≠ [] ∧ mode.all Octets.isOctalDigit then
    let n := Octets.octal mode
    some (some (n % 2 = 1 ∨ n / 8 % 2 = 1 ∨ n / 64 % 2 = 1))
  else
    let clauses := (Text.splitOn ',' mode).map fun c =>
      let who := c.takeWhile "ugoa".toList.contains
      match c.drop who.length with
      | sign :: letters =>
        if "+-=".toList.contains sign ∧ letters.all "rwxXst".toList.contains then
          some (if letters.contains 'x' then some (sign != '-') else if sign = '=' then some false
            else none)
        else none
      | [] => none
    clauses.foldl (fun acc c => do
      let a ← acc
      let b ← c
      return b.or a) (some none)

def chmod : FileUtility := fun args d t =>
  let args := args.filter fun a => a ≠ lit "-R" ∧ a ≠ lit "-v" ∧ a ≠ lit "-f" ∧ a ≠ lit "--"
  match args with
  | [] => (t, missingOperand d)
  | [mode] => (t, d.refuse (lit "missing operand after " ++ alwaysQuoted mode))
  | mode :: names =>
    match executable? mode with
    | none => (t, d.refuse (lit "invalid mode: " ++ alwaysQuoted mode))
    | some change =>
      forEach d names (fun name t =>
        match t.locate .target (Octets.toPath name) with
        | .ok ⟨place, some (.file content exec)⟩ =>
          .ok (t.put place (.file content (change.getD exec)))
        | .ok ⟨_, some _⟩ => .ok t
        | .ok ⟨_, none⟩ => .error (troubleWith "cannot access " name .noEntry)
        | .error e => .error (troubleWith "cannot access " name e)) t

def tee : FileUtility := 
  withFileOptions { plain := "aip", names := [("append", 'a', .nothing)] } fun k names d t =>
  match d.stdin with
  | .endless text => (t, ⟨[], 0, .flooding text⟩)
  | .finite text =>
    let (t, c) := forEach d names (fun name t =>
      let p := Octets.toPath name
      let old := if k.has 'a' then (t.contents p).toOption.getD [] else []
      (t.write p (old ++ Octets.toBytes text)).mapError fun e =>
        quotedName name ++ lit ": " ++ e.description) t
    (t, { c with writes := c.writes ++ [.out text] })

def sortFiles : FileUtility := fun args d t =>
  let c := sort args d
  match (sortOptions.read args).toOption.bind fun k => k.value? 'o' with
  | none => (t, c)
  | some name =>
    let out := (c.writes.filter (!·.toError)).flatMap (·.text)
    if c.status ≠ 0 then (t, c)
    else
      match t.write (Octets.toPath name) (Octets.toBytes out) with
      | .ok t => (t, { c with writes := [] })
      | .error e =>
        let words := lit "open failed: " ++ quotedName name ++ lit ": " ++ e.description
        (t, .fail 2 (d.message words))

def listed (k : Chosen) (entries : List (Name × Node)) : List Octets :=
  let all := entries.map fun e => Octets.ofBytes e.1
  let shown := if k.has 'a' then [['.'], ['.', '.']] ++ all
    else if k.has 'A' then all
    else all.filter fun n => n.head? ≠ some '.'
  let sorted := shown.mergeSort fun a b => !decide (b < a)
  if k.has 'r' then sorted.reverse else sorted

def ls : FileUtility := fun args d t =>
  match ({ plain := "1aArd", names := [("all", 'a', .nothing), ("almost-all", 'A', .nothing),
    ("reverse", 'r', .nothing), ("directory", 'd', .nothing)] } : OptionSet).read args with
  | .error e => (t, { d.refuse e.words with status := 2 })
  | .ok k =>
    let names := k.operands
    let names := if names = [] then [['.']] else names.mergeSort fun a b => !decide (b < a)
    let isDir (n : Octets) : Bool := t.isDirectory (Octets.toPath n) && !k.has 'd'
    let missing := names.filterMap fun n => match itself t n with
      | .ok _ => none
      | .error e => some (Write.err (d.message (troubleWith "cannot access " n e)))
    let there := names.filter fun n => (itself t n).toOption.isSome
    let files := there.filter fun n => !isDir n
    let dirs := there.filter isDir
    let lines (ns : List Octets) : Octets := ns.flatMap (· ++ ['\n'])
    let titled := names.length > 1
    let block (n : Octets) : Option Octets :=
      (t.entries (Octets.toPath n)).toOption.map fun entries =>
        (if titled then n ++ lit ":\n" else []) ++ lines (listed k entries)
    let closed := dirs.filterMap fun n => match t.entries (Octets.toPath n) with
      | .ok _ => none
      | .error e => some (Write.err (d.message (troubleWith "cannot open directory " n e)))
    let blocks := (if files = [] then [] else [lines files]) ++ dirs.filterMap block
    let complaints := missing ++ closed
    (t, ⟨complaints ++ [.out (Text.joinWith ['\n'] blocks)], if complaints = [] then 0 else 2,
      .after 0⟩)

end Utility

end LayoutCheck
