import LayoutCheck.CommandLine.Help
import LayoutCheck.Config
import LayoutCheck.Decimal
import LayoutCheck.Diagnostic
import LayoutCheck.Fault
import LayoutCheck.Host.FileTree
import LayoutCheck.Host.Shell
import LayoutCheck.Report

/-! # The program

Each command as a function of the host. A command ends with a report on its output, perhaps a
diagnostic on the error stream, an exit code and the file tree as it left it.

The fixtures of a directory are its regular files, links followed, whose name is text and ends in a
dot and the extension; an entry that cannot be inspected is passed over. A formatter is a command
that gets a path and writes the formatted text. It has to end, and to let go of its streams, before
a deadline. Times of an execution are nanoseconds from its start; `none` is never. -/

namespace LayoutCheck

def nameLe : Name → Name → Bool
  | [], _ => true
  | _ :: _, [] => false
  | a :: as, b :: bs => a < b || (a == b && nameLe as bs)

/-- Does a name end in a dot and the extension? A name that is no text does not. -/
def hasExtension (extension : Text) (n : Name) : Bool :=
  match Utf8.decode? n with
  | some t => Text.endsWith ('.' :: extension) t
  | none => false

/-- Directory entries as a listing gives them: the kind is that of the file a link leads
to, and there is none for an entry that cannot be inspected. -/
abbrev Listing := List (Name × Option FileKind)

def isFixture (extension : Text) (entry : Name × Option FileKind) : Bool :=
  entry.2 == some .regular && hasExtension extension entry.1

def selectFixtures (extension : Text) (entries : Listing) : List Name :=
  ((entries.filter (isFixture extension)).map (·.1)).mergeSort nameLe

/-- The kind of an entry. Only a link asks for more than the entry itself. -/
def FileTree.entryKind? (t : FileTree) (root : Path) (n : Name) : Node → Option FileKind
  | .link _ => t.kind? (root.join ⟨n⟩)
  | node => some node.kind

def FileTree.inspect (t : FileTree) (root : Path) (entries : List (Name × Node)) : Listing :=
  entries.map fun e => (e.1, t.entryKind? root e.1 e.2)

/-- A directory that cannot be listed, as a fault with what lies beneath it. -/
def Fault.unlisted (root : Path) (e : Errno) : Fault :=
  .discovery root
    ["IO error for operation on ".toList ++ root.display ++ ": ".toList ++ e.message, e.message]

def discover (t : FileTree) (root : Path) (extension : Text) : Except Fault (List Path) :=
  if t.isDirectory root then
    match t.entries root with
    | .ok entries =>
      .ok ((selectFixtures extension (t.inspect root entries)).map fun n => root.join ⟨n⟩)
    | .error e => .error (.unlisted root e)
  else .error (.missingFixtureDir root)

inductive ExitStatus where
  | exited (code : Nat)
  | signaled (signal : Nat)
  deriving DecidableEq, Repr

structure Execution where
  status : ExitStatus
  out : Bytes
  err : Bytes
  endedAt : Option Nat
  closedAt : Option Nat
  deriving DecidableEq, Repr

abbrev Launch := Path → Path → Except IoCause Execution

namespace Execution

/-- Statements that a script may run before it counts as endless. -/
def budget : Nat := 12000

def atStart (t : FileTree) : Shell where
  tree := t
  name := []
  context := []
  args := []
  vars := [("PATH".toList, "/usr/local/bin:/usr/bin:/bin".toList)]
  exported := ["PATH".toList]
  constants := []
  locals := []
  functions := []
  traps := []
  outerTraps := none
  pending := []
  ending := none
  caught := 0
  options := []
  mask := 18
  status := 0
  line := 1
  readLine := 1
  pid := 1000
  nextPid := 1001
  sinks := [(1, .out), (2, .err)]
  inputs := [(0, 0)]
  sources := [⟨.finite [], 0, false⟩]
  written := []
  clock := 0
  heldUntil := some 0
  depth := 0
  jobs := []
  lastJob := none
  optionPlace := 0
  loops := 0
  steps := budget
  nesting := 0

def stream (s : Shell) (sink : Sink) : Bytes :=
  Octets.toBytes ((Written.inOrder (s.written.filter (·.sink == sink))).flatMap (·.text))

def ofShell (s : Shell) (status : ExitStatus) (ends : Bool) : Execution where
  status := status
  out := stream s .out
  err := stream s .err
  endedAt := if ends then some s.clock else none
  closedAt := if ends then s.released.map (max s.clock) else none

def run (t : FileTree) (e : Executable) (argument : Octets) : Execution :=
  match Run.start (3 * budget) e [argument] (atStart t) with
  | .ok () s => ofShell s (.exited s.status) true
  | .error (.killed n) s => ofShell s (.signaled n) true
  | .error f s => ofShell s (.exited (if f.isEndless then 0 else s.status)) !f.isEndless

/-- Starts a command on the host of a file tree. Neither its name nor its argument may hold a
NUL. -/
def launch (t : FileTree) : Launch := fun command argument =>
  if FileTree.hasNul command || FileTree.hasNul argument then .error .nulInArgument
  else
    match Executable.find t FileTree.searchDirs command with
    | .error e => .error (.system e)
    | .ok e => .ok (run t e (Octets.ofPath argument))

end Execution

structure ExternalFormatter where
  executable : Path
  timeout : Duration
  deriving DecidableEq, Repr

/-- What the clock shows when the formatter has been started for a file. -/
abbrev Clock := Path → Instant

instance : Coe Instant Clock := ⟨fun now _ => now⟩

namespace ExternalFormatter

def before (bound : Nat) (at_ : Option Nat) : Bool :=
  match at_ with
  | none => false
  | some n => n < bound

def exitCode : ExitStatus → Option Int
  | .exited n => some n
  | .signaled _ => none

def result (timeout : Duration) (p : Execution) : Except Fault Text :=
  if !(before timeout.toNanos p.endedAt && before timeout.toNanos p.closedAt) then
    .error (.formatterTimeout timeout)
  else if p.status = .exited 0 then
    match Utf8.decode? p.out with
    | some text => .ok text
    | none => .error .formatterOutput
  else .error (.formatterExit (exitCode p.status) (Utf8.decodeLossy p.err))

/-- The formatted text of a file. There is no result at all when the command was started and
its deadline cannot be represented. -/
def format? (f : ExternalFormatter) (launch : Launch) (now : Instant) (path : Path) :
    Option (Except Fault Text) :=
  match launch f.executable path with
  | .error cause => some (.error (.formatterLaunch f.executable cause))
  | .ok p => (now.add? f.timeout).map fun _ => result f.timeout p

def formatter (f : ExternalFormatter) (launch : Launch) (clock : Clock) : Formatter := fun path =>
  (f.format? launch (clock path) path).getD (.error (.formatterTimeout f.timeout))

/-- Would checking this file break off without a result? -/
def breaksOn (f : ExternalFormatter) (read : Reader) (launch : Launch) (clock : Clock)
    (path : Path) : Bool :=
  match read path with
  | .error _ => false
  | .ok _ => (f.format? launch (clock path) path).isNone

end ExternalFormatter

structure Host where
  tree : FileTree
  onTerminal : Bool
  clock : Clock
  launch : Launch

structure ProgramEnd where
  shown : List Emission
  colored : Bool
  diagnostic : Text
  exitCode : Nat
  tree : FileTree

namespace ProgramEnd

def failed (tree : FileTree) (fault : Fault) : ProgramEnd :=
  ⟨[], false, fault.diagnostic, 1, tree⟩

def output (e : ProgramEnd) : Bytes :=
  ((Stream.withRoom none).emitAll e.colored e.shown).received

end ProgramEnd

def writeSummary (tree : FileTree) (batch : Batch) : Option Path → Except Fault FileTree
  | none => .ok tree
  | some p =>
    if FileTree.hasNul p then .error (.summaryWrite p .nulInPath)
    else
      match tree.write p batch.summary.fileText.utf8 with
      | .ok tree => .ok tree
      | .error e => .error (.summaryWrite p (.system e))

/-- The summary of a batch as far as it went to a stream of the program instead of a file. -/
def summaryOn (tree : FileTree) (batch : Batch) (stream : Device) : Option Path → Text
  | none => []
  | some p =>
    match tree.node p with
    | .ok (.device d) => if d = stream then batch.summary.fileText else []
    | _ => []

def prepareCheck (tree : FileTree) (onTerminal : Bool) (o : CheckOptions) :
    Except Fault (Settings × List Path) := do
  let s ← Settings.resolve tree onTerminal o
  s.validate tree
  let files ← discover tree s.fixtureDir s.extension
  return (s, files)

def finishCheck (tree : FileTree) (format : Formatter) (o : CheckOptions) (s : Settings)
    (files : List Path) : ProgramEnd :=
  let run := runBatch tree.readText format ⟨s.showCanonical⟩ files
  let shown := run.shown ++ run.batch.summaryEmissions
  match writeSummary tree run.batch o.jsonSummary with
  | .ok tree =>
    ⟨shown ++ [.say (summaryOn tree run.batch .output o.jsonSummary)], s.useColors,
      summaryOn tree run.batch .errors o.jsonSummary, run.batch.exitCode, tree⟩
  | .error fault => ⟨shown, s.useColors, fault.diagnostic, 1, tree⟩

def brokenOffCode : Nat := 101

/-- A run that broke off at a file: the blocks of the files before it, and the opening of its
own. -/
def brokenOff (tree : FileTree) (format : Formatter) (s : Settings) (done : List Path)
    (at_ : Path) : ProgramEnd :=
  let run := runBatch tree.readText format ⟨s.showCanonical⟩ done
  ⟨run.shown ++ [testingEmission at_], s.useColors, [], brokenOffCode, tree⟩

def Settings.formatter (s : Settings) : ExternalFormatter := ⟨s.executable, s.timeout⟩

namespace Host

def check (h : Host) (o : CheckOptions) : ProgramEnd :=
  match prepareCheck h.tree h.onTerminal o with
  | .error fault => .failed h.tree fault
  | .ok (s, files) =>
    let format := s.formatter.formatter h.launch h.clock
    let breaks := s.formatter.breaksOn h.tree.readText h.launch h.clock
    match files.dropWhile fun p => !breaks p with
    | [] => finishCheck h.tree format o s files
    | at_ :: _ => brokenOff h.tree format s (files.takeWhile fun p => !breaks p) at_

def readSource (h : Host) (p : Path) : Except Fault Text :=
  match h.tree.readText p with
  | .ok t => .ok t
  | .error cause => .error (.fileUnreadable p cause)

def canonicalForm (h : Host) (file : Path) : ProgramEnd :=
  match h.readSource file with
  | .error fault => .failed h.tree fault
  | .ok t => ⟨Emission.line (canonicalize t) .plain, false, [], 0, h.tree⟩

def comparingEmission (o : CompareOptions) : Emission :=
  .say ("Comparing ".toList ++ o.source.display ++ " with ".toList ++ o.formatted.display
    ++ "... ".toList)

def compare (h : Host) (o : CompareOptions) : ProgramEnd :=
  match h.readSource o.source with
  | .error fault => .failed h.tree fault
  | .ok source =>
    match h.readSource o.formatted with
    | .error fault => .failed h.tree fault
    | .ok formatted =>
      let outcome := Outcome.checked (evaluate source formatted)
      ⟨comparingEmission o :: outcome.emissions ⟨o.showCanonical⟩, h.onTerminal && !o.noColor, [],
        if outcome.passed then 0 else 1, h.tree⟩

/-- Help and version go to the output, complaints to the error stream. -/
def stop (h : Host) (why : UsageStop) : ProgramEnd :=
  let (shown, complaint) : Text × Text := match why with
    | .help scope => (Help.page scope, [])
    | .version => (Help.version, [])
    | .nothingGiven => ([], Help.page .program)
    | .misused scope why => ([], why.complaint scope)
  ⟨[.say shown], false, complaint, why.exitCode, h.tree⟩

def run (h : Host) (arguments : List Text) : ProgramEnd :=
  match CommandLine.parse arguments with
  | .error why => h.stop why
  | .ok line =>
    match line.command with
    | .check o => h.check o
    | .canonicalize file => h.canonicalForm file
    | .compare o => h.compare o

end Host

end LayoutCheck
