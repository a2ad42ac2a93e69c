import LayoutCheck.Host.Pristine
import LayoutCheck.Host.Script
import LayoutCheck.Host.Utility

/-! # The shell between two commands

Variables, descriptors and jobs, and what has been written so far; what opens, copies and closes
descriptors; the options of the shell. Time passes only where a program waits. -/

namespace LayoutCheck

/-- Where a descriptor leads: to the streams of the whole process, to a pipe inside the
script, to a file, or nowhere. -/
inductive Sink where
  | out
  | err
  | nowhere
  | full
  | pipe (depth : Nat)
  | file (path : Path)
  deriving DecidableEq, Repr

structure Written where
  time : Nat
  sink : Sink
  text : Octets
  deriving DecidableEq, Repr

/-- A process in the background. One that never ends has no end. `holds` tells whether it
keeps a stream of the script open. -/
structure Job where
  pid : Nat
  status : Nat
  signal : Option Nat
  endsAt : Option Nat
  holds : Bool
  deriving DecidableEq, Repr

/-- Ways to leave the normal course of a script. A mistake ends it, unless a command catches
it. It is exhausted when it has taken all its steps; a flood writes the same over and over. -/
inductive Flow where
  | exit
  | mistake
  | killed (signal : Nat)
  | endless
  | exhausted
  | flood (pattern : Octets)
  | leave
  | breakOut (levels : Nat)
  | goOn (levels : Nat)
  deriving DecidableEq, Repr

structure Source where
  content : Content
  readyAt : Nat
  isFile : Bool
  deriving DecidableEq, Repr

/-- A shell with all that it has set and opened. `context` is the command under whose name
messages come. `outerTraps` are those of the shell that `$$` stands for, if it is another one.
`locals` has a frame for each function call under way, with the values to be put back, and
`loops` counts the loops around a command. `ending` is the status with which a shell ends
while a trap runs, and `caught` that of the last command whose output became part of a word.
`steps` counts what may still be done, and `nesting` how deep scripts and functions are inside
each other. `readLine` is the line up to which the script has been read. -/
structure Shell where
  tree : FileTree
  name : Octets
  context : Octets
  args : List Octets
  vars : List (Octets × Octets)
  exported : List Octets
  constants : List Octets
  locals : List (List (Octets × Option Octets))
  functions : List (Octets × Statement)
  traps : List (Nat × Octets)
  outerTraps : Option (List (Nat × Octets))
  pending : List Nat
  ending : Option Nat
  caught : Nat
  options : Octets
  mask : Nat
  status : Nat
  line : Nat
  readLine : Nat
  pid : Nat
  nextPid : Nat
  sinks : List (Nat × Sink)
  inputs : List (Nat × Nat)
  sources : List Source
  written : List Written
  clock : Nat
  heldUntil : Option Nat
  depth : Nat
  jobs : List Job
  lastJob : Option Nat
  optionPlace : Nat
  loops : Nat
  steps : Nat
  nesting : Nat

abbrev Run := EStateM Flow Shell

/-- Puts writings into the order of their times. They come latest first. -/
def Written.inOrder (ws : List Written) : List Written :=
  ws.reverse.mergeSort fun a b => a.time ≤ b.time

namespace Shell

def setSink (s : Shell) (fd : Nat) (target : Option Sink) : Shell :=
  let others := s.sinks.filter (·.1 != fd)
  { s with sinks := match target with
    | none => others
    | some sink => (fd, sink) :: others }

def appendFile (t : FileTree) (p : Path) (text : Octets) : FileTree :=
  let old := (t.contents p).toOption.getD []
  (t.write p (old ++ Octets.toBytes text)).toOption.getD t

def writeTo (s : Shell) (sink : Sink) (text : Octets) : Shell :=
  if text = [] then s
  else
    match sink with
    | .nowhere | .full => s
    | .file p => { s with tree := appendFile s.tree p text }
    | _ => { s with written := ⟨s.clock, sink, text⟩ :: s.written }

def write (s : Shell) (fd : Nat) (text : Octets) : Shell :=
  match s.sinks.lookup fd with
  | none => s
  | some sink => s.writeTo sink text

def holdsStream (s : Shell) : Bool := s.sinks.any fun (_, k) => k == .out || k == .err

def source? (s : Shell) : Option Source :=
  (s.inputs.lookup 0).bind fun k => s.sources[k]?

def input (s : Shell) : Content := (s.source?.map Source.content).getD (.finite [])

def awaitInput (s : Shell) : Shell :=
  { s with clock := max s.clock ((s.source?.map Source.readyAt).getD 0) }

/-- Descriptors that lead to the same source see what is left after each other. -/
def setInput (s : Shell) (c : Content) : Shell :=
  match s.inputs.lookup 0 with
  | some k => { s with sources := s.sources.modify k fun source => { source with content := c } }
  | none => s

def openInput (s : Shell) (fd : Nat) (source : Source) : Shell :=
  { s.setSink fd none with
    inputs := (fd, s.sources.length) :: s.inputs.filter (·.1 != fd)
    sources := s.sources ++ [source] }

def openOutput (s : Shell) (fd : Nat) (target : Option Sink) : Shell :=
  { s.setSink fd target with inputs := s.inputs.filter (·.1 != fd) }

def copyDescriptor? (s : Shell) (fd model : Nat) : Option Shell :=
  match s.sinks.lookup model, s.inputs.lookup model with
  | none, none => none
  | sink, source =>
    let s := s.openOutput fd sink
    some { s with inputs := (source.map (fd, ·)).toList ++ s.inputs }

def openFile (s : Shell) (name : Octets) : Except Errno Content :=
  if name = "/dev/stdin".toList then .ok s.input
  else
    match s.tree.node (Octets.toPath name) with
    | .ok (.file content _) => .ok (.finite (Octets.ofBytes content))
    | .ok (.program _) => .ok (.finite (Octets.ofBytes FileTree.programBytes))
    | .ok (.device .zero) | .ok (.device .full) => .ok (.endless ['\x00'])
    | .ok (.device _) => .ok (.finite [])
    | .ok (.directory _) => .error .isDirectory
    | .ok (.link _) => .error .tooManyLinks
    | .error e => .error e

def desk (s : Shell) (called : Octets) : Desk :=
  ⟨called, s.input, (s.source?.map Source.isFile).getD false, s.openFile⟩

def hasOption (s : Shell) (letter : Char) : Bool := s.options.contains letter

def setOption (s : Shell) (letter : Char) (on : Bool) : Shell :=
  let others := s.options.filter (· != letter)
  { s with options := if on then letter :: others else others }

def exportVar (s : Shell) (name : Octets) : Shell :=
  { s with exported := if s.exported.contains name then s.exported else name :: s.exported }

def unsetVar (s : Shell) (name : Octets) : Shell :=
  { s with
    vars := s.vars.filter (·.1 != name)
    exported := s.exported.filter (· != name) }

def setVar (s : Shell) (name value : Octets) : Shell :=
  let s := if s.hasOption 'a' then s.exportVar name else s
  { s with vars := (name, value) :: s.vars.filter (·.1 != name) }

def putBack (s : Shell) (name : Octets) (value : Option Octets) : Shell :=
  match value with
  | some v => { s with vars := (name, v) :: s.vars.filter (·.1 != name) }
  | none => s.unsetVar name

def separators (s : Shell) : Octets := (s.vars.lookup "IFS".toList).getD [' ', '\t', '\n']

def joint (s : Shell) : Octets := s.separators.take 1

def optionLetters : Octets := "pubaCEVvxsnmiIfe".toList

def param? (s : Shell) (name : Octets) : Option Octets :=
  match name with
  | ['#'] => some (Text.ofNat s.args.length)
  | ['?'] => some (Text.ofNat s.status)
  | ['$'] => some (Text.ofNat s.pid)
  | ['0'] => some s.name
  | ['-'] => some (optionLetters.filter s.hasOption)
  | ['!'] => s.lastJob.map Text.ofNat
  | ['@'] | ['*'] => if s.args = [] then none else some (Text.joinWith s.joint s.args)
  | _ =>
    match Octets.nat? name with
    | some n => s.args[n - 1]?
    | none => s.vars.lookup name

def searchDirs (s : Shell) : List Path :=
  match s.vars.lookup "PATH".toList with
  | none => []
  | some t => (Text.splitOn ':' t).map Octets.toPath

def released (s : Shell) : Option Nat :=
  (s.jobs.filter (·.holds)).foldl (fun t j => do return max (← t) (← j.endsAt)) s.heldUntil

def adopt (parent child : Shell) : Shell :=
  { parent with
    tree := { child.tree with workingDir := parent.tree.workingDir }
    status := child.status
    pending := if child.outerTraps.isSome then child.pending else parent.pending
    nextPid := child.nextPid
    steps := child.steps
    sources := child.sources
    written := child.written
    clock := child.clock
    heldUntil := child.released }

/-- A copy of the shell. It only keeps what makes it ignore a signal. -/
def copy (s : Shell) : Shell :=
  { s with
    traps := s.traps.filter (·.2 = [])
    outerTraps := some (s.outerTraps.getD s.traps)
    ending := none
    jobs := [] }

def place (s : Shell) : Octets :=
  match s.tree.workingDir with
  | [] => ['/']
  | names => names.flatMap fun n => '/' :: Octets.ofBytes n

def initialVars : List (Octets × Octets) :=
  [("IFS", " \t\n"), ("OPTIND", "1"), ("PPID", "1"), ("PS1", "# "), ("PS2", "> "), ("PS4", "+ ")].map
    fun v => (v.1.toList, v.2.toList)

def standardPath : Octets :=
  "/usr/local/sbin:/usr/local/bin:/usr/sbin:/usr/bin:/sbin:/bin".toList

def fresh (s : Shell) (name : Octets) : Shell :=
  let given := s.vars.filter fun v =>
    s.exported.contains v.1 && (initialVars.lookup v.1).isNone
  let given := if (given.lookup "PATH".toList).isSome then given
    else ("PATH".toList, standardPath) :: given
  let started := { s.copy with
    outerTraps := none, pending := []
    name := name, context := [], args := [], options := []
    vars := given ++ initialVars
    constants := [], locals := [], functions := []
    status := 0, line := 0, lastJob := none, optionPlace := 0, loops := 0 }
  (started.setVar "PWD".toList s.place).exportVar "PWD".toList

end Shell

namespace Run

def setStatus (n : Nat) : Run Unit := modify fun s => { s with status := n }

def speak (message : Octets) : Run Unit := modify fun s =>
  s.write 2 (s.name ++ ": ".toList ++ Text.ofNat s.line ++ ": ".toList ++ s.context ++ message
    ++ ['\n'])

def failWith (status : Nat) (message : Octets) : Run Unit := do
  speak message
  setStatus status

def mistake {α : Type} (message : Octets) : Run α := do
  failWith 2 message
  throw .mistake

def say (text : Octets) : Run Unit := modify (·.write 1 text)

def within {α : Type} (enter : Shell → Shell) (restore : Shell → Shell → Shell) (act : Run α) :
    Run α := fun s =>
  match act (enter s) with
  | .ok a s' => .ok a (restore s s')
  | .error f s' => .error f (restore s s')

def maxNesting : Nat := 400

def nested {α : Type} (act : Run α) : Run α := do
  if (← get).nesting ≥ maxNesting then throw .exhausted
  within (fun s => { s with nesting := s.nesting + 1 })
    (fun s s' => { s' with nesting := s.nesting }) act

def step : Run Unit := do
  let s ← get
  match s.steps with
  | 0 => throw .exhausted
  | n + 1 => set { s with steps := n }

def named {α : Type} (name : Octets) (act : Run α) : Run α :=
  within (fun s => { s with context := name ++ ": ".toList })
    (fun s s' => { s' with context := s.context }) act

def withDescriptors {α : Type} (act : Run α) : Run α :=
  within id (fun s s' => { s' with sinks := s.sinks, inputs := s.inputs }) act

def complete (c : Completion) : Run Unit := do
  modify fun s => c.writes.foldl (fun s w => s.write (if w.toError then 2 else 1) w.text) s
  match c.lasted with
  | .never => throw .endless
  | .flooding t => throw (.flood t)
  | .after n => modify fun s => { s with clock := s.clock + n, status := c.status }

def assign (name value : Octets) : Run Unit := do
  let s ← get
  if s.constants.contains name then mistake (name ++ ": is read only".toList)
  else
    let place := if name = "OPTIND".toList then 0 else s.optionPlace
    set { s.setVar name value with optionPlace := place }

def checkFailure (guarded : Bool) : Run Unit := do
  let s ← get
  if s.hasOption 'e' && !guarded && s.status != 0 then throw .exit

def openFailure (creating : Bool) (name : Octets) (e : Errno) : Octets :=
  let why := if e = .noEntry ∨ e = .notDirectory then
    (if creating then "Directory nonexistent".toList else "No such file".toList)
    else e.description
  (if creating then "cannot create ".toList else "cannot open ".toList) ++ name ++ ": ".toList ++ why

/-- The sink that a path leads to, the file emptied first if asked. A file that is there may
have to be kept. -/
def openSink (opening : Opening) (name : Octets) : Run Sink := do
  let s ← get
  let p := Octets.toPath name
  match s.tree.node p with
  | .ok (.device .output) => return (s.sinks.lookup 1).getD .nowhere
  | .ok (.device .errors) => return (s.sinks.lookup 2).getD .nowhere
  | .ok (.device .full) => return .full
  | .ok (.device _) => return .nowhere
  | found =>
    let old := if opening = .append then (s.tree.contents p).toOption.getD [] else []
    if opening = .write ∧ s.hasOption 'C' ∧ found.toOption.isSome then
      mistake ("cannot create ".toList ++ name ++ ": File exists".toList)
    match s.tree.write p old with
    | .ok t => do
      set { s with tree := t }
      return .file p
    | .error e => mistake (openFailure true name e)

def descriptorOf? : Octets → Option Nat
  | [c] => if c.isDigit then some (c.toNat - 48) else none
  | _ => none

def redirect (fd : Nat) (opening : Opening) (target : Octets) : Run Unit := do
  let s ← get
  match opening with
  | .here => set (s.openInput fd ⟨.finite target, s.clock, false⟩)
  | .read | .readWrite => do
    if opening = .readWrite ∧ !s.tree.exists? (Octets.toPath target) then
      let _ ← openSink .append target
    let s ← get
    match s.openFile target with
    | .ok c =>
      set (s.openInput fd ⟨c, s.clock, s.tree.kind? (Octets.toPath target) == some .regular⟩)
    | .error .isDirectory => set (s.openInput fd ⟨.finite [], s.clock, false⟩)
    | .error e => mistake (openFailure false target e)
  | .write | .append | .overwrite => do
    let sink ← openSink opening target
    modify (·.openOutput fd (some sink))
  | .copy =>
    if target = ['-'] then set (s.openOutput fd none)
    else
      match descriptorOf? target with
      | none => do
        set { s with line := s.readLine }
        failWith 2 "Syntax error: Bad fd number".toList
        throw .exit
      | some n =>
        match s.copyDescriptor? fd n with
        | some s => set s
        | none => mistake (target ++ ": Bad file descriptor".toList)

def illegalNumber {α : Type} (t : Octets) : Run α := mistake ("Illegal number: ".toList ++ t)

def count (t : Octets) : Run Nat :=
  match Octets.decimal? t with
  | some (.ofNat n) => if n < Nat.pow 2 31 then return n else illegalNumber t
  | _ => illegalNumber t

def letters (allowed : Octets) : List Octets → Run (Octets × List Octets)
  | ['-', '-'] :: r => return ([], r)
  | ('-' :: c :: cs) :: r => do
    match (c :: cs).find? fun c => !allowed.contains c with
    | some c => mistake ("Illegal option -".toList ++ [c])
    | none =>
      let (found, rest) ← letters allowed r
      return (c :: cs ++ found, rest)
  | r => return ([], r)

def operands (args : List Octets) : Run (List Octets) := do return (← letters [] args).2

end Run

namespace Shell

def settings : List (Option Char × String) :=
  [(some 'e', "errexit"), (some 'f', "noglob"), (some 'I', "ignoreeof"),
    (some 'i', "interactive"), (some 'm', "monitor"), (some 'n', "noexec"), (some 's', "stdin"),
    (some 'x', "xtrace"), (some 'v', "verbose"), (some 'V', "vi"), (some 'E', "emacs"),
    (some 'C', "noclobber"), (some 'a', "allexport"), (some 'b', "notify"),
    (some 'u', "nounset"), (some 'p', "privileged"), (none, "nolog"), (none, "debug")]

def isOn (s : Shell) (letter : Option Char) : Bool := (letter.map s.hasOption).getD false

def settingLines (s : Shell) (asTable : Bool) : Octets :=
  let line (entry : Option Char × String) : Octets :=
    let name := entry.2.toList
    let on := s.isOn entry.1
    if asTable then
      name ++ List.replicate (16 - name.length) ' ' ++ (if on then "on\n" else "off\n").toList
    else (if on then "set -o " else "set +o ").toList ++ name ++ ['\n']
  (if asTable then "Current option settings\n".toList else []) ++ settings.flatMap line

end Shell

namespace Run

def setLetter (on : Bool) (c : Char) : Run Unit := do
  if Shell.settings.any (·.1 == some c) then modify (·.setOption c on)
  else mistake ("Illegal option -".toList ++ [c])

def setNamed (on : Bool) (name : Octets) : Run Unit := do
  match Shell.settings.find? fun entry => entry.2.toList == name with
  | some (some c, _) => modify (·.setOption c on)
  | some (none, _) => return ()
  | none => mistake ("Illegal option -o ".toList ++ name)

structure Given where
  rest : List Octets
  scripted : Bool
  ended : Bool

/-- The letters of one argument. An `o` takes a name from the arguments that follow, and for a
shell that starts, a `c` takes a script. -/
def setLetters (starting on : Bool) : Octets → Given → Run Given
  | [], g => return g
  | 'o' :: cs, g => do
    match g.rest with
    | name :: rest => do
      setNamed on name
      setLetters starting on cs { g with rest := rest }
    | [] => do
      say ((← get).settingLines on)
      setLetters starting on cs g
  | c :: cs, g => do
    if starting ∧ c = 'c' then setLetters starting on cs { g with scripted := true }
    else do
      setLetter on c
      setLetters starting on cs g

def readSettings (starting : Bool) : Nat → Given → Run Given
  | 0, g => return g
  | fuel + 1, g => do
    match g.rest with
    | ['-'] :: r => do
      if !starting then modify fun s => (s.setOption 'x' false).setOption 'v' false
      return { g with rest := r }
    | ['-', '-'] :: r => return { g with rest := r, ended := true }
    | ('-' :: cs) :: r => do
      readSettings starting fuel (← setLetters starting true cs { g with rest := r })
    | ('+' :: cs) :: r => do
      readSettings starting fuel (← setLetters starting false cs { g with rest := r })
    | _ => return g

def setCommand (args : List Octets) : Run Unit := do
  setStatus 0
  let g ← readSettings false (args.length + 1) ⟨args, false, false⟩
  if g.rest ≠ [] ∨ g.ended then modify fun s => { s with args := g.rest, optionPlace := 0 }

def shiftCommand (args : List Octets) : Run Unit := do
  let n ← (match args with
    | [] => pure 1
    | a :: _ => count a : Run Nat)
  let s ← get
  if n ≤ s.args.length then set { s with args := s.args.drop n, optionPlace := 0, status := 0 }
  else mistake "can\x27t shift that many".toList

end Run

end LayoutCheck
