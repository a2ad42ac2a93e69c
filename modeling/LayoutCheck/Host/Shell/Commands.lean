import LayoutCheck.Host.FileTree
import LayoutCheck.Host.LineEditing.Editor
import LayoutCheck.Host.Pattern
import LayoutCheck.Host.Shell.Variables
import LayoutCheck.Host.Utility.Excerpts
import LayoutCheck.Host.Utility.Files
import LayoutCheck.Host.Utility.Ordering
import LayoutCheck.Host.Utility.Printing

/-! # Commands and programs

Signals that are sent and caught, jobs in the background, the expressions of `test`, the commands
that the shell does itself and that run no other command, and the programs that it starts. In an
expression operators are told apart by their words alone, save that a word in front of an operator
between two operands, or at the end, is an operand. -/

namespace LayoutCheck

inductive SignalEffect where
  | nothing
  | stop
  | terminate
  deriving DecidableEq, Repr

namespace Signal

/-- Signals with fixed names, by number from zero. Zero stands for the end of a shell. -/
def fixedNames : List String :=
  ["EXIT", "HUP", "INT", "QUIT", "ILL", "TRAP", "ABRT", "BUS", "FPE", "KILL", "USR1", "SEGV",
    "USR2", "PIPE", "ALRM", "TERM", "16", "CHLD", "CONT", "STOP", "TSTP", "TTIN", "TTOU", "URG",
    "XCPU", "XFSZ", "VTALRM", "PROF", "WINCH", "IO", "PWR", "SYS", "32", "33"]

def countedName (start : String) (k : Nat) : Octets :=
  "RT".toList ++ start.toList ++ if k = 0 then [] else
    (if start = "MIN" then '+' else '-') :: Text.ofNat k

def names : List Octets :=
  fixedNames.map String.toList ++ (List.range 16).map (countedName "MIN")
    ++ (List.range 15).reverse.map (countedName "MAX")

def ofName? (t : Octets) : Option Nat := names.findIdx? (· == t.map Char.toUpper)

def ofText? (t : Octets) : Option Nat :=
  match Octets.nat? t with
  | some n => if n ≤ 64 then some n else none
  | none => ofName? t

def name? (n : Nat) : Option Octets := names[n]?

def description? (n : Nat) : Option Octets :=
  ([(1, "Hangup"), (3, "Quit"), (4, "Illegal instruction"), (5, "Trace/breakpoint trap"),
    (6, "Aborted"), (7, "Bus error"), (8, "Floating point exception"), (9, "Killed"),
    (10, "User defined signal 1"), (11, "Segmentation fault"), (12, "User defined signal 2"),
    (14, "Alarm clock"), (15, "Terminated"), (16, "Stack fault"), (24, "CPU time limit exceeded"),
    (25, "File size limit exceeded"), (26, "Virtual timer expired"),
    (27, "Profiling timer expired"), (29, "I/O possible"), (30, "Power failure"),
    (31, "Bad system call")].lookup n).map String.toList

def effect (n : Nat) : SignalEffect :=
  if n ∈ [0, 17, 18, 23, 28] then .nothing
  else if n ∈ [19, 20, 21, 22] then .stop
  else .terminate

end Signal

namespace Shell

def trapOf? (s : Shell) (signal : Nat) : Option Octets :=
  if signal = 9 then none else (s.outerTraps.getD s.traps).lookup signal

def job? (s : Shell) (pid : Nat) : Option Job := s.jobs.find? (·.pid == pid)

/-- A job that has ended before its time. What it would have written later is not written. -/
def endJob (s : Shell) (j : Job) (signal : Nat) : Shell :=
  let ended : Job := { j with status := 128 + signal, signal := some signal, endsAt := some s.clock }
  { s with
    jobs := s.jobs.map fun k => if k.pid = j.pid then ended else k
    written := s.written.filter fun w => w.time ≤ s.clock }

end Shell

namespace Run

def signal (n : Nat) (target : Octets) : Run Bool := do
  let s ← get
  let pid ← count target
  if pid = s.pid ∨ pid = 0 then
    match s.trapOf? n with
    | some [] => return true
    | some _ => do
      set { s with pending := s.pending ++ [n] }
      return true
    | none =>
      match Signal.effect n with
      | .nothing => return true
      | .stop => throw .endless
      | .terminate => throw (.killed n)
  else
    match s.job? pid with
    | some j => do
      let ended := (j.endsAt.map fun t => decide (t ≤ s.clock)).getD false
      if Signal.effect n = .terminate ∧ ¬ended then set (s.endJob j n)
      return true
    | none => do
      speak "No such process\n".toList
      return false

def killUsage {α : Type} : Run α :=
  mistake "Usage: kill [-s sigspec | -signum | -sigspec] [pid | job]... or\nkill -l [exitstatus]".toList

def listSignals : List Octets → Run Unit
  | [] => do
    say ("0\n".toList ++ (Signal.names.drop 1).flatMap (· ++ ['\n']))
    setStatus 0
  | t :: _ => do
    let n ← count t
    let n := if n > 128 then n - 128 else n
    match Signal.name? n with
    | some name => if n = 0 then wrong t else do say (name ++ ['\n']); setStatus 0
    | none => wrong t
where
  wrong (t : Octets) : Run Unit :=
    mistake ("invalid signal number or exit status: ".toList ++ t)

def sendSignal (n : Nat) (targets : List Octets) : Run Unit := do
  if targets = [] then killUsage
  let found ← targets.mapM (signal n)
  setStatus (if found.all id then 0 else 1)

def killCommand : List Octets → Run Unit
  | [] => killUsage
  | ['-', '-'] :: r => sendSignal 15 r
  | ['-', 'l'] :: r => listSignals r
  | ['-', 's'] :: [] => mistake "No arg for -s option".toList
  | ['-', 's'] :: t :: r =>
    match Signal.ofText? t with
    | some n => sendSignal n r
    | none => mistake ("invalid signal number or name: ".toList ++ t)
  | ('-' :: c :: t) :: r =>
    match Signal.ofText? (c :: t) with
    | some n => sendSignal n r
    | none => mistake ("Illegal option -".toList ++ [c])
  | r => sendSignal 15 r

def setTraps (action : Option Octets) : List Octets → Run Unit
  | [] => setStatus 0
  | t :: r =>
    match Signal.ofText? t with
    | none => do
      modify (·.write 2 ("trap: ".toList ++ t ++ ": bad trap\n".toList))
      setStatus 1
    | some n => do
      modify fun s =>
        { s with traps := (action.map (n, ·)).toList ++ s.traps.filter (·.1 != n) }
      setTraps action r

def trapLines (s : Shell) : Octets :=
  (List.range Signal.names.length).flatMap fun n =>
    match s.traps.lookup n, Signal.name? n with
    | some t, some name => "trap -- ".toList ++ Shell.quoted t ++ ' ' :: name ++ ['\n']
    | _, _ => []

def trapCommand (args : List Octets) : Run Unit := do
  match ← operands args with
  | [] => do
    say (trapLines (← get))
    setStatus 0
  | [t] => setTraps none [t]
  | t :: r =>
    if (Signal.ofText? t).isSome then setTraps none (t :: r)
    else setTraps (if t = ['-'] then none else some t) r

def noticeSignal (n : Nat) (s : Shell) : Shell :=
  let words := if n = 2 ∨ n = 13 then none else Signal.description? n
  { s.write 2 ((words.map (· ++ ['\n'])).getD []) with status := 128 + n }

def waitFor (j : Job) : Run Unit := do
  match j.endsAt with
  | none => throw .endless
  | some n => modify fun s => { s with clock := max s.clock n, status := j.status }

def waitCommand (args : List Octets) : Run Unit := do
  match ← operands args with
  | [] => do
    (← get).jobs.forM waitFor
    setStatus 0
  | ts =>
    ts.forM fun t => do
      if t.head? = some '%' then mistake ("No such job: ".toList ++ t)
      match (← get).job? (← count t) with
      | some j => do
        waitFor j
        if let some n := j.signal then modify (noticeSignal n)
      | none => setStatus 127

/-- Leaves the shell. In a trap, the status is the one that the shell was about to leave with. -/
def exitCommand (args : List Octets) : Run Unit := do
  match args with
  | a :: _ => setStatus ((← count a) % 256)
  | [] => do
    if let some n := (← get).ending then setStatus n
  throw .exit

end Run

namespace Condition

inductive Sign where
  | nothing
  | operand
  | before
  | between
  | not
  | and
  | or
  | opening
  | closing
  deriving DecidableEq, Repr

def beforeOperators : List String :=
  ["-r", "-w", "-x", "-e", "-f", "-d", "-c", "-b", "-p", "-u", "-g", "-k", "-s", "-t", "-z", "-n",
    "-h", "-O", "-G", "-L", "-S"]

def betweenOperators : List String :=
  ["=", "!=", "<", ">", "-eq", "-ne", "-ge", "-gt", "-le", "-lt", "-nt", "-ot", "-ef"]

def signOf (t : Octets) : Sign :=
  let t := String.ofList t
  if beforeOperators.contains t then .before
  else if betweenOperators.contains t then .between
  else
    match t with
    | "!" => .not
    | "-a" => .and
    | "-o" => .or
    | "(" => .opening
    | ")" => .closing
    | _ => .operand

def sign : List Octets → Sign
  | [] => .nothing
  | [t] =>
    match signOf t with
    | .before | .opening => .operand
    | s => s
  | [t, _] => signOf t
  | t :: u :: _ =>
    match signOf t with
    | .before => if signOf u = .between then .operand else .before
    | s => s

def fileHolds (tree : FileTree) (operator : String) (operand : Octets) : Bool :=
  let p := Octets.toPath operand
  let node := (tree.node p).toOption
  match operator with
  | "-e" | "-r" | "-w" | "-O" | "-G" => node.isSome
  | "-f" => node.map Node.kind == some .regular
  | "-d" => node.map Node.kind == some .directory
  | "-c" => match node with
    | some (.device _) => true
    | _ => false
  | "-s" => match (tree.contents p).toOption with
    | some bytes => !bytes.isEmpty
    | none => node.map Node.kind == some .directory
  | "-x" => match node with
    | some (.file _ exec) => exec
    | some (.device _) => false
    | some _ => true
    | none => false
  | "-L" | "-h" => match tree.locate .link p with
    | .ok ⟨_, some (.link _)⟩ => true
    | _ => false
  | _ => false

def beforeHolds (tree : FileTree) (operator operand : Octets) : Bool :=
  match String.ofList operator with
  | "-n" => operand ≠ []
  | "-z" => operand = []
  | o => fileHolds tree o operand

def numberOf (t : Octets) : Except Octets Int :=
  match Octets.decimal? t with
  | some n => .ok n
  | none => .error ("Illegal number: ".toList ++ t)

def sameFile (tree : FileTree) (a b : Octets) : Bool :=
  match tree.locate .target (Octets.toPath a), tree.locate .target (Octets.toPath b) with
  | .ok ⟨m, some _⟩, .ok ⟨n, some _⟩ => m = n
  | _, _ => false

def betweenHolds (tree : FileTree) (left operator right : Octets) : Except Octets Bool :=
  let numeric (f : Int → Int → Bool) : Except Octets Bool := do
    return f (← numberOf left) (← numberOf right)
  match String.ofList operator with
  | "=" => .ok (left = right)
  | "!=" => .ok (left ≠ right)
  | "<" => .ok (decide (left < right))
  | ">" => .ok (decide (right < left))
  | "-eq" => numeric fun a b => a == b
  | "-ne" => numeric fun a b => a != b
  | "-lt" => numeric fun a b => a < b
  | "-le" => numeric fun a b => a ≤ b
  | "-gt" => numeric fun a b => a > b
  | "-ge" => numeric fun a b => a ≥ b
  | "-ef" => .ok (sameFile tree left right)
  | _ => .ok false

mutual

def disjunction (tree : FileTree) : Nat → List Octets → Except Octets (Bool × List Octets)
  | 0, ts => .ok (false, ts)
  | fuel + 1, ts => do
    let (a, ts) ← conjunction tree fuel ts
    if sign (ts.drop 1) = .or then
      let (b, ts) ← disjunction tree fuel (ts.drop 2)
      return (a || b, ts)
    else return (a, ts)

def conjunction (tree : FileTree) : Nat → List Octets → Except Octets (Bool × List Octets)
  | 0, ts => .ok (false, ts)
  | fuel + 1, ts => do
    let (a, ts) ← negation tree fuel ts
    if sign (ts.drop 1) = .and then
      let (b, ts) ← conjunction tree fuel (ts.drop 2)
      return (a && b, ts)
    else return (a, ts)

def negation (tree : FileTree) : Nat → List Octets → Except Octets (Bool × List Octets)
  | 0, ts => .ok (false, ts)
  | fuel + 1, ts =>
    if sign ts = .not then
      if ts.length = 1 then .ok (true, ts)
      else do
        let (a, ts) ← negation tree fuel (ts.drop 1)
        return (!a, ts)
    else primary tree fuel ts

def primary (tree : FileTree) : Nat → List Octets → Except Octets (Bool × List Octets)
  | 0, ts => .ok (false, ts)
  | fuel + 1, ts => do
    match sign ts, ts with
    | .opening, _ :: rest =>
      if sign rest = .closing then return (false, rest)
      let (a, ts) ← disjunction tree fuel rest
      if sign (ts.drop 1) = .closing then return (a, ts.drop 1)
      else throw "closing paren expected".toList
    | .before, o :: x :: rest => return (beforeHolds tree o x, x :: rest)
    | .before, [o] => throw (o ++ ": argument expected".toList)
    | _, a :: o :: rest =>
      if sign (o :: rest) = .between then
        match rest with
        | b :: _ => return (← betweenHolds tree a o b, rest)
        | [] => throw (o ++ ": argument expected".toList)
      else return (a ≠ [], ts)
    | _, [a] => return (a ≠ [], ts)
    | _, [] => return (false, [])

end

def whole (tree : FileTree) (ts : List Octets) : Except Octets Bool := do
  let (a, rest) ← disjunction tree (8 * ts.length + 8) ts
  match rest with
  | o :: _ :: _ => throw ((if o = [] then [] else o ++ ": ".toList) ++ "unexpected operator".toList)
  | _ => return a

/-- Expressions of three or four words are told apart by their number. No word at all is
false. -/
def evaluateFrom (tree : FileTree) (negated : Bool) : List Octets → Except Octets Bool
  | [] => .ok negated
  | a :: ts =>
    let last := (a :: ts).getLast?
    let other (ws : List Octets) : Except Octets Bool := (whole tree ws).map (· != negated)
    match ts with
    | [o, b] =>
      if signOf o = .between then (betweenHolds tree a o b).map (· != negated)
      else if a = ['('] ∧ b = [')'] then other [o]
      else if a = ['!'] then evaluateFrom tree true ts
      else other (a :: ts)
    | [_, _, _] =>
      if a = ['('] ∧ last = some [')'] then other ts.dropLast
      else if a = ['!'] then evaluateFrom tree true ts
      else other (a :: ts)
    | _ => other (a :: ts)

def evaluate (tree : FileTree) (ts : List Octets) : Except Octets Bool := evaluateFrom tree false ts

end Condition

namespace Run

def outputFault? (c : Completion) : Run (Option Octets) := do
  let s ← get
  if c.writes.all fun w => w.toError || w.text = [] then return none
  else
    match s.sinks.lookup 1 with
    | none => return some "Bad file descriptor".toList
    | some .full => return some "No space left on device".toList
    | some _ => return none

def printing (name : Octets) (u : Utility) (args : List Octets) : Run Unit := do
  let c := u args ((← get).desk name)
  complete c
  if (← outputFault? c).isSome then failWith 1 (name ++ ": I/O error".toList)

def printfCommand (name : Octets) (args : List Octets) : Run Unit := do
  let s ← get
  let speaker := s.name ++ ": ".toList ++ Text.ofNat s.line ++ ": printf: ".toList
  printing name (Utility.printfAs speaker) args

def testCommand (args : List Octets) : Run Unit := do
  match Condition.evaluate (← get).tree args with
  | .ok b => setStatus (if b then 0 else 1)
  | .error words => failWith 2 words

def bracketCommand (args : List Octets) : Run Unit := do
  if args.getLast? = some [']'] then testCommand args.dropLast
  else mistake "missing ]".toList

/-- How many loops to leave or to go on with, counted from zero. None outside of loops. -/
def levels? (args : List Octets) : Run (Option Nat) := do
  let n ← (match args with
    | [] => pure 1
    | a :: _ => do
      let n ← count a
      if n = 0 then illegalNumber a else return n : Run Nat)
  setStatus 0
  let loops := (← get).loops
  return if loops = 0 then none else some (min n loops - 1)

def breakCommand (args : List Octets) : Run Unit := do
  if let some n := ← levels? args then throw (.breakOut n)

def continueCommand (args : List Octets) : Run Unit := do
  if let some n := ← levels? args then throw (.goOn n)

def returnCommand (args : List Octets) : Run Unit := do
  if let a :: _ := args then setStatus (← count a)
  throw .leave

def hashCommand (names : List Octets) : Run Unit := do
  setStatus 0
  names.forM fun n => do
    match (← get).meaning n with
    | .nothing => failWith 1 (n ++ ": not found".toList)
    | _ => pure ()

def aliasCommand (name : String) (args : List Octets) : Run Unit := do
  setStatus 0
  args.forM fun a =>
    if a.contains '=' then pure ()
    else do
      modify (·.write 2 (name.toList ++ ": ".toList ++ a ++ " not found\n".toList))
      setStatus 1

def command? (name : Octets) : Option (List Octets → Run Unit) :=
  let always (status : Nat) : List Octets → Run Unit := fun _ => setStatus status
  match String.ofList name with
  | ":" | "true" | "jobs" => some (always 0)
  | "false" => some (always 1)
  | "[" => some bracketCommand
  | "alias" => some (aliasCommand "alias")
  | "bg" | "fg" => some fun _ => mistake "No current job".toList
  | "break" => some breakCommand
  | "cd" | "chdir" => some cdCommand
  | "continue" => some continueCommand
  | "echo" => some (printing name Utility.echo)
  | "exit" => some exitCommand
  | "export" => some exportCommand
  | "getopts" => some getoptsCommand
  | "hash" => some hashCommand
  | "kill" => some killCommand
  | "local" => some localCommand
  | "printf" => some (printfCommand name)
  | "pwd" => some pwdCommand
  | "read" => some readCommand
  | "readonly" => some readonlyCommand
  | "return" => some returnCommand
  | "set" => some fun args => do
    if args = [] then
      let s ← get
      say (s.listing [] (s.vars.map (·.1)))
      setStatus 0
    else setCommand args
  | "shift" => some shiftCommand
  | "test" => some testCommand
  | "times" => some fun _ => do
    say (List.replicate 2 "0m0.000000s 0m0.000000s\n".toList).flatten
    setStatus 0
  | "trap" => some trapCommand
  | "type" => some (describeAll false)
  | "ulimit" => some fun _ => do
    say "unlimited\n".toList
    setStatus 0
  | "umask" => some umaskCommand
  | "unalias" => some (aliasCommand "unalias")
  | "unset" => some unsetCommand
  | "wait" => some waitCommand
  | _ => none

end Run

namespace Program

def echoSettings (silent escapes : Bool) : List Octets → Bool × Bool × List Octets
  | [] => (silent, escapes, [])
  | t :: r =>
    let letters := t.drop 1
    if t.head? = some '-' ∧ letters ≠ [] ∧ letters.all "neE".toList.contains then
      let last := (letters.filter (· != 'n')).getLast?
      echoSettings (silent || letters.contains 'n') ((last.map (· == 'e')).getD escapes) r
    else (silent, escapes, t :: r)

def plainEcho : Utility := fun args d =>
  let (silent, escapes, words) := echoSettings false false args
  if escapes then Utility.echo ((if silent then [['-', 'n']] else []) ++ words) d
  else .ok (Text.joinWith [' '] words ++ if silent then [] else ['\n'])

/-- What a program does to the file tree, and by itself. A shell and `env` start other programs
and are not here, nor is `test`. -/
def utility : Program → FileUtility
  | .chmod => Utility.chmod
  | .cp => Utility.cp
  | .ln => Utility.ln
  | .ls => Utility.ls
  | .mkdir => Utility.mkdir
  | .mv => Utility.mv
  | .rm => Utility.rm
  | .rmdir => Utility.rmdir
  | .sed => fun args d t => (Utility.sedInPlace args d t, Utility.sed args d)
  | .sort => Utility.sortFiles
  | .tee => Utility.tee
  | .touch => Utility.touch
  | p => fun args d t => (t, plain p args d)
where
  plain : Program → Utility
  | .basename => Utility.basename
  | .cat => Utility.cat
  | .cut => Utility.cut
  | .dirname => Utility.dirname
  | .echo => plainEcho
  | .exitFalse => fun _ _ => .silent 1
  | .exitTrue => fun _ _ => .silent 0
  | .grep => Utility.grep
  | .head => Utility.head
  | .printf => fun args d => Utility.printfAs (d.called ++ ": ".toList) args d
  | .rev => Utility.rev
  | .seq => Utility.seq
  | .sleep => Utility.sleep
  | .tac => Utility.tac
  | .tail => Utility.tail
  | .tr => Utility.tr
  | .uniq => Utility.uniq
  | .wc => Utility.wc
  | .yes => Utility.yes
  | _ => fun _ _ => .silent 0

def readsInput (p : Program) (args : List Octets) : Bool :=
  let operands := args.filter fun a => a.head? != some '-' || a == ['-']
  match p with
  | .tr | .tee => true
  | .sed | .grep => operands.length ≤ 1 || operands.contains ['-']
  | .cat | .cut | .head | .rev | .sort | .tac | .tail | .uniq | .wc =>
    operands.isEmpty || operands.contains ['-']
  | _ => false

end Program

namespace Run

def runUtility (p : Program) (called : Octets) (args : List Octets) : Run Unit := do
  let reads := p.readsInput args
  if reads then modify Shell.awaitInput
  let s ← get
  let (tree, c) := p.utility args (s.desk called) s.tree
  set { s with tree := tree }
  if reads then
    match (← get).input with
    | .finite _ => modify (·.setInput (.finite []))
    | .endless _ => pure ()
  complete c
  if let some words := ← outputFault? c then
    let what := if (← get).sinks.lookup 1 = none then "standard output" else "write error"
    modify (·.write 2 (called ++ ": ".toList ++ what.toList ++ ": ".toList ++ words ++ ['\n']))
    setStatus 1

def readEnvironment : List Octets → Run (List Octets)
  | [] => return []
  | ['-', 'u'] :: name :: r => do
    modify (·.unsetVar name)
    readEnvironment r
  | a :: r => do
    if a = ['-'] ∨ a = ['-', 'i'] then do
      modify fun s => { s with exported := [] }
      readEnvironment r
    else
      match Script.assignmentHead? a with
      | some name => do
        modify fun s => (s.setVar name (a.drop (name.length + 1))).exportVar name
        readEnvironment r
      | none => return a :: r

end Run

end LayoutCheck
