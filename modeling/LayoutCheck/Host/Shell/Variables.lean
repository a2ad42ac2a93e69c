import LayoutCheck.Host.FileTree
import LayoutCheck.Host.Pattern
import LayoutCheck.Host.Script.Reader
import LayoutCheck.Host.Shell.State

/-! # Fields, words and variables

Text that came from an unquoted expansion is cut at separators, and a field with an unquoted pattern
stands for the paths that match it. `read` takes a line of input and deals it out to variables.
What a command is called decides who runs it: the grammar, the shell, a function, or a program. -/

namespace LayoutCheck

/-- A byte of an expanded word. A byte that is loose may be a separator; one that is active may
be part of a pattern. An empty quotation makes a field though it has no byte, and a cut ends
one. -/
inductive Glyph where
  | byte (c : Char) (active : Bool)
  | loose (c : Char)
  | nothing
  | cut
  deriving DecidableEq, Repr

abbrev Field := List (Char × Bool)

namespace Glyph

def ofQuoted (t : Octets) : List Glyph := if t = [] then [.nothing] else t.map (.byte · false)

def ofBare (t : Octets) : List Glyph := t.map (.byte · true)

def ofValue (quoted : Bool) (t : Octets) : List Glyph :=
  if quoted then ofQuoted t else t.map .loose

/-- What a word within braces brings along is cut like a value, unless it is quoted. -/
def ofWord (quoted : Bool) (gs : List Glyph) : List Glyph :=
  if quoted then gs
  else gs.map fun
    | .byte c true => .loose c
    | g => g

def ofArgs (quoted : Bool) (args : List Octets) : List Glyph :=
  ((args.map (ofValue quoted)).intersperse [.cut]).flatten

def isBlank (c : Char) : Bool := c == ' ' || c == '\t' || c == '\n'

/-- Cuts a word into fields. A separator other than a blank ends a field even if it is empty,
together with the blanks around it; `closed` tells that blanks have just ended one. -/
def fieldsFrom (separators : Octets) (current : Option Field) (closed : Bool) :
    List Glyph → List Field
  | [] => current.toList
  | .byte c active :: r =>
    fieldsFrom separators (some (current.getD [] ++ [(c, active)])) false r
  | .nothing :: r => fieldsFrom separators (some (current.getD [])) false r
  | .cut :: r => current.toList ++ fieldsFrom separators none false r
  | .loose c :: r =>
    if !separators.contains c then
      fieldsFrom separators (some (current.getD [] ++ [(c, true)])) false r
    else if isBlank c then
      match current with
      | some f => f :: fieldsFrom separators none true r
      | none => fieldsFrom separators none closed r
    else
      match current, closed with
      | none, true => fieldsFrom separators none false r
      | f, _ => f.getD [] :: fieldsFrom separators none false r

def fields (separators : Octets) (gs : List Glyph) : List Field :=
  fieldsFrom separators none false gs

def joined (joint : Octets) (gs : List Glyph) : Octets :=
  gs.flatMap fun
    | .byte c _ | .loose c => [c]
    | .nothing => []
    | .cut => joint

def pattern (joint : Octets) (gs : List Glyph) : Field :=
  gs.flatMap fun
    | .byte c active => [(c, active)]
    | .loose c => [(c, true)]
    | .nothing => []
    | .cut => joint.map (·, false)

end Glyph

namespace Field

def text (f : Field) : Octets := f.map (·.1)

def isPattern (f : Field) : Bool := f.any fun b => b.2 && "*?[".toList.contains b.1

def glob (f : Field) : Glob :=
  (f.splitBy fun a b => a.2 == b.2).flatMap fun run =>
    if run.any (·.2) then Glob.ofText (run.length + 1) (text run) else Glob.literal (text run)

def parts : Field → List Field
  | [] => [[]]
  | b :: r =>
    if b.1 = '/' then [] :: parts r
    else
      match parts r with
      | [] => [[b]]
      | p :: ps => (b :: p) :: ps

/-- Does a pattern mean a name? Names that start with a dot have to be meant expressly. -/
def means (f : Field) (name : Octets) : Bool :=
  (name.head? != some '.' || (text f).head? == some '.') && f.glob.matches? name

def namesIn (tree : FileTree) (dir : Octets) : List Octets :=
  match tree.entries (Octets.toPath dir) with
  | .ok entries => entries.map fun e => Octets.ofBytes e.1
  | .error _ => []

def pathsFrom (tree : FileTree) (base : Octets) : List Field → List Octets
  | [] => [base]
  | [f] =>
    if f.isPattern then
      let dir := if base = [] then ['.'] else base
      let names := namesIn tree dir
      ((names.filter f.means).mergeSort fun a b => !decide (b < a)).map (base ++ ·)
    else
      let p := base ++ text f
      if tree.exists? (Octets.toPath p) then [p] else []
  | f :: rest =>
    if f.isPattern then
      let dir := if base = [] then ['.'] else base
      let names := namesIn tree dir
      let found := (names.filter f.means).mergeSort fun a b => !decide (b < a)
      found.flatMap fun n =>
        if tree.isDirectory (Octets.toPath (base ++ n)) then pathsFrom tree (base ++ n ++ ['/']) rest
        else []
    else pathsFrom tree (base ++ text f ++ ['/']) rest

/-- The words that a field stands for: a pattern without a match is a word like others. -/
def words (tree : FileTree) (f : Field) : List Octets :=
  if f.isPattern then
    match pathsFrom tree [] f.parts with
    | [] => [text f]
    | ps => ps
  else [text f]

end Field

namespace Glyph

/-- A line with its escapes: a backslash keeps the next byte whole and joins two lines. What is
left behind the line comes with it, and whether a newline ended it. -/
def ofEscapedLine : Octets → List Glyph × Octets × Bool
  | [] => ([], [], false)
  | '\n' :: r => ([], r, true)
  | '\\' :: '\n' :: r => ofEscapedLine r
  | ['\\'] => ([], [], false)
  | '\\' :: c :: r =>
    let (gs, rest, ended) := ofEscapedLine r
    (.byte c false :: gs, rest, ended)
  | c :: r =>
    let (gs, rest, ended) := ofEscapedLine r
    (.loose c :: gs, rest, ended)

def ofPlainLine (t : Octets) : List Glyph × Octets × Bool :=
  ((t.takeWhile (· != '\n')).map .loose, t.drop ((t.takeWhile (· != '\n')).length + 1),
    t.contains '\n')

def isBlankSeparator (separators : Octets) : Glyph → Bool
  | .loose c => isBlank c && separators.contains c
  | _ => false

def isSeparator (separators : Octets) : Glyph → Bool
  | .loose c => separators.contains c
  | _ => false

def dropBlank (separators : Octets) (gs : List Glyph) : List Glyph :=
  gs.dropWhile (isBlankSeparator separators)

def trimBlankEnd (separators : Octets) (gs : List Glyph) : List Glyph :=
  (gs.reverse.dropWhile (isBlankSeparator separators)).reverse

def dropSeparator (separators : Octets) (gs : List Glyph) : List Glyph :=
  match dropBlank separators gs with
  | g :: r => if isSeparator separators g then dropBlank separators r else g :: r
  | [] => []

/-- Deals a line out to so many variables. The last gets all that is left, unless that is a
single field. -/
def deal (separators : Octets) : Nat → List Glyph → List Octets
  | 0, _ => []
  | 1, gs =>
    match fields separators gs with
    | [] => [[]]
    | [f] => [f.text]
    | _ => [joined [] (trimBlankEnd separators gs)]
  | n + 1, gs =>
    let field := gs.takeWhile fun g => !isSeparator separators g
    joined [] field :: deal separators n (dropSeparator separators (gs.drop field.length))

end Glyph

namespace Run

def isName (t : Octets) : Bool :=
  match t with
  | c :: r => (c.isAlpha || c == '_') && r.all fun c => c.isAlphanum || c == '_'
  | [] => false

def readLine (raw : Bool) (names : List Octets) : Run Unit := do
  if names = [] then mistake "arg count".toList
  if let some n := names.find? fun n => !isName n then
    mistake (n ++ ": bad variable name".toList)
  modify Shell.awaitInput
  let s ← get
  let text := match s.input with
    | .finite t => t
    | .endless t => t
  let (gs, rest, ended) := if raw then Glyph.ofPlainLine text else Glyph.ofEscapedLine text
  match s.input with
  | .finite _ => set (s.setInput (.finite rest))
  | .endless _ => if !ended then throw .endless
  let separators := s.separators
  let values := Glyph.deal separators names.length (Glyph.dropBlank separators gs)
  (names.zip values).forM fun (n, v) => assign n v
  setStatus (if ended then 0 else 1)

def readCommand : List Octets → Run Unit
  | ['-', 'r'] :: r => readLine true r
  | ['-', '-'] :: r => readLine false r
  | ['-', 'p'] :: _ :: r => readLine false r
  | ['-', 'p'] :: [] => mistake "No arg for -p option".toList
  | ('-' :: c :: _) :: _ => mistake ("Illegal option -".toList ++ [c])
  | r => readLine false r

end Run

namespace Shell

/-- A text as a word of a script: runs of single quotes go between double ones. -/
def quoted (t : Octets) : Octets :=
  let run (r : Octets) : Octets :=
    if r.head? = some '\x27' then '\x22' :: r ++ ['\x22'] else '\x27' :: r ++ ['\x27']
  if t = [] then ['\x27', '\x27']
  else (t.splitBy fun a b => (a == '\x27') == (b == '\x27')).flatMap run

def listing (s : Shell) (lead : Octets) (names : List Octets) : Octets :=
  let sorted := names.mergeSort fun a b => !decide (b < a)
  let lead := if lead = [] then [] else lead ++ [' ']
  sorted.flatMap fun n =>
    lead ++ n ++ (match s.vars.lookup n with
      | some v => '=' :: quoted v
      | none => []) ++ ['\n']

def environment (s : Shell) : List (Octets × Octets) :=
  let place (name : Octets) : Nat :=
    ((name.headD ' ').toNat * 16 + name.foldl (fun n c => n + c.toNat) 0) % 39
  (s.vars.reverse.filter fun v => s.exported.contains v.1).mergeSort fun a b =>
    place a.1 ≤ place b.1

end Shell

namespace Run

def declaration (t : Octets) : Run (Octets × Option Octets) := do
  let name := t.takeWhile (· != '=')
  if !isName name then mistake (name ++ ": bad variable name".toList)
  return (name, if name.length < t.length then some (t.drop (name.length + 1)) else none)

def declareCommand (name : String) (marked : Shell → List Octets)
    (mark : Octets → Shell → Shell) (args : List Octets) : Run Unit := do
  let (shown, names) ← letters ['p'] args
  if names = [] ∨ shown ≠ [] then
    let s ← get
    say (s.listing name.toList (marked s))
  else
    names.forM fun t => do
      let (n, value) ← declaration t
      match value with
      | some v => assign n v
      | none => pure ()
      modify (mark n)
  setStatus 0

def exportCommand : List Octets → Run Unit :=
  declareCommand "export" Shell.exported fun n s => s.exportVar n

def readonlyCommand : List Octets → Run Unit :=
  declareCommand "readonly" Shell.constants fun n s => { s with constants := n :: s.constants.erase n }

def localCommand (args : List Octets) : Run Unit := do
  if (← get).locals = [] then mistake "not in a function".toList
  args.forM fun t => do
    let (n, value) ← declaration t
    modify fun s => match s.locals with
      | frame :: rest =>
        if (frame.lookup n).isSome then s
        else { s with locals := (frame ++ [(n, s.vars.lookup n)]) :: rest }
      | [] => s
    match value with
    | some v => assign n v
    | none => pure ()
  setStatus 0

def unsetCommand (args : List Octets) : Run Unit := do
  let (found, names) ← letters ['f', 'v'] args
  if found.getLast? = some 'f' then
    modify fun s => { s with functions := s.functions.filter fun f => !names.contains f.1 }
  else
    names.forM fun n => do
      if !isName n then mistake (n ++ ": bad variable name".toList)
      if (← get).constants.contains n then mistake (n ++ ": is read only".toList)
      modify (·.unsetVar n)
  setStatus 0

/-- The next option: its letter, its argument, how many arguments are done, and the place inside
the last of them. `none` if no option is left. -/
structure NextOption where
  letter : Char
  argument : Option Octets
  done : Nat
  place : Nat
  complaint : Octets

def nextOption (known : Octets) (args : List Octets) (done place : Nat) : Option NextOption :=
  let silent := known.head? = some ':'
  let inside := if done = 0 ∨ place = 0 then [] else (args.getD (done - 1) []).drop place
  let (rest, done, place) : Octets × Nat × Nat := match inside with
    | [] =>
      match args[done]? with
      | some ('-' :: r) => (r, done + 1, 1)
      | _ => ([], done, 0)
    | r => (r, done, place)
  match rest with
  | [] => none
  | c :: more =>
    let after := if more = [] then 0 else place + 1
    match (if c = ':' then [] else known.dropWhile (· != c)) with
    | [] =>
      if silent then some ⟨'?', some [c], done, after, []⟩
      else some ⟨'?', none, done, after, "Illegal option -".toList ++ [c]⟩
    | _ :: ':' :: _ =>
      match more, args[done]? with
      | [], none =>
        if silent then some ⟨':', some [c], done, 0, []⟩
        else some ⟨'?', none, done, 0, "No arg for -".toList ++ c :: " option".toList⟩
      | [], some a => some ⟨c, some a, done + 1, 0, []⟩
      | m, _ => some ⟨c, some m, done, 0, []⟩
    | _ => some ⟨c, some [], done, after, []⟩

def getoptsCommand : List Octets → Run Unit
  | known :: name :: given => do
    let s ← get
    let args := if given = [] then s.args else given
    let index := ((s.vars.lookup "OPTIND".toList).bind Octets.nat?).getD 1
    let (done, place) := if index - 1 > args.length then (0, 0) else (index - 1, s.optionPlace)
    let finish (done place : Nat) (letter : Char) (status : Nat) : Run Unit := do
      modify fun s =>
        { s.setVar "OPTIND".toList (Text.ofNat (done + 1)) with optionPlace := place }
      assign name [letter]
      setStatus status
    if args[done]? = some ['-', '-'] ∧ place = 0 then finish (done + 1) 0 '?' 1
    else
      match nextOption known args done place with
      | none => finish done 0 '?' 1
      | some o => do
        if o.complaint ≠ [] then modify (·.write 2 (o.complaint ++ ['\n']))
        match o.argument with
        | some a => modify (·.setVar "OPTARG".toList a)
        | none => modify (·.unsetVar "OPTARG".toList)
        finish o.done o.place o.letter 0
  | _ => mistake "Usage: getopts optstring var [arg...]".toList

end Run

namespace Shell

def specialNames : List String :=
  [":", ".", "break", "continue", "eval", "exec", "exit", "export", "local", "readonly", "return",
    "set", "shift", "times", "trap", "unset"]

def ordinaryNames : List String :=
  ["[", "alias", "bg", "cd", "chdir", "command", "echo", "false", "fg", "getopts", "hash", "jobs",
    "kill", "printf", "pwd", "read", "test", "true", "type", "ulimit", "umask", "unalias",
    "wait"]

def isSpecial (name : Octets) : Bool := specialNames.contains (String.ofList name)

def isBuiltin (name : Octets) : Bool :=
  isSpecial name || ordinaryNames.contains (String.ofList name)

inductive Meaning where
  | keyword
  | function
  | special
  | builtin
  | program (path : Octets)
  | nothing

def programPath? (s : Shell) (name : Octets) : Option Octets :=
  if name.contains '/' then
    if (Executable.find s.tree [] (Octets.toPath name)).toOption.isSome then some name else none
  else
    s.searchDirs.findSome? fun d =>
      let p := d.join (Octets.toPath name)
      if (Executable.ofPath s.tree Executable.maxChain p).toOption.isSome then some (Octets.ofPath p)
      else none

def meaning (s : Shell) (name : Octets) : Meaning :=
  if Script.keywords.contains name then .keyword
  else if (s.functions.lookup name).isSome then .function
  else if isSpecial name then .special
  else if isBuiltin name then .builtin
  else
    match s.programPath? name with
    | some p => .program p
    | none => .nothing

end Shell

namespace Run

def describe (short : Bool) (name : Octets) : Run Unit := do
  let s ← get
  let say (t : Octets) : Run Unit := modify (·.write 1 (t ++ ['\n']))
  match s.meaning name with
  | .keyword => say (if short then name else name ++ " is a shell keyword".toList)
  | .function => say (if short then name else name ++ " is a shell function".toList)
  | .special => say (if short then name else name ++ " is a special shell builtin".toList)
  | .builtin => say (if short then name else name ++ " is a shell builtin".toList)
  | .program p => say (if short then p else name ++ " is ".toList ++ p)
  | .nothing => do
    if !short then say (name ++ ": not found".toList)
    setStatus 127

def describeAll (short : Bool) (names : List Octets) : Run Unit := do
  setStatus 0
  names.forM (describe short)

end Run

namespace Shell

def maskDigits (s : Shell) : Octets :=
  [s.mask / 512, s.mask / 64, s.mask / 8, s.mask].map fun n => Char.ofNat (48 + n % 8)

def maskLetters (s : Shell) : Octets :=
  let part (c : Char) (shift : Nat) : Octets :=
    let denied := s.mask / shift
    c :: '=' :: ((if denied / 4 % 2 = 0 then ['r'] else [])
      ++ (if denied / 2 % 2 = 0 then ['w'] else []) ++ if denied % 2 = 0 then ['x'] else [])
  Text.joinWith [','] [part 'u' 64, part 'g' 8, part 'o' 1]

end Shell

namespace Run

def cdCommand (args : List Octets) : Run Unit := do
  let (_, args) ← letters ['L', 'P'] args
  let s ← get
  let back := args.head? = some ['-']
  let asked := match args with
    | [] => s.vars.lookup "HOME".toList
    | d :: _ => if back then s.vars.lookup "OLDPWD".toList else some d
  let target := asked.getD []
  let target := if target = [] then ['.'] else target
  match s.tree.locate .target (Octets.toPath target) with
  | .ok ⟨names, some (.directory _)⟩ => do
    let moved := { s with tree := { s.tree with workingDir := names }, status := 0 }
    let moved := (moved.setVar "OLDPWD".toList s.place).setVar "PWD".toList moved.place
    set ((moved.exportVar "OLDPWD".toList).exportVar "PWD".toList)
    if back then say (moved.place ++ ['\n'])
  | _ => mistake ("can\x27t cd to ".toList ++ target)

def pwdCommand (args : List Octets) : Run Unit := do
  let _ ← letters ['L', 'P'] args
  say ((← get).place ++ ['\n'])
  setStatus 0

def umaskCommand (args : List Octets) : Run Unit := do
  let (found, args) ← letters ['S'] args
  let s ← get
  match args with
  | [] => say ((if found = [] then s.maskDigits else s.maskLetters) ++ ['\n'])
  | t :: _ =>
    if (t.head?.map Char.isDigit).getD false then
      if t.all Octets.isOctalDigit then set { s with mask := Octets.octal t % 512 }
      else illegalNumber t
    else if !t.all fun c => "ugoarwx=+-,".toList.contains c then
      mistake ("Illegal mode: ".toList ++ t)
  setStatus 0

end Run

end LayoutCheck
