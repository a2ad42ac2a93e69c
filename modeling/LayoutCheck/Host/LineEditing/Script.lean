import LayoutCheck.Host.Pattern

/-! # Editing scripts

The commands of a line editor, and how they are read. A mistake is told with the place up to which
the script has been read. -/

namespace LayoutCheck

namespace LineEditing

/-- A pattern; none stands for the one that was used last. -/
structure Pattern where
  regex : Option Regex
  mode : Regex.Mode
  deriving DecidableEq, Repr

inductive Address where
  | line (n : Nat)
  | last
  | every (first step : Nat)
  | pattern (p : Pattern)
  deriving DecidableEq, Repr

inductive Stop where
  | at (a : Address)
  | after (lines : Nat)
  | multiple (n : Nat)
  deriving DecidableEq, Repr

inductive CaseChange where
  | upper (one : Bool)
  | lower (one : Bool)
  | stop
  deriving DecidableEq, Repr

inductive Substitute where
  | byte (c : Char)
  | capture (n : Nat)
  | case_ (change : CaseChange)
  deriving DecidableEq, Repr

/-- `nth` is the first match to be replaced. -/
structure Substitution where
  pattern : Pattern
  by_ : List Substitute
  every : Bool
  nth : Nat
  show_ : Bool
  writeTo : Option Octets
  deriving DecidableEq, Repr

inductive Action where
  | opening
  | closing
  | label (name : Octets)
  | jump (label : Octets)
  | jumpIf (replaced : Bool) (label : Octets)
  | delete (firstLine : Bool)
  | print (firstLine : Bool)
  | next (adding : Bool)
  | quit (silently : Bool) (status : Nat)
  | number
  | name
  | unambiguous (width : Option Nat)
  | substitute (s : Substitution)
  | translate (table : List (Char × Char))
  | append (t : Octets)
  | insert (t : Octets)
  | change (t : Octets)
  | readFile (name : Octets)
  | writeFile (name : Octets)
  | hold (adding : Bool)
  | recall (adding : Bool)
  | swap
  | empty
  | nothing
  deriving DecidableEq, Repr

structure LineCommand where
  index : Nat
  start : Option Address
  stop : Option Stop
  negated : Bool
  action : Action
  deriving DecidableEq, Repr

/-- With `alone` the words are all that is told. -/
structure Mistake where
  place : Nat
  words : Octets
  alone : Bool
  deriving DecidableEq, Repr

structure Input where
  rest : Octets
  place : Nat

abbrev Read := StateT Input (Except Mistake)

def fail {α : Type} (words : String) : Read α := do throw ⟨(← get).place, words.toList, false⟩

def peek? : Read (Option Char) := do return (← get).rest.head?

def advance (n : Nat) : Read Unit :=
  modify fun i => ⟨i.rest.drop n, i.place + (i.rest.take n).length⟩

def take? : Read (Option Char) := do
  let c ← peek?
  advance 1
  return c

def isBlank (c : Char) : Bool := c == ' ' || c == '\t'

def skipWhile (p : Char → Bool) : Read Unit := do
  advance ((← get).rest.takeWhile p).length

def takeWhile (p : Char → Bool) : Read Octets := do
  let t := (← get).rest.takeWhile p
  advance t.length
  return t

def number : Read Nat := do return (Octets.nat? (← takeWhile Char.isDigit)).getD 0

def endOfCommand : Read Unit := do
  skipWhile isBlank
  match ← peek? with
  | none | some '\x7d' | some '#' => return ()
  | some c => do
    advance 1
    if c != '\n' && c != ';' then fail "extra characters after command"

/-- How many bytes are left of a bracket expression; within a named member, up to the mark that
ends its name. -/
def membersLength : Option Char → Octets → Nat
  | _, [] => 0
  | none, '[' :: c :: r =>
    if c = ':' ∨ c = '.' ∨ c = '=' then 2 + membersLength (some c) r
    else 1 + membersLength none (c :: r)
  | none, c :: r => if c = ']' then 1 else 1 + membersLength none r
  | some d, c :: ']' :: r =>
    if c = d then 2 + membersLength none r else 1 + membersLength (some d) (']' :: r)
  | some d, _ :: r => 1 + membersLength (some d) r

def bracketLength (t : Octets) : Nat :=
  let caret := if t.head? = some '^' then 1 else 0
  let lead := if (t.drop caret).head? = some ']' then caret + 1 else caret
  lead + membersLength none (t.drop lead)

/-- A part up to an unescaped delimiter, which a line has to hold as a whole. The escaped
delimiter stands for itself, and other escapes are left for later. In a pattern the next `held`
bytes belong to a bracket expression, which hides the delimiter. -/
def untilDelimiter (delimiter : Char) (isPattern : Bool) (held : Nat) : Octets → Option Octets × Nat
  | [] => (none, 0)
  | '\\' :: c :: r =>
    if held = 0 then
      let (t, n) := untilDelimiter delimiter isPattern 0 r
      (t.map ((if c = delimiter then [c] else ['\\', c]) ++ ·), n + 2)
    else
      let (t, n) := untilDelimiter delimiter isPattern (held - 1) (c :: r)
      (t.map ('\\' :: ·), n + 1)
  | c :: r =>
    if c = '\n' then (none, 0)
    else if held = 0 ∧ c = delimiter then (some [], 1)
    else
      let held := if held = 0 ∧ isPattern ∧ c = '[' then bracketLength r else held - 1
      let (t, n) := untilDelimiter delimiter isPattern held r
      (t.map (c :: ·), n + 1)

def delimited (delimiter : Char) (isPattern : Bool) (words : String) : Read Octets := do
  let (t, n) := untilDelimiter delimiter isPattern 0 (← get).rest
  advance n
  match t with
  | some t => return t
  | none => fail words

def escapeByte? (c : Char) : Option Char :=
  match c with
  | 'a' => some '\x07'
  | 'f' => some '\x0c'
  | 'n' => some '\n'
  | 'r' => some '\r'
  | 't' => some '\t'
  | 'v' => some '\x0b'
  | _ => none

def numberByte? (base most : Nat) (isDigit : Char → Bool) (t : Octets) : Option (Char × Nat) :=
  let digits := (t.take most).takeWhile isDigit
  if digits = [] then none
  else
    let value := digits.foldl (fun n c => n * base + Octets.hex [c]) 0
    some (Char.ofNat (value % 256), digits.length)

/-- The byte that an escape stands for, which starts behind its backslash, and the length of the
escape. -/
def escape? : Octets → Option (Char × Nat)
  | 'c' :: '\\' :: '\\' :: _ => some ('\x1c', 3)
  | 'c' :: c :: _ => some (Char.ofNat (c.toUpper.toNat ^^^ 64), 2)
  | 'd' :: r => (numberByte? 10 3 Char.isDigit r).map fun (c, n) => (c, n + 1)
  | 'o' :: r => (numberByte? 8 3 (fun c => '0' ≤ c && c ≤ '7') r).map fun (c, n) => (c, n + 1)
  | 'x' :: r => (numberByte? 16 2 Octets.isHexDigit r).map fun (c, n) => (c, n + 1)
  | c :: _ => (escapeByte? c).map fun c => (c, 1)
  | [] => none

/-- Puts in the bytes that escapes stand for, after `skipped` bytes. Escapes that stand for none
are kept. -/
def unescaped (skipped : Nat) : Octets → Octets
  | [] => []
  | c :: r =>
    match skipped with
    | k + 1 => unescaped k r
    | 0 =>
      if c = '\\' then
        match escape? r with
        | some (b, n) => b :: unescaped n r
        | none => c :: (r.take 1 ++ unescaped 1 r)
      else c :: unescaped 0 r

def patternOf (extended : Bool) (t : Octets) (mode : Regex.Mode) : Read Pattern := do
  if t = [] then return ⟨none, mode⟩
  match Regex.read extended (unescaped 0 t) with
  | .ok r => return ⟨some r, mode⟩
  | .error e => throw ⟨(← get).place, e.words.toList, e = .bareClass⟩

def patternMode (m : Regex.Mode) : Nat → Read Regex.Mode
  | 0 => return m
  | fuel + 1 => do
    match ← peek? with
    | some 'I' => do advance 1; patternMode { m with anyCase := true } fuel
    | some 'M' => do advance 1; patternMode { m with multiline := true } fuel
    | _ => return m

def readStop? (extended : Bool) : Read (Option Stop) := do
  match ← peek? with
  | some '$' => do advance 1; return some (.at .last)
  | some '+' => do advance 1; return some (.after (← number))
  | some '~' => do advance 1; return some (.multiple (← number))
  | some '/' => do
    advance 1
    pattern '/'
  | some '\\' => do
    advance 1
    match ← take? with
    | some c => pattern c
    | none => fail "unexpected \x60,\x27"
  | some c =>
    if !c.isDigit then return none
    let n ← number
    skipWhile isBlank
    match ← peek? with
    | some '~' => do
      advance 1
      skipWhile isBlank
      let step ← number
      return some (.at (if step = 0 then .line n else .every n step))
    | _ => return some (.at (.line n))
  | none => return none
where
  pattern (delimiter : Char) : Read (Option Stop) := do
    let t ← delimited delimiter true "unterminated address regex"
    let mode ← patternMode ⟨false, false⟩ ((← get).rest.length + 1)
    return some (.at (.pattern (← patternOf extended t mode)))

def replacement (skipped : Nat) : Octets → List Substitute
  | [] => []
  | c :: r =>
    match skipped with
    | k + 1 => replacement k r
    | 0 =>
      if c = '&' then .capture 0 :: replacement 0 r
      else if c ≠ '\\' then .byte c :: replacement 0 r
      else
        match escape? r, r with
        | some (b, n), _ => .byte b :: replacement n r
        | none, [] => []
        | none, d :: _ =>
          let one : Substitute :=
            if d.isDigit then .capture (d.toNat - 48)
            else
              match d with
              | 'U' => .case_ (.upper false)
              | 'u' => .case_ (.upper true)
              | 'L' => .case_ (.lower false)
              | 'l' => .case_ (.lower true)
              | 'E' => .case_ .stop
              | _ => .byte d
          one :: replacement 1 r

def substitutionFlags (s : Substitution) (numbered : Bool) : Nat → Read Substitution
  | 0 => return s
  | fuel + 1 => do
    match ← take? with
    | none | some '\n' | some ';' => return s
    | some ' ' | some '\t' => substitutionFlags s numbered fuel
    | some 'i' | some 'I' =>
      substitutionFlags (withMode s { s.pattern.mode with anyCase := true }) numbered fuel
    | some 'm' | some 'M' =>
      substitutionFlags (withMode s { s.pattern.mode with multiline := true }) numbered fuel
    | some 'p' =>
      if s.show_ then fail "multiple \x60p\x27 options to \x60s\x27 command"
      else substitutionFlags { s with show_ := true } numbered fuel
    | some 'g' =>
      if s.every then fail "multiple \x60g\x27 options to \x60s\x27 command"
      else substitutionFlags { s with every := true } numbered fuel
    | some 'w' => do
      skipWhile isBlank
      let name ← takeWhile (· != '\n')
      if name = [] then fail "missing filename in r/R/w/W commands"
      else return { s with writeTo := some name }
    | some c =>
      if c = '\x7d' ∨ c = '#' then do
        modify fun i => ⟨c :: i.rest, i.place - 1⟩
        return s
      else if c.isDigit then do
        let more ← takeWhile Char.isDigit
        let n := (Octets.nat? (c :: more)).getD 0
        if numbered then fail "multiple number options to \x60s\x27 command"
        else if n = 0 then fail "number option to \x60s\x27 command may not be zero"
        else substitutionFlags { s with nth := n } true fuel
      else fail "unknown option to \x60s\x27"
where
  withMode (s : Substitution) (m : Regex.Mode) : Substitution :=
    { s with pattern := { s.pattern with mode := m } }

def readSubstitution (extended : Bool) : Read Action := do
  let unterminated := "unterminated \x60s\x27 command"
  match ← take? with
  | none | some '\n' | some '\\' => fail unterminated
  | some delimiter =>
    let t ← delimited delimiter true unterminated
    let by_ := replacement 0 (← delimited delimiter false unterminated)
    let s ← substitutionFlags ⟨⟨none, ⟨false, false⟩⟩, by_, false, 1, false, none⟩ false
      ((← get).rest.length + 1)
    let pattern ← patternOf extended t s.pattern.mode
    let greatest := by_.foldl (fun n x => match x with
      | .capture k => max n k
      | _ => n) 0
    match pattern.regex with
    | some r =>
      if r.groups < greatest then
        throw ⟨(← get).place, "invalid reference \\".toList ++ Text.ofNat greatest
          ++ " on \x60s\x27 command\x27s RHS".toList, false⟩
    | none => pure ()
    return .substitute { s with pattern := pattern }

def tableBytes : Octets → Octets
  | [] => []
  | '\\' :: c :: r => (if c = '\\' then '\\' else (escapeByte? c).getD c) :: tableBytes r
  | c :: r => c :: tableBytes r

def readTable : Read Action := do
  let unterminated := "unterminated \x60y\x27 command"
  match ← take? with
  | none | some '\n' | some '\\' => fail unterminated
  | some delimiter =>
    let a := tableBytes (← delimited delimiter false unterminated)
    let b := tableBytes (← delimited delimiter false unterminated)
    if a.length ≠ b.length then fail "strings for \x60y\x27 command are different lengths"
    endOfCommand
    return .translate (a.zip b)

def textLines : Octets → Octets × Nat
  | [] => ([], 0)
  | '\n' :: _ => ([], 1)
  | ['\\'] => ([], 1)
  | '\\' :: c :: r =>
    let (t, n) := textLines r
    ((escapeByte? c).getD c :: t, n + 2)
  | c :: r =>
    let (t, n) := textLines r
    (c :: t, n + 1)

def readText : Read Octets := do
  skipWhile isBlank
  if (← peek?).isNone then fail "expected \\ after \x60a\x27, \x60c\x27 or \x60i\x27"
  if (← peek?) = some '\\' then
    advance 1
    if (← peek?) = some '\n' then advance 1
    else if (← peek?).isNone then return []
  let (t, n) := textLines (← get).rest
  advance n
  return t ++ ['\n']

def readLabel : Read Octets := do
  skipWhile isBlank
  takeWhile fun c => c != '\n' && c != ';' && !isBlank c

def readName : Read Octets := do
  skipWhile isBlank
  let name ← takeWhile (· != '\n')
  if name = [] then fail "missing filename in r/R/w/W commands" else return name

def readAction (extended : Bool) (ranged : Bool) (c : Char) : Read Action := do
  let simple (a : Action) : Read Action := do
    endOfCommand
    return a
  match c with
  | '\x7b' => return .opening
  | 'a' => return .append (← readText)
  | 'i' => return .insert (← readText)
  | 'c' => return .change (← readText)
  | 'b' => return .jump (← readLabel)
  | 't' => return .jumpIf true (← readLabel)
  | 'T' => return .jumpIf false (← readLabel)
  | 'd' => simple (.delete false)
  | 'D' => simple (.delete true)
  | 'p' => simple (.print false)
  | 'P' => simple (.print true)
  | 'n' => simple (.next false)
  | 'N' => simple (.next true)
  | '=' => simple .number
  | 'F' => simple .name
  | 'g' => simple (.recall false)
  | 'G' => simple (.recall true)
  | 'h' => simple (.hold false)
  | 'H' => simple (.hold true)
  | 'x' => simple .swap
  | 'z' => simple .empty
  | 'q' | 'Q' => do
    if ranged then fail "command only uses one address"
    skipWhile isBlank
    let n ← number
    simple (.quit (c == 'Q') n)
  | 'l' => do
    skipWhile isBlank
    let t ← takeWhile Char.isDigit
    simple (.unambiguous (Octets.nat? t))
  | 'r' => return .readFile (← readName)
  | 'w' => return .writeFile (← readName)
  | 's' => readSubstitution extended
  | 'y' => readTable
  | 'v' => do
    let _ ← readLabel
    return .nothing
  | c => throw ⟨(← get).place, "unknown command: \x60".toList ++ c :: "\x27".toList, false⟩

def readAddresses (extended : Bool) : Read (Option Address × Option Stop) := do
  match ← readStop? extended with
  | none => return (none, none)
  | some (.at a) => do
    skipWhile isBlank
    let stop ← (do
      if (← peek?) = some ',' then
        advance 1
        skipWhile isBlank
        match ← readStop? extended with
        | some s => return some s
        | none => do
          advance 1
          fail "unexpected \x60,\x27"
      else return none : Read (Option Stop))
    if a = .line 0 then
      match stop with
      | some (.at (.pattern _)) => pure ()
      | _ => do
        skipWhile isBlank
        advance 1
        fail "invalid usage of line address 0"
    return (some a, stop)
  | some _ => fail "invalid usage of +N or ~N as first address"

def readEdits (extended : Bool) (index open_ : Nat) : Nat → Read (List LineCommand)
  | 0 => return []
  | fuel + 1 => do
    skipWhile fun c => c == ';' || Octets.isSpace c
    if (← peek?).isNone then
      if open_ > 0 then throw ⟨0, "unmatched \x60\x7b\x27".toList, false⟩ else return []
    let (start, stop) ← readAddresses extended
    skipWhile isBlank
    let negated := (← peek?) = some '!'
    if negated then
      advance 1
      skipWhile isBlank
      if (← peek?) = some '!' then
        advance 1
        fail "multiple \x60!\x27s"
    let edit (a : Action) : LineCommand := ⟨index, start, stop, negated, a⟩
    match ← take? with
    | none => fail "missing command"
    | some '#' =>
      if start.isSome then fail "comments don\x27t accept any addresses"
      skipWhile (· != '\n')
      readEdits extended index open_ fuel
    | some '\x7d' =>
      if open_ = 0 then fail "unexpected \x60\x7d\x27"
      if start.isSome then fail "\x7d doesn\x27t want any addresses"
      endOfCommand
      return edit .closing :: (← readEdits extended (index + 1) (open_ - 1) fuel)
    | some ':' =>
      if start.isSome then fail ": doesn\x27t want any addresses"
      let name ← readLabel
      if name = [] then fail "\":\" lacks a label"
      return edit (.label name) :: (← readEdits extended (index + 1) open_ fuel)
    | some c =>
      let a ← readAction extended stop.isSome c
      let open_ := if a = .opening then open_ + 1 else open_
      return edit a :: (← readEdits extended (index + 1) open_ fuel)

def readScript (extended : Bool) (t : Octets) : Except Mistake (List LineCommand) :=
  ((readEdits extended 0 0 (t.length + 2)).run ⟨t, 0⟩).map (·.1)

def lostLabel? (edits : List LineCommand) : Option Octets :=
  let labels := edits.filterMap fun e => match e.action with
    | .label n => some n
    | _ => none
  edits.findSome? fun e =>
    let wanted := match e.action with
      | .jump n | .jumpIf _ n => n
      | _ => []
    if wanted = [] ∨ labels.contains wanted then none else some wanted

end LineEditing

end LayoutCheck
