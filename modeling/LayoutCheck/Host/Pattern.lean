import LayoutCheck.Text

/-! # Octets and patterns

Scripts and the data that flows between programs are bytes, not characters. They are handled as
texts with one character for each byte, so that every character is below 256. Patterns of a shell
know stars, question marks and sets; regular expressions have a basic and an extended notation, and
of the leftmost matches the longest wins. -/

namespace LayoutCheck

abbrev Octets := Text

namespace Octets

def ofBytes (bs : Bytes) : Octets := bs.map fun b => Char.ofNat b.toNat

def toBytes (t : Octets) : Bytes := t.map fun c => c.toNat.toUInt8

def toPath (t : Octets) : Path := ⟨toBytes t⟩

def ofPath (p : Path) : Octets := ofBytes p.bytes

/-- Lines with a flag that tells whether a newline ended them. Only the last may lack it. -/
def lines : Octets → List (Octets × Bool)
  | [] => []
  | c :: r =>
    if c = '\n' then ([], true) :: lines r
    else
      match lines r with
      | [] => [([c], false)]
      | (l, ended) :: rest => (c :: l, ended) :: rest

def swapEnds (t : Octets) : Octets :=
  t.map fun c => if c = '\n' then '\x00' else if c = '\x00' then '\n' else c

def ofLine (l : Octets × Bool) : Octets := if l.2 then l.1 ++ ['\n'] else l.1

def octal (digits : Octets) : Nat := digits.foldl (fun n d => n * 8 + (d.toNat - 48)) 0

def isOctalDigit (c : Char) : Bool := '0' ≤ c && c ≤ '7'

def byteOf (n : Nat) : Char := Char.ofNat (n % 256)

def nat? (t : Octets) : Option Nat :=
  if t = [] ∨ ¬t.all Char.isDigit then none else some (Nat.ofDigitChars 10 t 0)

def isHexDigit (c : Char) : Bool := c.isDigit || ('a' ≤ c.toLower && c.toLower ≤ 'f')

def hex (digits : Octets) : Nat :=
  digits.foldl (fun n d => n * 16 + if d.isDigit then d.toNat - 48 else d.toLower.toNat - 87) 0

/-- The number at the start of a text that starts with a digit: `0x` makes it hexadecimal and
a zero octal. -/
def number (t : Octets) : Nat × Octets :=
  match t with
  | '0' :: x :: d :: r =>
    if (x == 'x' || x == 'X') && isHexDigit d then
      (hex ((d :: r).takeWhile isHexDigit), (d :: r).dropWhile isHexDigit)
    else (octal (t.takeWhile isOctalDigit), t.dropWhile isOctalDigit)
  | '0' :: _ => (octal (t.takeWhile isOctalDigit), t.dropWhile isOctalDigit)
  | _ => (Nat.ofDigitChars 10 (t.takeWhile Char.isDigit) 0, t.dropWhile Char.isDigit)

def isSpace (c : Char) : Bool := c == ' ' || ('\t' ≤ c && c ≤ '\r')

/-- A sign and digits, perhaps between blanks; `digits` tells their value and what follows. -/
def signedNumber? (digits : Octets → Nat × Octets) (t : Octets) : Option Int :=
  let (negative, body) : Bool × Octets := match t.dropWhile isSpace with
    | '-' :: r => (true, r)
    | '+' :: r => (false, r)
    | r => (false, r)
  if !(body.head?.map Char.isDigit).getD false then none
  else
    let (n, rest) := digits body
    let fits := if negative then n ≤ Nat.pow 2 63 else n < Nat.pow 2 63
    if fits ∧ rest.all isSpace then some (if negative then -n else n) else none

def wholeNumber? (t : Octets) : Option Int := signedNumber? number t

def decimal? (t : Octets) : Option Int :=
  signedNumber? (fun d => (Nat.ofDigitChars 10 (d.takeWhile Char.isDigit) 0,
    d.dropWhile Char.isDigit)) t

end Octets

structure CharSet where
  negated : Bool
  ranges : List (Char × Char)
  deriving DecidableEq, Repr

namespace CharSet

def covers (ranges : List (Char × Char)) (c : Char) : Bool :=
  ranges.any fun r => r.1 ≤ c && c ≤ r.2

def mem (s : CharSet) (c : Char) : Bool := covers s.ranges c != s.negated

def named? (name : Octets) : Option (List (Char × Char)) :=
  match String.ofList name with
  | "alpha" => some [('A', 'Z'), ('a', 'z')]
  | "digit" => some [('0', '9')]
  | "alnum" => some [('0', '9'), ('A', 'Z'), ('a', 'z')]
  | "upper" => some [('A', 'Z')]
  | "lower" => some [('a', 'z')]
  | "space" => some [('\t', '\r'), (' ', ' ')]
  | "blank" => some [('\t', '\t'), (' ', ' ')]
  | "punct" => some [('!', '/'), (':', '@'), ('[', '\x60'), ('\x7b', '~')]
  | "print" => some [(' ', '~')]
  | "graph" => some [('!', '~')]
  | "cntrl" => some [('\x00', '\x1f'), ('\x7f', '\x7f')]
  | "xdigit" => some [('0', '9'), ('A', 'F'), ('a', 'f')]
  | _ => none

def className? : Octets → Option (Octets × Octets)
  | [] => none
  | ':' :: ']' :: r => some ([], r)
  | c :: r => (className? r).map fun (n, rest) => (c :: n, rest)

inductive Fault where
  | unclosed
  | unknownClass
  deriving DecidableEq, Repr

/-- Reads the members up to the closing bracket, which may come first as a member. -/
def readMembers (first : Bool) (acc : List (Char × Char)) :
    Nat → Octets → Except Fault (List (Char × Char) × Octets)
  | 0, _ => .error .unclosed
  | _ + 1, [] => .error .unclosed
  | fuel + 1, ']' :: r =>
    if first then readMembers false (acc ++ [(']', ']')]) fuel r else .ok (acc, r)
  | fuel + 1, '[' :: ':' :: r =>
    match className? r with
    | none => .error .unclosed
    | some (name, rest) =>
      match named? name with
      | none => .error .unknownClass
      | some ranges => readMembers false (acc ++ ranges) fuel rest
  | fuel + 1, a :: '-' :: b :: r =>
    if b = ']' then readMembers false (acc ++ [(a, a)]) fuel ('-' :: b :: r)
    else readMembers false (acc ++ [(a, b)]) fuel r
  | fuel + 1, a :: r => readMembers false (acc ++ [(a, a)]) fuel r

def read (negation : Char → Bool) (t : Octets) : Except Fault (CharSet × Octets) :=
  let body (negated : Bool) (t : Octets) :=
    (readMembers true [] (t.length + 1) t).map fun (ranges, rest) => (⟨negated, ranges⟩, rest)
  match t with
  | c :: r => if negation c then body true r else body false t
  | [] => .error .unclosed

end CharSet

inductive GlobItem where
  | byte (c : Char)
  | one
  | many
  | set (s : CharSet)
  deriving DecidableEq, Repr

abbrev Glob := List GlobItem

namespace Glob

def literal (t : Octets) : Glob := t.map GlobItem.byte

def ofText : Nat → Octets → Glob
  | 0, _ => []
  | _ + 1, [] => []
  | fuel + 1, '*' :: r => .many :: ofText fuel r
  | fuel + 1, '?' :: r => .one :: ofText fuel r
  | fuel + 1, '[' :: r =>
    match CharSet.read (fun c => c == '!' || c == '^') r with
    | .ok (s, rest) => .set s :: ofText fuel rest
    | .error _ => .byte '[' :: ofText fuel r
  | fuel + 1, c :: r => .byte c :: ofText fuel r

def matches? : Glob → Octets → Bool
  | [], t => t.isEmpty
  | .many :: g, t => (List.range (t.length + 1)).any fun k => matches? g (t.drop k)
  | .one :: g, t =>
    match t with
    | [] => false
    | _ :: r => matches? g r
  | .byte b :: g, t =>
    match t with
    | [] => false
    | c :: r => b == c && matches? g r
  | .set s :: g, t =>
    match t with
    | [] => false
    | c :: r => s.mem c && matches? g r

def trimStart (g : Glob) (longest : Bool) (t : Octets) : Octets :=
  let cuts := (List.range (t.length + 1)).filter fun k => matches? g (t.take k)
  match if longest then cuts.getLast? else cuts.head? with
  | some k => t.drop k
  | none => t

def trimEnd (g : Glob) (longest : Bool) (t : Octets) : Octets :=
  let cuts := (List.range (t.length + 1)).filter fun k => matches? g (t.drop k)
  match if longest then cuts.head? else cuts.getLast? with
  | some k => t.take k
  | none => t

end Glob

inductive Regex where
  | empty
  | byte (c : Char)
  | any
  | set (s : CharSet)
  | lineStart
  | lineEnd
  | wordStart
  | wordEnd
  | wordEdge (negated : Bool)
  | noWordBefore
  | noWordAfter
  | seq (a b : Regex)
  | alt (a b : Regex)
  | times (r : Regex) (least : Nat) (most : Option Nat)
  | group (index : Nat) (r : Regex)
  | again (index : Nat)
  deriving DecidableEq, Repr

namespace Regex

inductive Lexeme where
  | item (r : Regex)
  | times (least : Nat) (most : Option Nat)
  | opening
  | closing
  | bar
  deriving DecidableEq, Repr

inductive Fault where
  | lostBracket
  | bracket
  | bareClass
  | className
  | rangeEnd
  | openGroup
  | closedGroup
  | openInterval
  | badInterval
  | nothingRepeated
  | trailingBackslash
  | noSuchGroup
  deriving DecidableEq, Repr

def Fault.words : Fault → String
  | lostBracket => "Invalid regular expression"
  | bareClass => "character class syntax is [[:space:]], not [:space:]"
  | bracket => "Unmatched [, [^, [:, [., or [="
  | className => "Invalid character class name"
  | rangeEnd => "Invalid range end"
  | openGroup => "Unmatched ( or \\("
  | closedGroup => "Unmatched ) or \\)"
  | openInterval => "Unmatched \\\x7b"
  | badInterval => "Invalid content of \\\x7b\\\x7d"
  | nothingRepeated => "Invalid preceding regular expression"
  | trailingBackslash => "Trailing backslash"
  | noSuchGroup => "Invalid back reference"

def interval (extended : Bool) (t : Octets) : Except Fault (Lexeme × Octets) :=
  let low := Octets.nat? (t.takeWhile Char.isDigit)
  let rest := t.dropWhile Char.isDigit
  let (most, rest) : Option Nat × Octets := match rest with
    | ',' :: r => (Octets.nat? (r.takeWhile Char.isDigit), r.dropWhile Char.isDigit)
    | r => (low, r)
  let closed : Option Octets := match extended, rest with
    | true, '\x7d' :: r => some r
    | false, '\\' :: '\x7d' :: r => some r
    | _, _ => none
  let commas := (t.dropWhile Char.isDigit).head? = some ','
  match closed with
  | some r =>
    if (low = none ∧ ¬commas) ∨ most.getD (low.getD 0) < low.getD 0 then .error .badInterval
    else .ok (.times (low.getD 0) most, r)
  | none => .error (if rest = [] then .openInterval else .badInterval)

def isBareClass (t : Octets) : Bool :=
  let inner := ((if t.head? = some '^' then t.drop 1 else t).takeWhile (· != ']'))
  inner.head? = some ':' && inner.getLast? = some ':' && inner.length > 2
    && inner.all fun c => c != '-' && c != '['

def bracketed (t : Octets) : Except Fault (CharSet × Octets) :=
  if t = [] then .error .lostBracket
  else if isBareClass t then .error .bareClass
  else
    match CharSet.read (· == '^') t with
    | .error .unclosed => .error .bracket
    | .error .unknownClass => .error .className
    | .ok (s, rest) =>
      if s.ranges.any fun r => decide (r.2 < r.1) then .error .rangeEnd else .ok (s, rest)

def wordBytes : List (Char × Char) := [('0', '9'), ('A', 'Z'), ('_', '_'), ('a', 'z')]

def blankBytes : List (Char × Char) := [('\t', '\r'), (' ', ' ')]

def endsBranch (extended : Bool) : Octets → Bool
  | [] => true
  | c :: r =>
    if extended then c == ')' || c == '|'
    else c == '\\' && (r.head? == some ')' || r.head? == some '|')

/-- Lexemes of an expression; `fresh` at the start of a branch, where a star stands for
itself and a caret is an anchor. -/
def lexemes (extended : Bool) (fresh : Bool) : Nat → Octets → Except Fault (List Lexeme)
  | 0, _ => .ok []
  | _ + 1, [] => .ok []
  | fuel + 1, c :: r =>
    let next (l : Lexeme) (rest : Octets) : Except Fault (List Lexeme) :=
      (lexemes extended (l == .opening || l == .bar) fuel rest).map (l :: ·)
    let plain (c : Char) (rest : Octets) := next (.item (.byte c)) rest
    match c with
    | '.' => next (.item .any) r
    | '[' => do
      let (s, rest) ← bracketed r
      next (.item (.set s)) rest
    | '*' => if fresh && !extended then plain c r else next (.times 0 none) r
    | '^' =>
      if fresh || extended then (lexemes extended true fuel r).map (.item .lineStart :: ·)
      else plain c r
    | '$' => if endsBranch extended r || extended then next (.item .lineEnd) r else plain c r
    | '\\' =>
      match r with
      | [] => .error .trailingBackslash
      | d :: rest =>
        if d.isDigit && d != '0' then next (.item (.again (d.toNat - 48))) rest
        else
          match d, extended with
          | 'n', _ => plain '\n' rest
          | 't', _ => plain '\t' rest
          | 'f', _ => plain '\x0c' rest
          | 'r', _ => plain '\r' rest
          | 'v', _ => plain '\x0b' rest
          | 's', _ => next (.item (.set ⟨false, blankBytes⟩)) rest
          | 'S', _ => next (.item (.set ⟨true, blankBytes⟩)) rest
          | 'w', _ => next (.item (.set ⟨false, wordBytes⟩)) rest
          | 'W', _ => next (.item (.set ⟨true, wordBytes⟩)) rest
          | '<', _ => next (.item .wordStart) rest
          | '>', _ => next (.item .wordEnd) rest
          | 'b', _ => next (.item (.wordEdge false)) rest
          | 'B', _ => next (.item (.wordEdge true)) rest
          | '\x60', _ => next (.item .lineStart) rest
          | '\x27', _ => next (.item .lineEnd) rest
          | '(', false => next .opening rest
          | ')', false => next .closing rest
          | '|', false => next .bar rest
          | '+', false => if fresh then plain d rest else next (.times 1 none) rest
          | '?', false => if fresh then plain d rest else next (.times 0 (some 1)) rest
          | '\x7b', false => do
            let (l, rest) ← interval extended rest
            if fresh then throw .nothingRepeated
            next l rest
          | _, _ => plain d rest
    | '(' => if extended then next .opening r else plain c r
    | ')' => if extended then next .closing r else plain c r
    | '|' => if extended then next .bar r else plain c r
    | '+' => if extended then next (.times 1 none) r else plain c r
    | '?' => if extended then next (.times 0 (some 1)) r else plain c r
    | '\x7b' =>
      if extended then do
        let (l, rest) ← interval extended r
        next l rest
      else plain c r
    | _ => plain c r

structure Frame where
  index : Nat
  finished : Option Regex
  branch : List Regex

namespace Frame

def start (index : Nat) : Frame := ⟨index, none, []⟩

def branchRegex (f : Frame) : Regex := f.branch.foldr Regex.seq .empty

def close (f : Frame) : Regex :=
  match f.finished with
  | none => f.branchRegex
  | some r => .alt r f.branchRegex

def add (f : Frame) (r : Regex) : Frame := { f with branch := f.branch ++ [r] }

end Frame

def assemble (groups : Nat) : List Frame → List Lexeme → Except Fault Regex
  | [f], [] => .ok f.close
  | _, [] => .error .openGroup
  | [], _ :: _ => .error .closedGroup
  | f :: fs, l :: ls =>
    match l with
    | .item (.again n) =>
      if n ≤ groups then assemble groups (f.add (.again n) :: fs) ls else .error .noSuchGroup
    | .item r => assemble groups (f.add r :: fs) ls
    | .times least most =>
      match f.branch.getLast? with
      | none => .error .nothingRepeated
      | some r =>
        assemble groups ({ f with branch := f.branch.dropLast ++ [.times r least most] } :: fs) ls
    | .opening => assemble (groups + 1) (.start (groups + 1) :: f :: fs) ls
    | .closing =>
      match fs with
      | [] => .error .closedGroup
      | g :: gs => assemble groups (g.add (.group f.index f.close) :: gs) ls
    | .bar => assemble groups ({ f with finished := some f.close, branch := [] } :: fs) ls

def read (extended : Bool) (t : Octets) : Except Fault Regex := do
  assemble 0 [.start 0] (← lexemes extended true (t.length + 1) t)

def groups : Regex → Nat
  | .seq a b | .alt a b => a.groups + b.groups
  | .times r _ _ => r.groups
  | .group _ r => r.groups + 1
  | _ => 0

abbrev Captures := List (Nat × Octets)

structure Spot where
  captures : Captures
  last : Option Char
  rest : Octets

namespace Spot

def pass (s : Spot) (n : Nat) : Spot :=
  { s with last := (s.rest.take n).getLast?.or s.last, rest := s.rest.drop n }

def isWordByte (c : Option Char) : Bool := (c.map (CharSet.covers wordBytes)).getD false

def afterWord (s : Spot) : Bool := isWordByte s.last

def beforeWord (s : Spot) : Bool := isWordByte s.rest.head?

end Spot

structure Mode where
  anyCase : Bool
  multiline : Bool
  deriving DecidableEq, Repr

def Mode.fold (m : Mode) (c : Char) : Char := if m.anyCase then c.toLower else c

/-- Repeats a step between so and so many times, as often as it can first. Repetitions that
consume nothing are not tried again. -/
def iterate (step : Spot → List Spot) : Nat → Nat → Option Nat → Spot → List Spot
  | 0, _, _, s => [s]
  | fuel + 1, least, most, s =>
    let further :=
      if most = some 0 then []
      else
        let reached := step s
        let reached :=
          if least = 0 then reached.filter fun s' => s'.rest.length < s.rest.length else reached
        reached.flatMap (iterate step fuel (least - 1) (most.map (· - 1)))
    if least = 0 then further ++ [s] else further

def run (m : Mode) : Regex → Spot → List Spot
  | .empty, s => [s]
  | .byte b, s =>
    match s.rest with
    | [] => []
    | c :: _ => if m.fold b = m.fold c then [s.pass 1] else []
  | .any, s => if s.rest = [] then [] else [s.pass 1]
  | .set cs, s =>
    match s.rest with
    | [] => []
    | c :: _ =>
      let hit := CharSet.covers cs.ranges c
        || (m.anyCase && (CharSet.covers cs.ranges c.toLower || CharSet.covers cs.ranges c.toUpper))
      if hit != cs.negated then [s.pass 1] else []
  | .lineStart, s => if s.last = none ∨ (m.multiline ∧ s.last = some '\n') then [s] else []
  | .lineEnd, s =>
    if s.rest = [] ∨ (m.multiline ∧ s.rest.head? = some '\n') then [s] else []
  | .wordStart, s => if !s.afterWord && s.beforeWord then [s] else []
  | .wordEnd, s => if s.afterWord && !s.beforeWord then [s] else []
  | .wordEdge negated, s => if (s.afterWord != s.beforeWord) != negated then [s] else []
  | .noWordBefore, s => if s.afterWord then [] else [s]
  | .noWordAfter, s => if s.beforeWord then [] else [s]
  | .seq a b, s => (a.run m s).flatMap (b.run m)
  | .alt a b, s => a.run m s ++ b.run m s
  | .times r least most, s => iterate (r.run m) (s.rest.length + least + 1) least most s
  | .group i r, s =>
    (r.run m s).map fun s' =>
      { s' with captures :=
          (i, s.rest.take (s.rest.length - s'.rest.length)) :: s'.captures.filter (·.1 != i) }
  | .again i, s =>
    match s.captures.lookup i with
    | none => []
    | some t => if Text.startsWith t s.rest then [s.pass t.length] else []

structure Match where
  before : Octets
  matched : Octets
  captures : Captures
  after : Octets

def longest (ways : List Spot) : Option Spot :=
  ways.foldl (fun best s =>
    match best with
    | none => some s
    | some b => if s.rest.length < b.rest.length then some s else some b) none

/-- The first match at or after a place in a text; `before` is what comes in front, latest
first. -/
def find? (r : Regex) (m : Mode) (before : Octets) (t : Octets) : Option Match :=
  match longest (r.run m ⟨[], before.head?, t⟩) with
  | some s =>
    some ⟨before.reverse, t.take (t.length - s.rest.length), s.captures, s.rest⟩
  | none =>
    match t with
    | [] => none
    | c :: rest => r.find? m (c :: before) rest

def matchesIn (r : Regex) (m : Mode) (text : Octets) : Bool := (r.find? m [] text).isSome

end Regex

end LayoutCheck
