import LayoutCheck.Text

/-! # Tokens of a document

A cursor is what is left to read and where it starts. Lines and columns count from zero; a column is
counted in characters and the index in bytes. Of a gap between two words the blanks within a line
are kept; a single line break becomes a space; of several the first is dropped. -/

namespace LayoutCheck

namespace Yaml

structure Mark where
  index : Nat
  line : Nat
  column : Nat
  deriving DecidableEq, Repr

namespace Mark

def start : Mark := ⟨0, 0, 0⟩

def past (m : Mark) (t : Text) : Mark := ⟨m.index + t.utf8.length, m.line, m.column + t.length⟩

def nextLine (m : Mark) (t : Text) : Mark := ⟨m.index + t.utf8.length, m.line + 1, 0⟩

end Mark

def isPermitted (c : Char) : Bool :=
  c == '\t' || c == '\n' || c == '\r'
    || (0x20 ≤ c.toNat && c.toNat ≤ 0x7E)
    || c.toNat == 0x85
    || (0xA0 ≤ c.toNat && c.toNat ≤ 0xD7FF)
    || (0xE000 ≤ c.toNat && c.toNat ≤ 0xFFFD)
    || 0x10000 ≤ c.toNat

def isSpaceOrTab (c : Char) : Bool := c == ' ' || c == '\t'

def isBreak (c : Char) : Bool :=
  c == '\n' || c == '\r' || c == '\u0085' || c == '\u2028' || c == '\u2029'

def isWordChar (c : Char) : Bool := c.isAlphanum || c == '_' || c == '-'

structure Cursor where
  rest : Text
  mark : Mark
  deriving DecidableEq, Repr

namespace Cursor

def ofText (t : Text) : Cursor := ⟨t, .start⟩

def atEnd (c : Cursor) : Bool := c.rest.isEmpty

def peek? (c : Cursor) : Option Char := c.rest.head?

def peekAt? (c : Cursor) (k : Nat) : Option Char := c.rest[k]?

def looksAt (c : Cursor) (x : Char) : Bool := c.peek? == some x

def testAt (c : Cursor) (k : Nat) (p : Char → Bool) : Bool := (c.peekAt? k).any p

def onBlank (c : Cursor) : Bool := c.testAt 0 isSpaceOrTab

def onBreak (c : Cursor) : Bool := c.testAt 0 isBreak

def onBreakOrEnd (c : Cursor) : Bool := c.atEnd || c.onBreak

def gapAt (c : Cursor) (k : Nat) : Bool :=
  match c.peekAt? k with
  | none => true
  | some x => isSpaceOrTab x || isBreak x

def skip (c : Cursor) : Cursor :=
  match c.rest with
  | [] => c
  | x :: r => ⟨r, c.mark.past [x]⟩

def skipN : Nat → Cursor → Cursor
  | 0, c => c
  | n + 1, c => skipN n c.skip

/-- Passes a line break and gives what it stands for: a newline, or itself for the two
Unicode separators. -/
def takeBreak (c : Cursor) : Text × Cursor :=
  match c.rest with
  | '\r' :: '\n' :: r => (['\n'], ⟨r, c.mark.nextLine ['\r', '\n']⟩)
  | x :: r =>
    if x == '\u2028' || x == '\u2029' then ([x], ⟨r, c.mark.nextLine [x]⟩)
    else if isBreak x then (['\n'], ⟨r, c.mark.nextLine [x]⟩)
    else ([], c)
  | [] => ([], c)

def skipBreak (c : Cursor) : Cursor := c.takeBreak.2

def takeWhile (p : Char → Bool) (c : Cursor) : Text × Cursor :=
  let taken := c.rest.takeWhile p
  (taken, ⟨c.rest.dropWhile p, c.mark.past taken⟩)

def skipWhile (p : Char → Bool) (c : Cursor) : Cursor := (c.takeWhile p).2

def skipComment (c : Cursor) : Cursor :=
  if c.looksAt '#' then c.skipWhile (!isBreak ·) else c

/-- At the start of a line, three times `x` and then a gap. -/
def onDocumentMark (c : Cursor) (x : Char) : Bool :=
  c.mark.column == 0 && c.rest.take 3 == [x, x, x] && c.gapAt 3

def onAnyDocumentMark (c : Cursor) : Bool := c.onDocumentMark '-' || c.onDocumentMark '.'

end Cursor

inductive ScalarStyle where
  | plain
  | singleQuoted
  | doubleQuoted
  | literal
  | folded
  deriving DecidableEq, Repr

inductive TokenKind where
  | streamEnd
  | versionDirective (major minor : Nat)
  | tagDirective (handle expansion : Text)
  | documentStart
  | documentEnd
  | blockSequenceStart
  | blockMappingStart
  | blockEnd
  | flowSequenceStart
  | flowSequenceEnd
  | flowMappingStart
  | flowMappingEnd
  | blockEntry
  | flowEntry
  | key
  | value
  | alias (name : Text)
  | anchor (name : Text)
  | tag (handle suffix : Text)
  | scalar (text : Text) (style : ScalarStyle)
  deriving DecidableEq, Repr

structure Token where
  kind : TokenKind
  start : Mark
  stop : Mark
  deriving DecidableEq, Repr

/-- What was seen since the last word. `broken` tells whether a line break was among it. -/
structure Gap where
  blanks : Text
  firstBreak : Text
  laterBreaks : Text
  broken : Bool
  deriving DecidableEq, Repr

namespace Gap

def none : Gap := ⟨[], [], [], false⟩

def escapedBreak : Gap := ⟨[], [], [], true⟩

def folded (g : Gap) : Text :=
  if g.broken then
    if g.firstBreak.head? == some '\n' then
      if g.laterBreaks.isEmpty then [' '] else g.laterBreaks
    else g.firstBreak ++ g.laterBreaks
  else g.blanks

/-- Passes blanks and line breaks. A tab that stands in the first `indent` columns of a
continuation line is refused. -/
def take (indent : Nat) : Nat → Gap → Cursor → Option (Gap × Cursor)
  | 0, g, c => some (g, c)
  | fuel + 1, g, c =>
    if c.onBlank then
      if g.broken && c.mark.column < indent && c.looksAt '\t' then Option.none
      else
        let g' := if g.broken then g else { g with blanks := g.blanks ++ c.peek?.toList }
        take indent fuel g' c.skip
    else if c.onBreak then
      let b := c.takeBreak
      let g' : Gap :=
        if g.broken then { g with laterBreaks := g.laterBreaks ++ b.1 }
        else { blanks := [], firstBreak := b.1, laterBreaks := g.laterBreaks, broken := true }
      take indent fuel g' b.2
    else some (g, c)

end Gap

def hexValue? (c : Char) : Option Nat :=
  if '0' ≤ c ∧ c ≤ '9' then some (c.toNat - 48)
  else if 'a' ≤ c ∧ c ≤ 'f' then some (c.toNat - 87)
  else if 'A' ≤ c ∧ c ≤ 'F' then some (c.toNat - 55)
  else none

def hexNumber? (ds : Text) : Option Nat :=
  ds.foldl (fun acc d => do return (← acc) * 16 + (← hexValue? d)) (some 0)

namespace Quoted

def escapeChar? (c : Char) : Option Char :=
  match c with
  | '0' => some '\x00'
  | 'a' => some '\x07'
  | 'b' => some '\x08'
  | 't' => some '\t'
  | '\t' => some '\t'
  | 'n' => some '\n'
  | 'v' => some '\x0b'
  | 'f' => some '\x0c'
  | 'r' => some '\r'
  | 'e' => some '\x1b'
  | ' ' => some ' '
  | '"' => some '"'
  | '/' => some '/'
  | '\\' => some '\\'
  | 'N' => some '\u0085'
  | '_' => some '\u00a0'
  | 'L' => some '\u2028'
  | 'P' => some '\u2029'
  | _ => none

def escapeDigits (c : Char) : Nat :=
  match c with
  | 'x' => 2
  | 'u' => 4
  | 'U' => 8
  | _ => 0

def escape (c : Cursor) : Option (Char × Cursor) := do
  let letter ← c.peekAt? 1
  match escapeChar? letter with
  | some x => return (x, c.skipN 2)
  | none =>
    let n := escapeDigits letter
    let digits := (c.rest.drop 2).take n
    if n = 0 ∨ digits.length < n then none
    let value ← hexNumber? digits
    if (0xD800 ≤ value ∧ value ≤ 0xDFFF) ∨ value > 0x10FFFF then none
    return (Char.ofNat value, c.skipN (n + 2))

/-- Passes the characters up to the next gap or to the closing quote. The flag tells of an
escaped line break at the end. -/
def word (quote : Char) : Nat → Text → Cursor → Option (Text × Bool × Cursor)
  | 0, acc, c => some (acc.reverse, false, c)
  | fuel + 1, acc, c => do
    if c.gapAt 0 then return (acc.reverse, false, c)
    if quote == '\'' && c.looksAt '\'' && c.testAt 1 (· == '\'') then
      word quote fuel ('\'' :: acc) (c.skipN 2)
    else if c.looksAt quote then return (acc.reverse, false, c)
    else if quote == '"' && c.looksAt '\\' then
      if c.testAt 1 isBreak then return (acc.reverse, true, c.skip.skipBreak)
      let (x, c') ← escape c
      word quote fuel (x :: acc) c'
    else word quote fuel (c.peek?.toList ++ acc) c.skip

def inside (quote : Char) (total : Nat) : Nat → Text → Cursor → Option (Text × Cursor)
  | 0, _, _ => none
  | fuel + 1, text, c => do
    if c.onAnyDocumentMark || c.atEnd then none
    let (w, escaped, c') ← word quote total [] c
    let text := text ++ w
    if c'.looksAt quote then return (text, c'.skip)
    let (gap, c'') ← Gap.take 0 total (if escaped then .escapedBreak else .none) c'
    inside quote total fuel (text ++ gap.folded) c''

def scan (quote : Char) (c : Cursor) : Option (Text × Cursor) :=
  let fuel := c.rest.length + 1
  inside quote fuel fuel [] c.skip

end Quoted

def isFlowIndicator (c : Char) : Bool :=
  c == ',' || c == '[' || c == ']' || c == '\x7b' || c == '\x7d'

namespace Plain

def onStrayColon (inFlow : Bool) (c : Cursor) : Bool :=
  inFlow && c.looksAt ':' && c.testAt 1 fun x => isFlowIndicator x || x == '?'

def onStop (inFlow : Bool) (c : Cursor) : Bool :=
  (c.looksAt ':' && c.gapAt 1) || (inFlow && c.testAt 0 isFlowIndicator)

def word (inFlow : Bool) : Nat → Text → Cursor → Option (Text × Cursor)
  | 0, acc, c => some (acc.reverse, c)
  | fuel + 1, acc, c =>
    if c.gapAt 0 then some (acc.reverse, c)
    else if onStrayColon inFlow c then none
    else if onStop inFlow c then some (acc.reverse, c)
    else word inFlow fuel (c.peek?.toList ++ acc) c.skip

/-- The text of a scalar, the end of its last word, the cursor after it, and whether a line
break was passed last. -/
structure Result where
  text : Text
  stop : Mark
  next : Cursor
  broken : Bool

def words (inFlow : Bool) (indent : Nat) (total : Nat) :
    Nat → Text → Mark → Gap → Cursor → Option Result
  | 0, text, stop, gap, c => some ⟨text, stop, c, gap.broken⟩
  | fuel + 1, text, stop, gap, c => do
    if c.onAnyDocumentMark || c.looksAt '#' then return ⟨text, stop, c, gap.broken⟩
    let (w, c') ← word inFlow total [] c
    let text := if w.isEmpty then text else text ++ gap.folded ++ w
    let stop := if w.isEmpty then stop else c'.mark
    let gap := if w.isEmpty then gap else Gap.none
    if !(c'.onBlank || c'.onBreak) then return ⟨text, stop, c', gap.broken⟩
    let (gap, c'') ← Gap.take indent total gap c'
    if !inFlow && c''.mark.column < indent then return ⟨text, stop, c'', gap.broken⟩
    words inFlow indent total fuel text stop gap c''

def scan (inFlow : Bool) (indent : Nat) (c : Cursor) : Option Result :=
  let fuel := c.rest.length + 1
  words inFlow indent fuel fuel [] c.mark Gap.none c

end Plain

end Yaml

namespace Yaml.Block

inductive Chomping where
  | clip
  | strip
  | keep
  deriving DecidableEq, Repr

structure Header where
  chomping : Chomping
  indent : Nat
  deriving DecidableEq, Repr

def chomping? (c : Cursor) : Option Chomping :=
  match c.peek? with
  | some '+' => some .keep
  | some '-' => some .strip
  | _ => none

/-- An indentation indicator with the cursor after it; a zero is refused, and no digit
counts as zero. -/
def increment (c : Cursor) : Option (Nat × Cursor) :=
  match c.peek? with
  | some d =>
    if d.isDigit then
      if d == '0' then none else some (d.toNat - 48, c.skip)
    else some (0, c)
  | none => some (0, c)

def header (c : Cursor) : Option (Header × Cursor) := do
  match chomping? c with
  | some k =>
    let (n, c') ← increment c.skip
    return (⟨k, n⟩, c')
  | none =>
    let (n, c') ← increment c
    if n = 0 then return (⟨.clip, 0⟩, c')
    match chomping? c' with
    | some k => return (⟨k, n⟩, c'.skip)
    | none => return (⟨.clip, n⟩, c')

/-- Passes indentation and empty lines. With `indent` zero the indentation is not known yet
and `widest` is the deepest column seen. -/
def breaks (indent : Nat) : Nat → Nat → Text → Cursor → Option (Text × Nat × Cursor)
  | 0, widest, acc, c => some (acc, widest, c)
  | fuel + 1, widest, acc, c =>
    let room := if indent = 0 then c.rest.length else indent - c.mark.column
    let spaces := ((c.rest.take room).takeWhile (· == ' ')).length
    let c := c.skipN spaces
    let widest := max widest c.mark.column
    if (indent = 0 ∨ c.mark.column < indent) ∧ c.looksAt '\t' then none
    else if c.onBreak then
      let b := c.takeBreak
      breaks indent fuel widest (acc ++ b.1) b.2
    else some (acc, widest, c)

def detected (parent : Int) (widest : Nat) : Nat :=
  max (max widest (parent + 1).toNat) 1

/-- Content lines. `lead` is the line break before the current line, `trail` the empty
lines after it, and `wasBlank` tells whether the last line started with a blank. -/
def content (literal : Bool) (indent : Nat) (total : Nat) :
    Nat → Text → Text → Text → Bool → Cursor → Option (Text × Text × Text × Cursor)
  | 0, text, lead, trail, _, c => some (text, lead, trail, c)
  | fuel + 1, text, lead, trail, wasBlank, c => do
    if c.mark.column ≠ indent ∨ c.atEnd then return (text, lead, trail, c)
    let blank := c.onBlank
    let joint :=
      if !literal && lead.head? == some '\n' && !wasBlank && !blank then
        if trail.isEmpty then [' '] else []
      else lead
    let (line, c) := c.takeWhile (!isBreak ·)
    let (lead', c) := c.takeBreak
    let (trail', _, c) ← breaks indent total 0 [] c
    content literal indent total fuel (text ++ joint ++ trail ++ line) lead' trail' blank c

def scan (literal : Bool) (parent : Int) (c : Cursor) : Option (Text × Cursor) := do
  let fuel := c.rest.length + 1
  let (h, c) ← header c.skip
  let c := (c.skipWhile isSpaceOrTab).skipComment
  if !c.onBreakOrEnd then none
  let c := c.skipBreak
  let known := if h.indent = 0 then 0 else (max parent 0).toNat + h.indent
  let (trail, widest, c) ← breaks known fuel 0 [] c
  let indent := if known = 0 then detected parent widest else known
  let (text, lead, trail, c) ← content literal indent fuel fuel [] [] trail false c
  let text := if h.chomping = .strip then text else text ++ lead
  let text := if h.chomping = .keep then text ++ trail else text
  return (text, c)

end Yaml.Block

namespace Yaml

namespace Property

def mayFollowName (c : Cursor) : Bool :=
  c.gapAt 0 || c.testAt 0 fun x => "?:,]\x7d%@`".toList.contains x

def name (c : Cursor) : Option (Text × Cursor) :=
  let (n, c') := c.skip.takeWhile isWordChar
  if n.isEmpty || !mayFollowName c' then none else some (n, c')

/-- Characters of a tag. Those that delimit flow collections count only between angle
brackets and in directives. -/
def isUriChar (wide : Bool) (c : Char) : Bool :=
  isWordChar c || ";/?:@&=+$.%!~*'()".toList.contains c
    || (wide && (c == ',' || c == '[' || c == ']'))

def escapedByte (c : Cursor) : Option (Nat × Cursor) :=
  match c.rest with
  | '%' :: a :: b :: _ => do
    return ((← hexValue? a) * 16 + (← hexValue? b), c.skipN 3)
  | _ => none

def followers? (b : Nat) : Option Nat :=
  if b < 0x80 then some 0
  else if b / 32 = 6 then some 1
  else if b / 16 = 14 then some 2
  else if b / 8 = 30 then some 3
  else none

def escapedTail : Nat → Bytes → Cursor → Option (Bytes × Cursor)
  | 0, acc, c => some (acc, c)
  | n + 1, acc, c => do
    let (b, c') ← escapedByte c
    if b / 64 ≠ 2 then none
    escapedTail n (acc ++ [b.toUInt8]) c'

def escapedChar (c : Cursor) : Option (Text × Cursor) := do
  let (b, c') ← escapedByte c
  let n ← followers? b
  let (bs, c'') ← escapedTail n [b.toUInt8] c'
  return (Utf8.decodeLossy bs, c'')

def uriTail (wide : Bool) : Nat → Text → Cursor → Option (Text × Cursor)
  | 0, acc, c => some (acc, c)
  | fuel + 1, acc, c => do
    if !c.testAt 0 (isUriChar wide) then return (acc, c)
    if c.looksAt '%' then
      let (x, c') ← escapedChar c
      uriTail wide fuel (acc ++ x) c'
    else uriTail wide fuel (acc ++ c.peek?.toList) c.skip

/-- A tag text that goes on after `head`; without a head it must not be empty. -/
def uri (wide : Bool) (head : Text) (c : Cursor) : Option (Text × Cursor) := do
  let (t, c') ← uriTail wide (c.rest.length + 1) [] c
  if head.isEmpty && c'.mark.index == c.mark.index then none
  return (head.drop 1 ++ t, c')

def handle (c : Cursor) : Option (Text × Cursor) :=
  if c.looksAt '!' then
    let (w, c') := c.skip.takeWhile isWordChar
    if c'.looksAt '!' then some ('!' :: w ++ ['!'], c'.skip) else some ('!' :: w, c')
  else none

def tagParts (c : Cursor) : Option (Text × Text × Cursor) := do
  if c.testAt 1 (· == '<') then
    let (suffix, c) ← uri true [] (c.skipN 2)
    if !c.looksAt '>' then none
    return ([], suffix, c.skip)
  let (h, c) ← handle c
  if h.length > 1 && h.getLast? == some '!' then
    let (suffix, c) ← uri false [] c
    return (h, suffix, c)
  let (suffix, c) ← uri false h c
  if suffix.isEmpty then return ([], ['!'], c)
  return (['!'], suffix, c)

def tag (inFlow : Bool) (c : Cursor) : Option (Text × Text × Cursor) := do
  let (h, s, c) ← tagParts c
  if !(inFlow && c.looksAt ',') && !c.gapAt 0 then none
  return (h, s, c)

end Property

namespace Directive

def number (c : Cursor) : Option (Nat × Cursor) :=
  let (ds, c') := c.takeWhile Char.isDigit
  if ds.isEmpty || ds.length > 9 then none
  else some (ds.foldl (fun n d => n * 10 + (d.toNat - 48)) 0, c')

def version (c : Cursor) : Option (TokenKind × Cursor) := do
  let (major, c) ← number (c.skipWhile isSpaceOrTab)
  if !c.looksAt '.' then none
  let (minor, c) ← number c.skip
  return (.versionDirective major minor, c)

def tag (c : Cursor) : Option (TokenKind × Cursor) := do
  let (h, c) ← Property.handle (c.skipWhile isSpaceOrTab)
  if h.length > 1 && h.getLast? != some '!' then none
  if !c.onBlank then none
  let (expansion, c) ← Property.uri true [] (c.skipWhile isSpaceOrTab)
  if !c.gapAt 0 then none
  return (.tagDirective h expansion, c)

def scan (c : Cursor) : Option (TokenKind × Mark × Cursor) := do
  let (name, c) := c.skip.takeWhile isWordChar
  if !c.gapAt 0 then none
  let (kind, c) ←
    if name == "YAML".toList then version c
    else if name == "TAG".toList then tag c
    else none
  let stop := c.mark
  let c := (c.skipWhile isSpaceOrTab).skipComment
  if !c.onBreakOrEnd then none
  return (kind, stop, c.skipBreak)

end Directive

end Yaml

end LayoutCheck
