/-! # Texts, bytes and paths

A text is a list of characters. Pieces lie between newlines; lines are what a reader sees: a
final newline opens no further line, and a carriage return before a newline belongs to the line
ending. Blanks are the characters with the Unicode property White_Space, which the information
separators U+001C to U+001F do not have. Decoding of bytes is strict, or replaces each maximal
ill-formed part by U+FFFD. A path is a byte string and is never normalized. -/

namespace LayoutCheck

abbrev Text := List Char

namespace Text

def consPiece (c : Char) : List Text → List Text
  | [] => [[c]]
  | p :: ps => (c :: p) :: ps

/-- The pieces between occurrences of `sep`; there is always at least one. -/
def splitOn (sep : Char) : Text → List Text
  | [] => [[]]
  | c :: r => if c = sep then [] :: splitOn sep r else consPiece c (splitOn sep r)

def joinWith (sep : Text) : List Text → Text
  | [] => []
  | [p] => p
  | p :: ps => p ++ sep ++ joinWith sep ps

/-- Drops one carriage return from the end. -/
def dropReturn : Text → Text
  | [] => []
  | ['\r'] => []
  | c :: r => c :: dropReturn r

/-- Turns newline pieces into lines: every piece but the last was ended by a newline,
and an empty last piece is no line. -/
def linesOfPieces : List Text → List Text
  | [] => []
  | [p] => if p = [] then [] else [p]
  | p :: q :: ps => dropReturn p :: linesOfPieces (q :: ps)

def lines (t : Text) : List Text := linesOfPieces (splitOn '\n' t)

def ofNat (n : Nat) : Text := Nat.toDigits 10 n

def ofInt : Int → Text
  | .ofNat n => ofNat n
  | .negSucc n => '-' :: ofNat (n + 1)

def startsWith (p t : Text) : Bool := p.isPrefixOf t

def endsWith (s t : Text) : Bool := s.isSuffixOf t

def dropLead? : Text → Text → Option Text
  | [], t => some t
  | _ :: _, [] => none
  | p :: ps, c :: cs => if p = c then dropLead? ps cs else none

end Text

def blankRanges : List (Nat × Nat) :=
  [(0x09, 0x0D), (0x20, 0x20), (0x85, 0x85), (0xA0, 0xA0), (0x1680, 0x1680),
   (0x2000, 0x200A), (0x2028, 0x2029), (0x202F, 0x202F), (0x205F, 0x205F),
   (0x3000, 0x3000)]

def isBlank (c : Char) : Bool :=
  blankRanges.any fun r => r.1 ≤ c.toNat && c.toNat ≤ r.2

namespace Text

def trimLeft (t : Text) : Text := t.dropWhile isBlank

def trimRight (t : Text) : Text := (t.reverse.dropWhile isBlank).reverse

def trim (t : Text) : Text := trimRight (trimLeft t)

end Text

abbrev Bytes := List UInt8

namespace Text

def utf8 (t : Text) : Bytes := t.flatMap String.utf8EncodeChar

end Text

namespace Utf8

def isContinuation (b : UInt8) : Bool := 0x80 ≤ b && b ≤ 0xBF

/-- Continuation bytes that a lead byte asks for, with the bounds on the first of them. A
count of zero marks a byte that leads nothing. -/
def leadShape (b : UInt8) : Nat × UInt8 × UInt8 :=
  if 0xC2 ≤ b && b ≤ 0xDF then (1, 0x80, 0xBF)
  else if b == 0xE0 then (2, 0xA0, 0xBF)
  else if b == 0xED then (2, 0x80, 0x9F)
  else if 0xE1 ≤ b && b ≤ 0xEF then (2, 0x80, 0xBF)
  else if b == 0xF0 then (3, 0x90, 0xBF)
  else if b == 0xF4 then (3, 0x80, 0x8F)
  else if 0xF1 ≤ b && b ≤ 0xF3 then (3, 0x80, 0xBF)
  else (0, 0, 0)

/-- Reads `n` continuation bytes after the value `acc`; stops at the first byte that does
not continue. -/
def tailValue : Nat → Nat → Bytes → Option Nat × Bytes
  | 0, acc, bs => (some acc, bs)
  | _ + 1, _, [] => (none, [])
  | n + 1, acc, b :: bs =>
    if isContinuation b then tailValue n (acc * 64 + (b.toNat - 0x80)) bs else (none, b :: bs)

def step (b : UInt8) (bs : Bytes) : Option Char × Bytes :=
  if b < 0x80 then (some (Char.ofNat b.toNat), bs)
  else
    match leadShape b, bs with
    | (0, _, _), _ => (none, bs)
    | (_ + 1, _, _), [] => (none, [])
    | (n + 1, lo, hi), c :: cs =>
      if lo ≤ c && c ≤ hi then
        let lead := b.toNat % (if n = 0 then 32 else if n = 1 then 16 else 8)
        let r := tailValue n (lead * 64 + (c.toNat - 0x80)) cs
        (r.1.map Char.ofNat, r.2)
      else (none, bs)

theorem length_tailValue_le (n acc : Nat) (bs : Bytes) :
    (tailValue n acc bs).2.length ≤ bs.length := by
  fun_induction tailValue n acc bs with
  | case1 => exact Nat.le_refl _
  | case2 => exact Nat.le_refl _
  | case3 n acc b bs h ih => exact Nat.le_succ_of_le ih
  | case4 => exact Nat.le_refl _

theorem length_step_le (b : UInt8) (bs : Bytes) : (step b bs).2.length ≤ bs.length := by
  unfold step
  split
  · exact Nat.le_refl _
  · split
    · exact Nat.le_refl _
    · exact Nat.le_refl _
    · split
      · exact Nat.le_succ_of_le (length_tailValue_le _ _ _)
      · exact Nat.le_refl _

/-- The characters of a byte sequence, with `none` for each ill-formed part. -/
def units : Bytes → List (Option Char)
  | [] => []
  | b :: bs => (step b bs).1 :: units (step b bs).2
termination_by bs => bs.length
decreasing_by exact Nat.lt_succ_of_le (length_step_le b bs)

def decode? (bs : Bytes) : Option Text := (units bs).mapM id

def replacement : Char := '\uFFFD'

def decodeLossy (bs : Bytes) : Text := (units bs).map (·.getD replacement)

end Utf8

structure Path where
  bytes : Bytes
  deriving DecidableEq, Repr

namespace Path

def slash : UInt8 := 0x2F

def dot : UInt8 := 0x2E

def ofText (t : Text) : Path := ⟨t.utf8⟩

def display (p : Path) : Text := Utf8.decodeLossy p.bytes

def isAbsolute (p : Path) : Bool := p.bytes.head? == some slash

/-- An absolute path stands for itself; any other goes below the base. -/
def join (base p : Path) : Path :=
  if p.isAbsolute then p
  else if base.bytes = [] ∨ base.bytes.getLast? = some slash then ⟨base.bytes ++ p.bytes⟩
  else ⟨base.bytes ++ slash :: p.bytes⟩

/-- Drops separators and `.` parts at the end. Works on the reversed bytes and keeps a
root and a leading `.`. -/
def trimEnd : Bytes → Bytes
  | [] => []
  | [b] => [b]
  | b :: c :: r =>
    if b == slash then trimEnd (c :: r)
    else if b == dot && c == slash then trimEnd (c :: r)
    else b :: c :: r

/-- The path without its last part; a root and the empty path have none. -/
def parent (p : Path) : Option Path :=
  match trimEnd p.bytes.reverse with
  | [] => none
  | b :: r =>
    if r = [] && b == slash then none
    else some ⟨(trimEnd ((b :: r).dropWhile (· != slash))).reverse⟩

def components (p : Path) : List Bytes :=
  (p.bytes.splitOn slash).filter (!·.isEmpty)

/-- A path that ends in a separator can only name a directory. -/
def asksDirectory (p : Path) : Bool := p.bytes.getLast? == some slash

end Path

end LayoutCheck
