import LayoutCheck.Fault
import LayoutCheck.Text.Characters
import LayoutCheck.Text.LineBreak

/-! # Diagnostics

A fault that ends a run, laid out for people on 80 columns: its code, its message, the faults
beneath it and a hint. Lines are filled first fit. A line may end where line breaking allows it,
but behind a hyphen only between two letters or digits; a word that is wider than a line is cut.
Escape sequences of terminals take no columns and are never cut. -/

namespace LayoutCheck

namespace Wrapping

inductive Glyph where
  | char (c : Char)
  | escape (t : Text)
  deriving DecidableEq, Repr

def escapeChar : Char := '\x1b'

def throughFirst (stop : Char → Bool) : Text → Text × Text
  | [] => ([], [])
  | c :: r =>
    if stop c then ([c], r)
    else ((c :: (throughFirst stop r).1), (throughFirst stop r).2)

def throughTerminator (last : Char) : Text → Text × Text
  | [] => ([], [])
  | c :: r =>
    if c = '\x07' ∨ (c = '\\' ∧ last = escapeChar) then ([c], r)
    else ((c :: (throughTerminator c r).1), (throughTerminator c r).2)

/-- What belongs to an escape sequence behind its first character, and the rest. A control
sequence runs to its final byte, a command to its terminator, any other takes one character. -/
def escapeTail : Text → Text × Text
  | [] => ([], [])
  | c :: r =>
    let tail := if c = '[' then throughFirst (fun d => '@' ≤ d && d ≤ '~') r
      else if c = ']' then throughTerminator c r
      else ([], r)
    (c :: tail.1, tail.2)

theorem length_throughFirst_le (stop : Char → Bool) (t : Text) :
    (throughFirst stop t).2.length ≤ t.length := by
  induction t with
  | nil => exact Nat.le_refl _
  | cons c r ih =>
    unfold throughFirst
    split
    · exact Nat.le_succ _
    · exact Nat.le_succ_of_le ih

theorem length_throughTerminator_le (last : Char) (t : Text) :
    (throughTerminator last t).2.length ≤ t.length := by
  induction t generalizing last with
  | nil => exact Nat.le_refl _
  | cons c r ih =>
    unfold throughTerminator
    split
    · exact Nat.le_succ _
    · exact Nat.le_succ_of_le (ih c)

theorem length_escapeTail_le (t : Text) : (escapeTail t).2.length ≤ t.length := by
  cases t with
  | nil => exact Nat.le_refl _
  | cons c r =>
    unfold escapeTail
    simp only
    split
    · exact Nat.le_succ_of_le (length_throughFirst_le _ r)
    · split
      · exact Nat.le_succ_of_le (length_throughTerminator_le _ r)
      · exact Nat.le_succ _

def glyphs : Text → List Glyph
  | [] => []
  | c :: r =>
    if c = escapeChar then .escape (c :: (escapeTail r).1) :: glyphs (escapeTail r).2
    else .char c :: glyphs r
termination_by t => t.length
decreasing_by
  · exact Nat.lt_succ_of_le (length_escapeTail_le r)
  · exact Nat.lt_succ_self _

namespace Glyph

def text : Glyph → Text
  | char c => [c]
  | escape t => t

def width : Glyph → Nat
  | char c => charWidth c
  | escape _ => 0

def char? : Glyph → Option Char
  | char c => some c
  | escape _ => none

end Glyph

def width (t : Text) : Nat := ((glyphs t).map Glyph.width).foldl (· + ·) 0

def visible (t : Text) : Text := (glyphs t).filterMap Glyph.char?

structure Word where
  text : Text
  blanks : Nat
  deriving DecidableEq, Repr

/-- Places behind a hyphen, soft or not, are left to the rule for hyphens. -/
def endsAside (c : Char) (mayEnd : Bool) : Bool := mayEnd && c ≠ '-' && c ≠ '\u00AD'

/-- Takes back the last place, which is taken for the end of the line. A line with a hyphen at
its end so loses the place in front of it. -/
def forgetLast (places : List Bool) : List Bool :=
  let late := places.reverse.takeWhile (!·)
  (places.reverse.drop (late.length + 1)).reverse ++ List.replicate (late.length + 1) false

def wordEnds (line : Text) : List Bool :=
  let shown := visible line
  forgetLast (List.zipWith endsAside shown (LineBreak.ends shown))

/-- Cuts glyphs into words. `open_` is the word being read, reversed. -/
def cutWords (open_ : Text) : List Glyph → List Bool → List Text
  | [], _ => if open_ = [] then [] else [open_.reverse]
  | .escape t :: rest, places => cutWords (t.reverse ++ open_) rest places
  | .char c :: rest, [] => cutWords (c :: open_) rest []
  | .char c :: rest, place :: places =>
    if place then (c :: open_).reverse :: cutWords [] rest places
    else cutWords (c :: open_) rest places

def wordOf (t : Text) : Word :=
  let body := (t.reverse.dropWhile (· == ' ')).reverse
  ⟨body, t.length - body.length⟩

def splitHyphens (before_ : Option Char) (open_ : Text) : Text → List Text
  | [] => [open_.reverse]
  | '-' :: c :: r =>
    if (before_.map isAlphanumeric).getD false && isAlphanumeric c then
      ('-' :: open_).reverse :: splitHyphens (some '-') [] (c :: r)
    else splitHyphens (some '-') ('-' :: open_) (c :: r)
  | c :: r => splitHyphens (some c) (c :: open_) r

def cutAt (limit : Nat) (open_ : Text) (used : Nat) : List Glyph → List Text
  | [] => if open_ = [] then [] else [open_.reverse]
  | g :: rest =>
    if used > 0 ∧ used + g.width > limit ∧ g.char?.isSome then
      open_.reverse :: cutAt limit g.text.reverse g.width rest
    else cutAt limit (g.text.reverse ++ open_) (used + g.width) rest

def partsOf (w : Word) (parts : List Text) : List Word :=
  match parts.reverse with
  | [] => [w]
  | last :: rest => (rest.reverse.map fun p => ⟨p, 0⟩) ++ [⟨last, w.blanks⟩]

def wordsOf (limit : Nat) (line : Text) : List Word :=
  ((cutWords [] (glyphs line) (wordEnds line)).map wordOf).flatMap fun w =>
    (partsOf w (splitHyphens none [] w.text)).flatMap fun p =>
      if width p.text > limit then partsOf p (cutAt limit [] 0 (glyphs p.text)) else [p]

def lineOf : List Word → Text
  | [] => []
  | [w] => w.text
  | w :: ws => w.text ++ List.replicate w.blanks ' ' ++ lineOf ws

/-- Fills lines first fit. `used` is the width of the open line, whose words are `open_`. -/
def fillWords (limits : Nat × Nat) (first : Bool) (open_ : List Word) (used : Nat) :
    List Word → List Text
  | [] => [lineOf open_]
  | w :: ws =>
    let limit := if first then limits.1 else limits.2
    if used + width w.text > limit && !open_.isEmpty then
      lineOf open_ :: fillWords limits false [w] (width w.text + w.blanks) ws
    else fillWords limits first (open_ ++ [w]) (used + width w.text + w.blanks) ws

end Wrapping

/-- A text in lines of at most so many columns. The first line starts with `lead`, the others
with `indent`. -/
def wrapText (columns : Nat) (lead indent : Text) (t : Text) : Text :=
  let inside (l : Text) : Nat := columns - Wrapping.width l
  let one (line : Text) : List Text :=
    Wrapping.fillWords (inside lead, inside indent) true [⟨[], 0⟩] 0
      (Wrapping.wordsOf (inside indent) line)
  match (Text.splitOn '\n' t).flatMap one with
  | [] => lead
  | l :: ls => Text.joinWith ['\n'] ((lead ++ l) :: ls.map (indent ++ ·))

namespace Diagnostic

def columns : Nat := 80

def notices (t : Text) : Text :=
  ((Text.splitOn '\n' t).flatMap fun line =>
    LineBreak.unsegmented (Wrapping.visible line)).flatMap fun script =>
      "ICU4X data error: No segmentation model for complex script: ".toList ++ script ++ ['\n']

def part (width : Nat) (lead indent : String) (t : Text) : Text :=
  notices t ++ wrapText width lead.toList indent.toList t ++ ['\n']

def messageLines (t : Text) : Text := part (columns - 2) "  × " "  │ " t

/-- A chain of causes; the last one closes it. -/
def causeLines : List Text → Text
  | [] => []
  | [t] => part (columns - 2) "  ╰─▶ " "      " t
  | t :: ts => part (columns - 2) "  ├─▶ " "  │   " t ++ causeLines ts

def helpLines (t : Text) : Text := part (columns - 4) "  help: " "        " t

end Diagnostic

def Fault.diagnostic (f : Fault) : Text :=
  f.code ++ "\n\n".toList ++ Diagnostic.messageLines f.message
    ++ Diagnostic.causeLines f.causes
    ++ (f.help.map Diagnostic.helpLines).getD []
    ++ ['\n']

end LayoutCheck
