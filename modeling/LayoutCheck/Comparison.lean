import LayoutCheck.Text

/-! # Comparing texts

Two texts are equivalent when their canonical forms are equal. The form is made by three passes
over the whole text: comments go, then terminators, then blanks. A comment runs from `//` to the
end of its line, also inside a string literal. The forms decide; a unified diff of the raw lines
explains.

The lines are aligned along a common subsequence. A table holds the length of a longest one for
every pair of positions; a walk from its far corner takes the common lines; a merge of the two sides
with them gives the edits. The walk reads the table as one flat sequence of rows, so the cell to the
left of column zero is the last cell of the row above, and the walk may stop early and miss one
line. A hunk is a run of changes with up to `context` kept lines around it; runs whose gap is at
most twice the context share a hunk, unless the gap reaches the end. -/

namespace LayoutCheck

inductive ScanMode where
  | code
  | comment
  deriving DecidableEq, Repr

def dropComments : ScanMode → Text → Text
  | _, [] => []
  | .code, '/' :: '/' :: r => dropComments .comment r
  | .code, c :: r => c :: dropComments .code r
  | .comment, '\n' :: r => '\n' :: dropComments .code r
  | .comment, _ :: r => dropComments .comment r

def isTerminator (c : Char) : Bool := c == ';'

def dropTerminators (t : Text) : Text := t.filter (!isTerminator ·)

def dropBlanks (t : Text) : Text := t.filter (!isBlank ·)

def canonicalize (t : Text) : Text :=
  dropBlanks (dropTerminators (dropComments .code t))

/-- Two texts with the same canonical form. -/
def Equivalent (source formatted : Text) : Prop :=
  canonicalize source = canonicalize formatted

instance (source formatted : Text) : Decidable (Equivalent source formatted) :=
  inferInstanceAs (Decidable (_ = _))

inductive Edit where
  | keep (line : Text)
  | drop (line : Text)
  | insert (line : Text)
  deriving DecidableEq, Repr

namespace Edit

def line : Edit → Text
  | keep l => l
  | drop l => l
  | insert l => l

def isChange : Edit → Bool
  | keep _ => false
  | _ => true

def inSource : Edit → Bool
  | insert _ => false
  | _ => true

def inFormatted : Edit → Bool
  | drop _ => false
  | _ => true

def sign : Edit → Char
  | keep _ => ' '
  | drop _ => '-'
  | insert _ => '+'

def render (e : Edit) : Text := e.sign :: e.line

end Edit

namespace Alignment

/-- One row of the table from the row above. `corner` is the cell above and to the left,
`left` the cell to the left; both are zero outside the table. -/
def nextRow (x : Text) : List Text → List Nat → Nat → Nat → List Nat
  | y :: ys, up :: ups, corner, left =>
    let cell := if x = y then corner + 1 else max left up
    cell :: nextRow x ys ups up cell
  | _, _, _, _ => []

def rowsBelow (new : List Text) : List Text → List Nat → List (List Nat)
  | [], _ => []
  | x :: xs, above =>
    let row := nextRow x new above 0 0
    row :: rowsBelow new xs row

abbrev Table := Array (Array Nat)

def table (old new : List Text) : Table :=
  ((rowsBelow new old (new.map fun _ => 0)).map List.toArray).toArray

def cell (t : Table) (i j : Nat) : Nat := (t.getD i #[]).getD j 0

/-- The cell before `(i, j)` in row order; only asked for when there is a row above or a
column to the left. -/
def cellBefore (t : Table) (width i j : Nat) : Nat :=
  match j with
  | 0 => cell t (i - 1) (width - 1)
  | j + 1 => cell t i j

def walk (t : Table) (old new : Array Text) : Nat → Nat → List Text → List Text
  | i + 1, j + 1, taken =>
    let x := old.getD i []
    if x = new.getD j [] then walk t old new i j (x :: taken)
    else if i = 0 ∨ cellBefore t new.size i j > cell t (i - 1) j then
      walk t old new (i + 1) j taken
    else walk t old new i (j + 1) taken
  | _, _, taken => taken

def commonLines (old new : List Text) : List Text :=
  walk (table old new) old.toArray new.toArray old.length new.length []

/-- Lines that went through one joined text: a lone empty line leaves no trace there. -/
def rejoined (ls : List Text) : List Text := if ls = [[]] then [] else ls

/-- What a merge still has to see of the two sides and of the common lines. -/
structure Pending where
  old : List Text
  new : List Text
  common : List Text
  deriving DecidableEq, Repr

namespace Pending

def size (p : Pending) : Nat := p.old.length + p.new.length

def takeKept : List Text → List Text → List Text → List Edit × Pending
  | x :: old, y :: new, z :: common =>
    if x = y ∧ y = z then
      let r := takeKept old new common
      (.keep x :: r.1, r.2)
    else ([], ⟨x :: old, y :: new, z :: common⟩)
  | old, new, common => ([], ⟨old, new, common⟩)

def awaits (common : List Text) (l : Text) : Bool := common.head? != some l

/-- One round: kept lines, then dropped lines up to the next common line, then inserted
lines up to it. -/
def round (p : Pending) : List Edit × Pending :=
  let k := takeKept p.old p.new p.common
  let q := k.2
  (k.1 ++ (q.old.takeWhile (awaits q.common)).map .drop
      ++ (q.new.takeWhile (awaits q.common)).map .insert,
    ⟨q.old.dropWhile (awaits q.common), q.new.dropWhile (awaits q.common), q.common⟩)

/-- Rounds until both sides are used up. A round that makes no progress ends the merge. -/
def merge (p : Pending) : List Edit :=
  if p.size = 0 then []
  else
    let r := p.round
    if r.2.size < p.size then r.1 ++ merge r.2 else r.1
termination_by p.size

end Pending

/-- The aligned lines of two line lists. With an empty side everything changes. -/
def ofLines (old new : List Text) : List Edit :=
  if old = [] ∨ new = [] then old.map .drop ++ new.map .insert
  else
    Pending.merge ⟨rejoined old, rejoined new, rejoined (commonLines old new)⟩

end Alignment

def align (source formatted : Text) : List Edit :=
  Alignment.ofLines source.lines formatted.lines

/-- A run of edits with its place on both sides. Starts count the lines before the hunk. -/
structure Hunk where
  sourceStart : Nat
  sourceLen : Nat
  formattedStart : Nat
  formattedLen : Nat
  edits : List Edit
  deriving DecidableEq, Repr

namespace Hunk

/-- The number of the line behind so many lines; words start over behind the greatest. -/
def lineBehind (start : Nat) : Nat := if start = 0xFFFFFFFFFFFFFFFF then 0 else start + 1

/-- A range counts from one; a length of one is left out, and an empty range names the
line before it. -/
def range (start len : Nat) : Text :=
  match len with
  | 0 => Text.ofNat start ++ ",0".toList
  | 1 => Text.ofNat (lineBehind start)
  | _ => Text.ofNat (lineBehind start) ++ ',' :: Text.ofNat len

def header (h : Hunk) : Text :=
  "@@ -".toList ++ range h.sourceStart h.sourceLen ++ " +".toList
    ++ range h.formattedStart h.formattedLen ++ " @@".toList

def ofEdits (o f : Nat) (edits : List Edit) : Hunk where
  sourceStart := o
  sourceLen := edits.countP Edit.inSource
  formattedStart := f
  formattedLen := edits.countP Edit.inFormatted
  edits := edits

end Hunk

namespace Edit

theorem length_beyond_lt {edits : List Edit}
    (h : (edits.dropWhile isChange).dropWhile (!isChange ·) ≠ []) :
    ((edits.dropWhile isChange).dropWhile (!isChange ·)).length < edits.length := by
  cases edits with
  | nil => simp at h
  | cons e es =>
    have drop_le (p : Edit → Bool) (l : List Edit) : (l.dropWhile p).length ≤ l.length :=
      (List.dropWhile_suffix p).length_le
    cases he : isChange e with
    | true =>
      simp only [List.dropWhile_cons, he, List.length_cons, if_true]
      exact Nat.lt_succ_of_le (Nat.le_trans (drop_le _ _) (drop_le _ _))
    | false =>
      simp only [List.dropWhile_cons, he, List.length_cons, Bool.not_false, if_true,
        Bool.false_eq_true, if_false]
      exact Nat.lt_succ_of_le (drop_le _ _)

/-- The changes at the head of a list, carried on over gaps of at most `2 * context` kept
lines that do not reach the end. Second part: what is left. -/
def takeBlock (context : Nat) (edits : List Edit) : List Edit × List Edit :=
  let changes := edits.takeWhile isChange
  let rest := edits.dropWhile isChange
  let gap := rest.takeWhile (!isChange ·)
  let beyond := rest.dropWhile (!isChange ·)
  if _h : beyond = [] ∨ gap.length > 2 * context then (changes, rest)
  else
    let b := takeBlock context beyond
    (changes ++ gap ++ b.1, b.2)
termination_by edits.length
decreasing_by exact length_beyond_lt (fun hb => _h (Or.inl hb))

theorem length_takeBlock_le (context : Nat) (edits : List Edit) :
    (takeBlock context edits).2.length ≤ (edits.dropWhile isChange).length := by
  fun_induction takeBlock context edits with
  | case1 => exact Nat.le_refl _
  | case2 edits changes rest gap beyond h b ih =>
    have drop_le (p : Edit → Bool) (l : List Edit) : (l.dropWhile p).length ≤ l.length :=
      (List.dropWhile_suffix p).length_le
    exact Nat.le_trans ih (Nat.le_trans (drop_le _ _) (drop_le _ _))

theorem length_takeBlock_lt (context : Nat) {e : Edit} (es : List Edit) (he : isChange e = true) :
    (takeBlock context (e :: es)).2.length < (e :: es).length := by
  refine Nat.lt_of_le_of_lt (length_takeBlock_le context (e :: es)) ?_
  simp only [List.dropWhile_cons, he, if_true, List.length_cons]
  exact Nat.lt_succ_of_le (List.dropWhile_suffix _).length_le

end Edit

namespace Hunk

def groupFrom (context o f : Nat) (edits : List Edit) : List Hunk :=
  let lead := edits.takeWhile (!Edit.isChange ·)
  match _h : edits.dropWhile (!Edit.isChange ·) with
  | [] => []
  | e :: es =>
    let skipped := lead.take (lead.length - context)
    let block := Edit.takeBlock context (e :: es)
    let body := lead.drop (lead.length - context) ++ block.1 ++ block.2.take context
    let hunk := ofEdits (o + skipped.countP Edit.inSource)
      (f + skipped.countP Edit.inFormatted) body
    hunk :: groupFrom context (hunk.sourceStart + hunk.sourceLen)
      (hunk.formattedStart + hunk.formattedLen) (block.2.drop context)
termination_by edits.length
decreasing_by
  have he : Edit.isChange e = true := by
    have := List.head_dropWhile_not (!Edit.isChange ·) (l := edits) (by simp [_h])
    simpa [_h] using this
  have hle : (e :: es).length ≤ edits.length := by
    rw [← _h]; exact (List.dropWhile_suffix _).length_le
  have hlt := Edit.length_takeBlock_lt context es he
  simp only [List.length_drop]
  omega

def group (context : Nat) (edits : List Edit) : List Hunk := groupFrom context 0 0 edits

end Hunk

structure Diff where
  sourceLabel : Text
  formattedLabel : Text
  hunks : List Hunk
  deriving DecidableEq, Repr

namespace Diff

def contextLines : Nat := 3

def ofTexts (source formatted sourceLabel formattedLabel : Text) : Diff where
  sourceLabel := sourceLabel
  formattedLabel := formattedLabel
  hunks := Hunk.group contextLines (align source formatted)

def unified (source formatted : Text) : Diff :=
  ofTexts source formatted "original".toList "formatted".toList

def isEmpty (d : Diff) : Bool := d.hunks.isEmpty

def edits (d : Diff) : List Edit := d.hunks.flatMap Hunk.edits

def removedCount (d : Diff) : Nat :=
  d.edits.countP fun e => e.isChange && e.inSource

def addedCount (d : Diff) : Nat :=
  d.edits.countP fun e => e.isChange && e.inFormatted

def renderLine (t : Text) : Text := t ++ ['\n']

def renderHunk (h : Hunk) : Text :=
  renderLine h.header ++ h.edits.flatMap fun e => renderLine e.render

def render (d : Diff) : Text :=
  if d.isEmpty then []
  else
    renderLine ("--- ".toList ++ d.sourceLabel)
      ++ renderLine ("+++ ".toList ++ d.formattedLabel)
      ++ d.hunks.flatMap renderHunk

end Diff

structure Divergence where
  diff : Diff
  source : Text
  formatted : Text
  deriving DecidableEq, Repr

inductive Verdict where
  | equivalent
  | divergent (why : Divergence)
  deriving DecidableEq, Repr

def Verdict.isEquivalent : Verdict → Bool
  | .equivalent => true
  | .divergent _ => false

def evaluate (source formatted : Text) : Verdict :=
  if Equivalent source formatted then .equivalent
  else .divergent
    { diff := Diff.unified source formatted
      source := canonicalize source
      formatted := canonicalize formatted }

end LayoutCheck
