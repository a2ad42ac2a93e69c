import LayoutCheck.Comparison
import LayoutCheck.Proofs.Diff.Grouping
import LayoutCheck.Proofs.Diff.Merge
import LayoutCheck.Proofs.Text.Lines

/-! # Diffs as patches and as texts

A patch is applied strictly: every hunk must lie ahead, find exactly its kept and dropped lines at
its place, and write at the place and in the number that it names. A rendered diff is a list of
ended lines. A reader that is driven by the counts in the headers gets every well-formed diff back
from its rendering. It never asks what a line looks like to tell an edit from a header, so lines
that look like headers do no harm. -/

namespace LayoutCheck

open Edit

namespace Patch

structure State where
  read : Nat
  rest : List Text
  written : List Text
  deriving DecidableEq, Repr

def start (old : List Text) : State := ⟨0, old, []⟩

def gap (s : State) (h : Hunk) : Nat := h.sourceStart - s.read

structure Fits (s : State) (h : Hunk) : Prop where
  ahead : s.read ≤ h.sourceStart
  reachable : gap s h ≤ s.rest.length
  found : (s.rest.drop (gap s h)).take h.sourceLen = sourceLines h.edits
  sourceLen : (sourceLines h.edits).length = h.sourceLen
  place : s.written.length + gap s h = h.formattedStart
  formattedLen : (formattedLines h.edits).length = h.formattedLen

instance (s : State) (h : Hunk) : Decidable (Fits s h) :=
  decidable_of_iff (s.read ≤ h.sourceStart ∧ gap s h ≤ s.rest.length ∧
      (s.rest.drop (gap s h)).take h.sourceLen = sourceLines h.edits ∧
      (sourceLines h.edits).length = h.sourceLen ∧
      s.written.length + gap s h = h.formattedStart ∧
      (formattedLines h.edits).length = h.formattedLen)
    ⟨fun ⟨ha, hr, hf, hs, hp, hl⟩ => ⟨ha, hr, hf, hs, hp, hl⟩,
      fun h => ⟨h.ahead, h.reachable, h.found, h.sourceLen, h.place, h.formattedLen⟩⟩

/-- Copies the lines before the hunk and puts its formatted side for its source side. -/
def step (s : State) (h : Hunk) : Option State :=
  if Fits s h then
    some
      { read := h.sourceStart + h.sourceLen
        rest := s.rest.drop (gap s h + h.sourceLen)
        written := s.written ++ s.rest.take (gap s h) ++ formattedLines h.edits }
  else none

def run : State → List Hunk → Option (List Text)
  | s, [] => some (s.written ++ s.rest)
  | s, h :: hs => (step s h).bind fun s' => run s' hs

def apply (hunks : List Hunk) (old : List Text) : Option (List Text) := run (start old) hunks

theorem step_ofEdits (s : State) (kept : List Text) (body : List Edit) (rest : List Text)
    (hr : s.rest = kept ++ sourceLines body ++ rest) :
    step s (Hunk.ofEdits (s.read + kept.length) (s.written.length + kept.length) body) =
      some ⟨s.read + kept.length + (sourceLines body).length, rest,
        s.written ++ kept ++ formattedLines body⟩ := by
  have hg : gap s (Hunk.ofEdits (s.read + kept.length) (s.written.length + kept.length) body) =
      kept.length := by
    simp [gap]
  have hfits : Fits s
      (Hunk.ofEdits (s.read + kept.length) (s.written.length + kept.length) body) := by
    constructor
    · simp
    · rw [hg, hr]
      simp
    · rw [hg, hr]
      simp
    · simp
    · rw [hg]
      simp
    · simp
  rw [step, if_pos hfits, hg, hr]
  simp

theorem run_of_covers {o f : Nat} {edits : List Edit} {hunks : List Hunk}
    (h : Hunk.Covers o f edits hunks) (s : State) (tail : List Text) (ho : s.read = o)
    (hf : s.written.length = f) (hr : s.rest = sourceLines edits ++ tail) :
    run s hunks = some (s.written ++ formattedLines edits ++ tail) := by
  induction h generalizing s with
  | done o f kept => simp [run, hr]
  | @hunk o f kept body left hunks _ ih =>
    subst ho hf
    have hrest : s.rest = kept ++ sourceLines body ++ (sourceLines left ++ tail) := by
      simpa using hr
    rw [run, step_ofEdits s kept body _ hrest, Option.bind_some]
    rw [ih _ rfl (by simp; omega) rfl]
    simp

/-- The hunks of grouped edits are a patch from one side to the other, and turned round
a patch back. -/
theorem apply_group (context : Nat) (edits : List Edit) (tail : List Text) :
    apply (Hunk.group context edits) (sourceLines edits ++ tail) =
        some (formattedLines edits ++ tail) ∧
      apply ((Hunk.group context edits).map Hunk.reverse) (formattedLines edits ++ tail) =
        some (sourceLines edits ++ tail) := by
  have hc := Hunk.group_covers context edits
  constructor
  · exact run_of_covers hc (start _) tail rfl rfl rfl
  · have hb := run_of_covers hc.reverse (start (formattedLines edits ++ tail)) tail rfl rfl
      (by rw [sourceLines_reverse]; rfl)
    rwa [formattedLines_reverse] at hb

end Patch

open Patch LayoutCheck.Alignment

/-- A diff of two texts is a patch in both directions, unless a lone empty line stands
against other lines: that line is lost. -/
theorem unified_is_patch_iff (source formatted : Text) :
    (apply (Diff.unified source formatted).hunks source.lines = some formatted.lines ∧
        apply ((Diff.unified source formatted).hunks.map Hunk.reverse) formatted.lines =
          some source.lines) ↔
      ¬ LoneBlank source.lines formatted.lines := by
  have hpatch := apply_group Diff.contextLines (align source formatted)
  constructor
  · rintro ⟨hforth, -⟩ hlone
    obtain ⟨tail, hs, hf⟩ := ofLines_sides_of_loneBlank hlone
    have hwritten := (hpatch tail).1
    rw [align, ← hs] at hwritten
    exact hf (Option.some.inj (hforth.symm.trans hwritten))
  · intro hlone
    obtain ⟨tail, hs, hf⟩ := ofLines_sides_of_not_loneBlank hlone
    have hboth := hpatch tail
    rw [align, ← hs, ← hf] at hboth
    exact hboth

/-- The lone empty line stays behind the line that was to replace it. -/
example : Patch.apply (Diff.unified ['\n'] ['x', '\n']).hunks [[]] = some [['x'], []] := by cbv

open Text LayoutCheck.Alignment

namespace Hunk

def renderedLines (h : Hunk) : List Text := h.header :: h.edits.map Edit.render

structure WellFormed (h : Hunk) : Prop where
  sourceLen : h.sourceLen = h.edits.countP inSource
  formattedLen : h.formattedLen = h.edits.countP inFormatted
  oneLine : ∀ e ∈ h.edits, '\n' ∉ e.line

instance (h : Hunk) : Decidable h.WellFormed :=
  decidable_of_iff (h.sourceLen = h.edits.countP inSource ∧
      h.formattedLen = h.edits.countP inFormatted ∧ ∀ e ∈ h.edits, '\n' ∉ e.line)
    ⟨fun ⟨hs, hf, hl⟩ => ⟨hs, hf, hl⟩, fun h => ⟨h.sourceLen, h.formattedLen, h.oneLine⟩⟩

end Hunk

namespace Diff

def renderedLines (d : Diff) : List Text :=
  if d.isEmpty then []
  else
    ("--- ".toList ++ d.sourceLabel) :: ("+++ ".toList ++ d.formattedLabel)
      :: d.hunks.flatMap Hunk.renderedLines

structure WellFormed (d : Diff) : Prop where
  sourceLabel : '\n' ∉ d.sourceLabel
  formattedLabel : '\n' ∉ d.formattedLabel
  hunks : ∀ h ∈ d.hunks, h.WellFormed

instance (d : Diff) : Decidable d.WellFormed :=
  decidable_of_iff ('\n' ∉ d.sourceLabel ∧ '\n' ∉ d.formattedLabel ∧
      ∀ h ∈ d.hunks, h.WellFormed)
    ⟨fun ⟨hs, hf, hh⟩ => ⟨hs, hf, hh⟩, fun h => ⟨h.sourceLabel, h.formattedLabel, h.hunks⟩⟩

end Diff

theorem Diff.renderHunk_eq_unlines (h : Hunk) :
    Diff.renderHunk h = unlines h.renderedLines := by
  simp [Diff.renderHunk, Diff.renderLine, Hunk.renderedLines, unlines, List.flatMap_map]

theorem Diff.render_eq_unlines (d : Diff) : d.render = unlines d.renderedLines := by
  unfold Diff.render Diff.renderedLines
  split
  · rfl
  · have hhunks : d.hunks.flatMap Diff.renderHunk =
        d.hunks.flatMap fun h => unlines h.renderedLines :=
      List.flatMap_congr fun h _ => Diff.renderHunk_eq_unlines h
    rw [unlines_cons, unlines_cons, unlines_flatMap, ← hhunks]
    simp only [Diff.renderLine, List.append_assoc, List.cons_append, List.nil_append]

theorem digits_of_mem_ofNat {n : Nat} {c : Char} (h : c ∈ ofNat n) : c.isDigit = true :=
  Nat.isDigit_of_mem_toDigits (by decide) (by decide) h

theorem Hunk.newline_not_mem_range (start len : Nat) : '\n' ∉ Hunk.range start len := by
  have hn (n : Nat) : '\n' ∉ ofNat n := fun h => absurd (digits_of_mem_ofNat h) (by decide)
  unfold Hunk.range
  split
  · simp [hn]
  · exact hn _
  · simp [hn]

theorem Hunk.newline_not_mem_header (h : Hunk) : '\n' ∉ h.header := by
  have hs := Hunk.newline_not_mem_range h.sourceStart h.sourceLen
  have hf := Hunk.newline_not_mem_range h.formattedStart h.formattedLen
  unfold Hunk.header
  simp only [List.mem_append, not_or]
  exact ⟨⟨⟨⟨by decide, hs⟩, by decide⟩, hf⟩, by decide⟩

theorem Edit.newline_not_mem_render {e : Edit} (h : '\n' ∉ e.line) : '\n' ∉ e.render := by
  cases e <;> simpa [Edit.render, Edit.sign, Edit.line] using h

theorem Hunk.WellFormed.newline_not_mem {h : Hunk} (hw : h.WellFormed) :
    ∀ l ∈ h.renderedLines, '\n' ∉ l := by
  intro l hl
  rcases List.mem_cons.mp hl with rfl | hl
  · exact h.newline_not_mem_header
  · obtain ⟨e, he, rfl⟩ := List.mem_map.mp hl
    exact Edit.newline_not_mem_render (hw.oneLine e he)

theorem Diff.WellFormed.newline_not_mem {d : Diff} (hw : d.WellFormed) :
    ∀ l ∈ d.renderedLines, '\n' ∉ l := by
  intro l hl
  unfold Diff.renderedLines at hl
  split at hl
  · cases hl
  · rcases List.mem_cons.mp hl with rfl | hl
    · exact List.not_mem_append (by decide) hw.sourceLabel
    · rcases List.mem_cons.mp hl with rfl | hl
      · exact List.not_mem_append (by decide) hw.formattedLabel
      · obtain ⟨h, hh, hl⟩ := List.mem_flatMap.mp hl
        exact (hw.hunks h hh).newline_not_mem l hl

theorem Edit.line_mem_sides {e : Edit} {es : List Edit} (h : e ∈ es) :
    e.line ∈ sourceLines es ∨ e.line ∈ formattedLines es := by
  cases e with
  | keep l => exact Or.inl (List.mem_map_of_mem (List.mem_filter.mpr ⟨h, rfl⟩))
  | drop l => exact Or.inl (List.mem_map_of_mem (List.mem_filter.mpr ⟨h, rfl⟩))
  | insert l => exact Or.inr (List.mem_map_of_mem (List.mem_filter.mpr ⟨h, rfl⟩))

theorem Alignment.rejoined_subset (ls : List Text) : rejoined ls ⊆ ls := by
  unfold rejoined
  split
  · exact List.nil_subset ls
  · exact List.Subset.refl ls

theorem line_mem_of_mem_align {source formatted : Text} {e : Edit}
    (h : e ∈ align source formatted) : e.line ∈ source.lines ∨ e.line ∈ formatted.lines := by
  have hsides := Edit.line_mem_sides h
  rw [align] at hsides
  by_cases hempty : source.lines = [] ∨ formatted.lines = []
  · obtain ⟨hs, hf⟩ := ofLines_sides_of_empty hempty
    rwa [hs, hf] at hsides
  · obtain ⟨ho, hn⟩ := not_or.mp hempty
    obtain ⟨hs, hf⟩ := ofLines_sides ho hn
    rw [hs, hf] at hsides
    exact hsides.imp (fun h => rejoined_subset _ h) (fun h => rejoined_subset _ h)

theorem Hunk.Covers.wellFormed {o f : Nat} {edits : List Edit} {hunks : List Hunk}
    (hc : Hunk.Covers o f edits hunks) (hl : ∀ e ∈ edits, '\n' ∉ e.line) :
    ∀ h ∈ hunks, h.WellFormed := by
  induction hc with
  | done => intro h hh; cases hh
  | @hunk o f kept body left hunks _ ih =>
    intro h hh
    rcases List.mem_cons.mp hh with rfl | hh
    · refine ⟨rfl, rfl, fun e he => hl e ?_⟩
      exact List.mem_append_left _ (List.mem_append_right _ he)
    · exact ih (fun e he => hl e (List.mem_append_right _ he)) h hh

theorem Diff.ofTexts_wellFormed {sourceLabel formattedLabel : Text} (hs : '\n' ∉ sourceLabel)
    (hf : '\n' ∉ formattedLabel) (source formatted : Text) :
    (Diff.ofTexts source formatted sourceLabel formattedLabel).WellFormed := by
  have hcovers := Hunk.group_covers Diff.contextLines (align source formatted)
  refine ⟨hs, hf, hcovers.wellFormed ?_⟩
  intro e he
  rcases line_mem_of_mem_align he with hl | hl
  · exact newline_not_mem_of_mem_lines hl
  · exact newline_not_mem_of_mem_lines hl

namespace Text

def readNumber (t : Text) : Option (Nat × Text) :=
  match t.takeWhile Char.isDigit with
  | [] => none
  | ds => some (Nat.ofDigitChars 10 ds 0, t.dropWhile Char.isDigit)

theorem readNumber_ofNat (n : Nat) {c : Char} (hc : c.isDigit = false) (t : Text) :
    readNumber (ofNat n ++ c :: t) = some (n, c :: t) := by
  have hdigits : ∀ d ∈ ofNat n, d.isDigit = true := fun d hd => digits_of_mem_ofNat hd
  have htake : (ofNat n ++ c :: t).takeWhile Char.isDigit = ofNat n := by
    rw [List.takeWhile_append_of_pos hdigits, List.takeWhile_cons_of_neg (by simp [hc]),
      List.append_nil]
  have hdrop : (ofNat n ++ c :: t).dropWhile Char.isDigit = c :: t := by
    rw [List.dropWhile_append_of_pos hdigits, List.dropWhile_cons_of_neg (by simp [hc])]
  obtain ⟨d, ds, hds⟩ := List.exists_cons_of_ne_nil (Nat.toDigits_ne_nil (b := 10) (n := n))
  have hvalue : Nat.ofDigitChars 10 (d :: ds) 0 = n := by
    rw [← hds]
    exact Nat.ofDigitChars_ten_toDigits
  have hn : ofNat n = d :: ds := hds
  unfold readNumber
  rw [htake, hdrop, hn]
  simp only [hvalue]

theorem dropLead?_append (p t : Text) : dropLead? p (p ++ t) = some t :=
  (dropLead?_eq_some_iff p (p ++ t) t).mpr rfl

end Text

namespace Hunk

def linesBefore (n : Nat) : Nat := if n = 0 then 0xFFFFFFFFFFFFFFFF else n - 1

theorem linesBefore_lineBehind (start : Nat) : linesBefore (lineBehind start) = start := by
  unfold linesBefore lineBehind
  split <;> simp_all

def readRange (t : Text) : Option ((Nat × Nat) × Text) :=
  match readNumber t with
  | none => none
  | some (n, ',' :: t) =>
    (readNumber t).map fun r => (if r.1 = 0 then (n, 0) else (linesBefore n, r.1), r.2)
  | some (n, t) => some ((linesBefore n, 1), t)

theorem readRange_range (start len : Nat) (t : Text) :
    readRange (range start len ++ ' ' :: t) = some ((start, len), ' ' :: t) := by
  have hcomma : Char.isDigit ',' = false := by decide
  have hblank : Char.isDigit ' ' = false := by decide
  unfold range
  split
  · have hfirst := readNumber_ofNat start hcomma (ofNat 0 ++ ' ' :: t)
    have hsecond := readNumber_ofNat 0 hblank t
    change readRange (ofNat start ++ ",0".toList ++ ' ' :: t) = _
    rw [List.append_assoc]
    change readRange (ofNat start ++ ',' :: (ofNat 0 ++ ' ' :: t)) = _
    simp only [readRange, hfirst, hsecond, Option.map_some, if_true]
  · have hfirst := readNumber_ofNat (lineBehind start) hblank t
    simp only [readRange, hfirst]
    change some ((linesBefore (lineBehind start), 1), ' ' :: t) = _
    rw [linesBefore_lineBehind]
  · next hzero hone =>
    have hfirst := readNumber_ofNat (lineBehind start) hcomma (ofNat len ++ ' ' :: t)
    have hsecond := readNumber_ofNat len hblank t
    have hlen : len ≠ 0 := hzero
    rw [List.append_assoc, List.cons_append]
    simp only [readRange, hfirst, hsecond, Option.map_some, if_neg hlen,
      linesBefore_lineBehind]

def readHeader (l : Text) : Option Hunk := do
  let (source, t) ← (dropLead? "@@ -".toList l).bind readRange
  let (formatted, t) ← (dropLead? " +".toList t).bind readRange
  if t = " @@".toList then some ⟨source.1, source.2, formatted.1, formatted.2, []⟩ else none

theorem readHeader_header (h : Hunk) : readHeader h.header = some { h with edits := [] } := by
  have hformatted : readRange (range h.formattedStart h.formattedLen ++ " @@".toList) =
      some ((h.formattedStart, h.formattedLen), " @@".toList) :=
    readRange_range _ _ ['@', '@']
  have hsource (t : Text) : readRange (range h.sourceStart h.sourceLen ++ (" +".toList ++ t)) =
      some ((h.sourceStart, h.sourceLen), " +".toList ++ t) :=
    readRange_range _ _ ('+' :: t)
  -- rewriting with associativity would look into the words of the header
  have hassoc (a b c d e : Text) : a ++ b ++ c ++ d ++ e = a ++ (b ++ (c ++ (d ++ e))) := by
    simp only [List.append_assoc]
  have hheader : h.header = "@@ -".toList ++ (range h.sourceStart h.sourceLen ++
      (" +".toList ++ (range h.formattedStart h.formattedLen ++ " @@".toList))) :=
    hassoc _ _ _ _ _
  rw [readHeader, hheader, dropLead?_append]
  simp only [Option.bind_eq_bind, Option.bind_some, hsource, dropLead?_append, hformatted, if_true]

end Hunk

namespace Edit

def read : Text → Option Edit
  | ' ' :: l => some (keep l)
  | '-' :: l => some (drop l)
  | '+' :: l => some (insert l)
  | _ => none

theorem read_render (e : Edit) : read e.render = some e := by
  cases e <;> rfl

/-- Takes an edit off the source and formatted lines that are still to come. -/
def settle : Edit → Nat → Nat → Option (Nat × Nat)
  | keep _, o + 1, f + 1 => some (o, f)
  | drop _, o + 1, f => some (o, f)
  | insert _, o, f + 1 => some (o, f)
  | _, _, _ => none

theorem settle_count (e : Edit) (es : List Edit) :
    e.settle ((e :: es).countP inSource) ((e :: es).countP inFormatted) =
      some (es.countP inSource, es.countP inFormatted) := by
  cases e <;> simp [List.countP_cons, inSource, inFormatted, settle]

theorem count_cons_ne_zero (e : Edit) (es : List Edit) :
    ¬ ((e :: es).countP inSource = 0 ∧ (e :: es).countP inFormatted = 0) := by
  cases e <;> simp [List.countP_cons, inSource, inFormatted]

end Edit

namespace Hunk

/-- Reads the rest of a hunk that has `o` source and `f` formatted lines still to come, and
then the hunks after it. -/
def readRest (o f : Nat) : List Text → Option (List Edit × List Hunk)
  | [] => if o = 0 ∧ f = 0 then some ([], []) else none
  | l :: ls =>
    if o = 0 ∧ f = 0 then do
      let h ← readHeader l
      let (es, hs) ← readRest h.sourceLen h.formattedLen ls
      some ([], { h with edits := es } :: hs)
    else do
      let e ← Edit.read l
      let (o, f) ← e.settle o f
      let (es, hs) ← readRest o f ls
      some (e :: es, hs)

theorem readRest_header {h : Hunk} {ls : List Text} {es : List Edit} {hs : List Hunk}
    (hrest : readRest h.sourceLen h.formattedLen ls = some (es, hs)) :
    readRest 0 0 (h.header :: ls) = some ([], { h with edits := es } :: hs) := by
  simp [readRest, readHeader_header, hrest]

theorem readRest_edit {e : Edit} {es : List Edit} {ls : List Text} {hs : List Hunk}
    (hrest : readRest (es.countP inSource) (es.countP inFormatted) ls = some (es, hs)) :
    readRest ((e :: es).countP inSource) ((e :: es).countP inFormatted) (e.render :: ls) =
      some (e :: es, hs) := by
  rw [readRest, if_neg (count_cons_ne_zero e es)]
  simp [read_render, settle_count, hrest]

theorem readRest_edits (es : List Edit) {ls : List Text} {hs : List Hunk}
    (hrest : readRest 0 0 ls = some ([], hs)) :
    readRest (es.countP inSource) (es.countP inFormatted) (es.map render ++ ls) =
      some (es, hs) := by
  -- what is still to come is counted by the edits that are left
  induction es with
  | nil => exact hrest
  | cons e es ih => exact readRest_edit ih

theorem readRest_hunks {hs : List Hunk} (hw : ∀ h ∈ hs, h.WellFormed) :
    readRest 0 0 (hs.flatMap renderedLines) = some ([], hs) := by
  induction hs with
  | nil => rfl
  | cons h hs ih =>
    have hh := hw h List.mem_cons_self
    have hrest := readRest_edits h.edits (ih fun k hk => hw k (List.mem_cons_of_mem _ hk))
    rw [← hh.sourceLen, ← hh.formattedLen] at hrest
    exact readRest_header hrest

end Hunk

namespace Diff

def readLines : List Text → Option Diff
  | source :: formatted :: ls => do
    let source ← dropLead? "--- ".toList source
    let formatted ← dropLead? "+++ ".toList formatted
    let (_, hunks) ← Hunk.readRest 0 0 ls
    some ⟨source, formatted, hunks⟩
  | _ => none

def read (t : Text) : Option Diff :=
  let pieces := splitOn '\n' t
  if pieces.getLast? = some [] then readLines pieces.dropLast else none

theorem renderedLines_of_ne_nil {d : Diff} (hne : d.hunks ≠ []) :
    d.renderedLines = ("--- ".toList ++ d.sourceLabel) :: ("+++ ".toList ++ d.formattedLabel)
      :: d.hunks.flatMap Hunk.renderedLines := by
  rw [renderedLines, isEmpty, if_neg]
  simpa using hne

theorem readLines_renderedLines {d : Diff} (hw : d.WellFormed) (hne : d.hunks ≠ []) :
    readLines d.renderedLines = some d := by
  rw [renderedLines_of_ne_nil hne]
  simp only [readLines, dropLead?_append, Hunk.readRest_hunks hw.hunks, Option.bind_eq_bind,
    Option.bind_some]

theorem read_render {d : Diff} (hw : d.WellFormed) (hne : d.hunks ≠ []) :
    read d.render = some d := by
  rw [read, render_eq_unlines, splitOn_unlines hw.newline_not_mem]
  simp only [List.getLast?_concat, if_true, List.dropLast_concat]
  exact readLines_renderedLines hw hne

theorem render_ne_nil {d : Diff} (hne : d.hunks ≠ []) : d.render ≠ [] := by
  rw [render_eq_unlines, renderedLines_of_ne_nil hne, unlines_cons]
  exact List.append_ne_nil_of_right_ne_nil _ (List.cons_ne_nil _ _)

theorem eq_of_render_eq {d₁ d₂ : Diff} (h₁ : d₁.WellFormed) (h₂ : d₂.WellFormed)
    (hne : d₁.hunks ≠ []) (heq : d₁.render = d₂.render) : d₁ = d₂ := by
  have hne₂ : d₂.hunks ≠ [] := by
    intro hnil
    apply render_ne_nil hne
    rw [heq, render, isEmpty, hnil]
    rfl
  have hread := read_render h₁ hne
  rw [heq, read_render h₂ hne₂] at hread
  exact (Option.some.inj hread).symm

end Diff

/-- The rendering of a well-formed diff determines it, and diffs of texts are well-formed. -/
theorem rendered_diff_reads_back :
    (∀ d : Diff, d.WellFormed → d.hunks ≠ [] → Diff.read d.render = some d) ∧
      (∀ d₁ d₂ : Diff, d₁.WellFormed → d₂.WellFormed → d₁.hunks ≠ [] →
        d₁.render = d₂.render → d₁ = d₂) ∧
      (∀ source formatted sourceLabel formattedLabel : Text, '\n' ∉ sourceLabel →
        '\n' ∉ formattedLabel →
          (Diff.ofTexts source formatted sourceLabel formattedLabel).WellFormed) := by
  refine ⟨?_, ?_, ?_⟩
  · intro d hw hne
    exact Diff.read_render hw hne
  · intro d₁ d₂ h₁ h₂ hne heq
    exact Diff.eq_of_render_eq h₁ h₂ hne heq
  · intro source formatted sourceLabel formattedLabel hs hf
    exact Diff.ofTexts_wellFormed hs hf source formatted

/-- A diff whose lines look like the headers of files and hunks. -/
def lookalikeDiff : Diff :=
  ⟨"a".toList, "b".toList,
    [⟨4, 2, 4, 2, [drop "-- a".toList, insert "++ b".toList, keep "@@ -1 +1 @@".toList]⟩,
      ⟨9, 0, 9, 0, []⟩, ⟨12, 1, 12, 0, [drop []]⟩]⟩

def plainDiff : Diff :=
  ⟨"a".toList, "b".toList, [⟨4, 1, 4, 1, [keep "@@ -1 +1 @@".toList]⟩, ⟨12, 1, 12, 0, [drop []]⟩]⟩

theorem rendered_diff_reads_back_lookalike :
    (lookalikeDiff.WellFormed ∧ lookalikeDiff.hunks ≠ [] ∧ plainDiff.WellFormed) ∧
      Diff.read lookalikeDiff.render = some lookalikeDiff ∧
      lookalikeDiff.render ≠ plainDiff.render ∧
      ('\n' ∉ "a".toList ∧ '\n' ∉ "b".toList) ∧
      (Diff.ofTexts "-- x\r\n\n".toList "++ x".toList "a".toList "b".toList).WellFormed := by
  have hw : lookalikeDiff.WellFormed := by decide
  have hne : lookalikeDiff.hunks ≠ [] := by decide
  have hplain : plainDiff.WellFormed := by decide
  have hother : lookalikeDiff ≠ plainDiff := by decide
  have hlabels : '\n' ∉ "a".toList ∧ '\n' ∉ "b".toList := by decide
  obtain ⟨hread, hinj, htexts⟩ := rendered_diff_reads_back
  exact ⟨⟨hw, hne, hplain⟩, hread _ hw hne, fun heq => hother (hinj _ _ hw hplain hne heq),
    hlabels, htexts _ _ _ _ hlabels.1 hlabels.2⟩

end LayoutCheck
