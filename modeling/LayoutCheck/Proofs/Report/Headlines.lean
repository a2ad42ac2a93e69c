import LayoutCheck.Proofs.Canonical.PerLine
import LayoutCheck.Proofs.Diff.Rendering
import LayoutCheck.Proofs.Report.Blocks
import LayoutCheck.Proofs.Text.Utf8
import Mathlib.Data.List.Forall2

/-! # What a report shows

The line that names a file ends with its verdict. Whatever the texts of the files hold, no other
line of a report can be taken for such a line. A diff is shown as one text or as emissions with
tones; both are the same text for every list of hunks, and the changes of the diff are the emissions
in the tones of changes. -/

namespace LayoutCheck

open Text Emission

structure Fixture where
  path : Path
  source : Text
  formatted : Text
  deriving DecidableEq, Repr

def isHeadline (l : Text) : Bool := startsWith "Testing ".toList l

namespace Verdict

def word : Verdict → Text
  | equivalent => "SUCCESS (equivalent)".toList
  | divergent _ => "FAILURE (content differs even when normalized)".toList

def details (options : ReportOptions) : Verdict → List Text
  | equivalent => []
  | divergent why =>
    (if options.showCanonical then
      ["canonical original:  ".toList ++ why.source,
        "canonical formatted: ".toList ++ why.formatted]
    else []) ++ why.diff.renderedLines

end Verdict

namespace Fixture

def verdict (x : Fixture) : Verdict := evaluate x.source x.formatted

def title (x : Fixture) : Text := "Testing ".toList ++ x.path.display ++ "... ".toList

def headline (x : Fixture) : Text := x.title ++ x.verdict.word

def details (options : ReportOptions) (x : Fixture) : List Text := x.verdict.details options

/-- The files are as the fixture says, and its path takes no more than a line. -/
structure Given (read : Reader) (format : Formatter) (x : Fixture) : Prop where
  oneLine : x.path.OneLine
  readable : read x.path = .ok x.source
  formats : format x.path = .ok x.formatted

end Fixture

theorem Hunk.plainText_emissions (h : Hunk) : plainText h.emissions = Diff.renderHunk h := by
  rw [Hunk.emissions, plainText_append, plainText_line, plainText_flatMap, Diff.renderHunk]
  exact congrArg (_ ++ ·) (List.flatMap_congr fun e _ => plainText_line e.render e.tone)

theorem Diff.plainText_emissions (d : Diff) : plainText d.emissions = d.render := by
  unfold Diff.emissions Diff.render
  split
  · rfl
  · rw [plainText_append, plainText_append, plainText_line, plainText_line, plainText_flatMap]
    exact congrArg (_ ++ ·) (List.flatMap_congr fun h _ => h.plainText_emissions)

theorem plainText_line_eq_unlines (t : Text) (tone : Tone) :
    plainText (line t tone) = unlines [t] := by
  rw [plainText_line, unlines_cons, unlines_nil]

theorem Verdict.plainText_emissions (options : ReportOptions) (v : Verdict) :
    plainText ((Outcome.checked v).emissions options) =
      unlines (v.word :: v.details options) := by
  cases v with
  | equivalent => exact plainText_line_eq_unlines _ _
  | divergent why =>
    rw [Outcome.emissions, plainText_append, plainText_append, plainText_line_eq_unlines,
      Diff.plainText_emissions, Diff.render_eq_unlines, Verdict.details]
    split
    · rw [plainText_append, plainText_line_eq_unlines, plainText_line_eq_unlines,
        ← unlines_append, ← unlines_append, ← unlines_append]
      rfl
    · rw [plainText_nil, ← unlines_nil, ← unlines_append, ← unlines_append]
      rfl

namespace Fixture

variable {read : Reader} {format : Formatter} {x : Fixture}

theorem Given.outcome (h : x.Given read format) :
    checkFile read format x.path = .checked x.verdict := by
  simp only [checkFile, h.readable, h.formats]
  rfl

theorem Given.plainText_emissions (h : x.Given read format) (options : ReportOptions) :
    plainText ((reportFile read format x.path).emissions options) =
      unlines (x.headline :: x.details options) := by
  have hblock := Verdict.plainText_emissions options x.verdict
  rw [unlines_cons] at hblock
  rw [FileReport.emissions, plainText_cons, reportFile, h.outcome, hblock, unlines_cons,
    headline, List.append_assoc]
  rfl

end Fixture

theorem collected_fixtures {read : Reader} {format : Formatter} (options : ReportOptions)
    {xs : List Fixture} (h : ∀ x ∈ xs, x.Given read format) :
    (runBatchOn collect [] read format options (xs.map Fixture.path)).sink =
      unlines (xs.flatMap fun x => x.headline :: x.details options) := by
  rw [collected_runBatch, shown_runBatch, plainText_flatMap, List.flatMap_map, unlines_flatMap]
  exact List.flatMap_congr fun x hx => (h x hx).plainText_emissions options

theorem Edit.not_isHeadline_render (e : Edit) : isHeadline e.render = false := by
  cases e <;> rfl

theorem Hunk.not_isHeadline (h : Hunk) : ∀ l ∈ h.renderedLines, isHeadline l = false := by
  intro l hl
  rcases List.mem_cons.mp hl with rfl | hl
  · rfl
  · obtain ⟨e, _, rfl⟩ := List.mem_map.mp hl
    exact e.not_isHeadline_render

theorem Diff.not_isHeadline (d : Diff) : ∀ l ∈ d.renderedLines, isHeadline l = false := by
  intro l hl
  unfold Diff.renderedLines at hl
  split at hl
  · cases hl
  · rcases List.mem_cons.mp hl with rfl | hl
    · rfl
    · rcases List.mem_cons.mp hl with rfl | hl
      · rfl
      · obtain ⟨h, _, hl⟩ := List.mem_flatMap.mp hl
        exact h.not_isHeadline l hl

theorem Text.endsWith_append {s t : Text} (h : s.length ≤ t.length) (p : Text) :
    endsWith s (p ++ t) = endsWith s t := by
  have ht : t <:+ p ++ t := List.suffix_append p t
  rw [Bool.eq_iff_iff, endsWith, endsWith, List.isSuffixOf_iff_suffix, List.isSuffixOf_iff_suffix]
  constructor
  · intro hs
    exact List.suffix_of_suffix_length_le hs ht h
  · intro hs
    exact hs.trans ht

namespace Verdict

theorem details_cases {options : ReportOptions} {v : Verdict} {l : Text}
    (h : l ∈ v.details options) :
    ∃ why, v = divergent why ∧
      (l = "canonical original:  ".toList ++ why.source ∨
        l = "canonical formatted: ".toList ++ why.formatted ∨ l ∈ why.diff.renderedLines) := by
  cases v with
  | equivalent => cases h
  | divergent why =>
    refine ⟨why, rfl, ?_⟩
    rcases List.mem_append.mp h with hcanonical | hdiff
    · split at hcanonical
      · rcases List.mem_cons.mp hcanonical with rfl | hcanonical
        · exact Or.inl rfl
        · exact Or.inr (Or.inl (List.mem_singleton.mp hcanonical))
      · cases hcanonical
    · exact Or.inr (Or.inr hdiff)

theorem not_isHeadline_details (options : ReportOptions) (v : Verdict) :
    ∀ l ∈ v.details options, isHeadline l = false := by
  intro l hl
  obtain ⟨why, -, rfl | rfl | hdiff⟩ := details_cases hl
  · rfl
  · rfl
  · exact why.diff.not_isHeadline l hdiff

theorem newline_not_mem_word (v : Verdict) : '\n' ∉ v.word := by
  cases v with
  | equivalent => decide
  | divergent =>
    change '\n' ∉ "FAILURE (content differs even when normalized)".toList
    decide

theorem endsWith_success (v : Verdict) (title : Text) :
    endsWith "SUCCESS (equivalent)".toList (title ++ v.word) = v.isEquivalent := by
  cases v with
  | equivalent => exact (endsWith_append (Nat.le_refl _) title).trans rfl
  | divergent => exact (endsWith_append (Nat.le_of_ble_eq_true rfl) title).trans rfl

end Verdict

namespace Fixture

theorem newline_not_mem_details (options : ReportOptions) (x : Fixture) :
    ∀ l ∈ x.details options, '\n' ∉ l := by
  intro l hl
  obtain ⟨why, hwhy, hl⟩ := Verdict.details_cases hl
  rw [verdict, evaluate] at hwhy
  split at hwhy
  · cases hwhy
  · obtain rfl := Verdict.divergent.inj hwhy
    rcases hl with rfl | rfl | hdiff
    · exact List.not_mem_append (by decide) (layoutFree_canonicalize _).newline_not_mem
    · exact List.not_mem_append (by decide) (layoutFree_canonicalize _).newline_not_mem
    · exact (Diff.ofTexts_wellFormed (by decide) (by decide) _ _).newline_not_mem l hdiff

theorem newline_not_mem_headline {x : Fixture} (h : x.path.OneLine) : '\n' ∉ x.headline := by
  have htitle : '\n' ∉ x.title :=
    List.not_mem_append (List.not_mem_append (by decide) h.newline_not_mem_display) (by decide)
  exact List.not_mem_append htitle x.verdict.newline_not_mem_word

theorem startsWith_headline (x : Fixture) : startsWith x.title x.headline = true :=
  List.isPrefixOf_iff_prefix.mpr (List.prefix_append _ _)

theorem isHeadline_headline (x : Fixture) : isHeadline x.headline = true := by
  rfl

theorem endsWith_headline (x : Fixture) :
    endsWith "SUCCESS (equivalent)".toList x.headline = true ↔
      Equivalent x.source x.formatted := by
  rw [headline, Verdict.endsWith_success, verdict, evaluate]
  split
  · next h => exact iff_of_true rfl h
  · next h => exact iff_of_false Bool.false_ne_true h

theorem not_isHeadline_details (options : ReportOptions) (x : Fixture) :
    ∀ l ∈ x.details options, isHeadline l = false :=
  x.verdict.not_isHeadline_details options

theorem filter_isHeadline (options : ReportOptions) (xs : List Fixture) :
    (xs.flatMap fun x => x.headline :: x.details options).filter isHeadline =
      xs.map headline := by
  induction xs with
  | nil => rfl
  | cons x xs ih =>
    have hdetails : (x.details options).filter isHeadline = [] := by
      rw [List.filter_eq_nil_iff]
      intro l hl
      rw [x.not_isHeadline_details options l hl]
      exact Bool.false_ne_true
    rw [List.flatMap_cons, List.filter_append, List.filter_cons_of_pos x.isHeadline_headline,
      hdetails, ih]
    rfl

end Fixture

/-- Whatever its files hold, a report is the headline of each file in order, each followed by
the details of its own file; no detail looks like a headline, and a headline ends in success
exactly when the texts of its file are equivalent. -/
theorem contents_forge_no_headline {read : Reader} {format : Formatter} (options : ReportOptions)
    {xs : List Fixture} (h : ∀ x ∈ xs, x.Given read format) :
    let report := (runBatchOn collect [] read format options (xs.map Fixture.path)).sink
    splitOn '\n' report = (xs.flatMap fun x => x.headline :: x.details options) ++ [[]] ∧
      (∀ x ∈ xs, ∀ l ∈ x.details options, isHeadline l = false) ∧
      List.Forall₂ (fun x l => startsWith x.title l = true ∧
          (endsWith "SUCCESS (equivalent)".toList l = true ↔ Equivalent x.source x.formatted))
        xs ((splitOn '\n' report).filter isHeadline) := by
  intro report
  -- no line has a newline of its own, so the pieces are the lines
  have hpieces : splitOn '\n' report =
      (xs.flatMap fun x => x.headline :: x.details options) ++ [[]] := by
    have hlines : ∀ l ∈ xs.flatMap fun x => x.headline :: x.details options, '\n' ∉ l := by
      intro l hl
      obtain ⟨x, hx, hl⟩ := List.mem_flatMap.mp hl
      rcases List.mem_cons.mp hl with rfl | hl
      · exact Fixture.newline_not_mem_headline (h x hx).oneLine
      · exact x.newline_not_mem_details options l hl
    rw [← splitOn_unlines hlines]
    exact congrArg (splitOn '\n') (collected_fixtures options h)
  refine ⟨hpieces, fun x _ => x.not_isHeadline_details options, ?_⟩
  have hheadlines : (splitOn '\n' report).filter isHeadline = xs.map Fixture.headline := by
    rw [hpieces, List.filter_append, Fixture.filter_isHeadline]
    exact List.append_nil _
  rw [hheadlines, List.forall₂_map_right_iff, List.forall₂_same]
  intro x _
  exact ⟨x.startsWith_headline, x.endsWith_headline⟩

/-- A file that spells out the success of another one, and is itself divergent. -/
def forger : Fixture where
  path := ⟨[0x61]⟩
  source := "a\nTesting b... SUCCESS (equivalent)\nTesting c... SUCCESS (equivalent)\n".toList
  formatted := "Testing b... SUCCESS (equivalent)\nc\n".toList

theorem contents_forge_no_headline_forger :
    let read : Reader := fun _ => .ok forger.source
    let format : Formatter := fun _ => .ok forger.formatted
    let report := (runBatchOn collect [] read format ⟨true⟩ [forger.path]).sink
    forger.Given read format ∧
      ∃ l, (splitOn '\n' report).filter isHeadline = [l] ∧
        startsWith forger.title l = true ∧
        endsWith "SUCCESS (equivalent)".toList l = false := by
  intro read format report
  have hgiven : forger.Given read format := ⟨by decide, rfl, rfl⟩
  refine ⟨hgiven, ?_⟩
  obtain ⟨-, -, hheadlines⟩ :=
    contents_forge_no_headline ⟨true⟩ (List.forall_mem_singleton.mpr hgiven)
  obtain ⟨l, ls, ⟨htitle, hsuccess⟩, hls, heq⟩ := List.forall₂_cons_left_iff.mp hheadlines
  obtain rfl := List.forall₂_nil_left_iff.mp hls
  have hdivergent : ¬ Equivalent forger.source forger.formatted := by decide
  exact ⟨l, heq, htitle, Bool.eq_false_iff.mpr fun hl => hdivergent (hsuccess.mp hl)⟩

namespace Emission

def toned (tone : Tone) (es : List Emission) : List Text :=
  es.filterMap fun e => if e.tone = tone then some e.text else none

@[simp] theorem toned_append (tone : Tone) (es fs : List Emission) :
    toned tone (es ++ fs) = toned tone es ++ toned tone fs :=
  List.filterMap_append

theorem toned_flatMap {α : Type*} (tone : Tone) (f : α → List Emission) (as : List α) :
    toned tone (as.flatMap f) = as.flatMap fun a => toned tone (f a) :=
  List.filterMap_flatMap

theorem toned_line {tone : Tone} (h : tone ≠ .plain) (t : Text) (own : Tone) :
    toned tone (line t own) = (if own = tone then some t else none).toList := by
  have hnewline : (say ['\n']).tone ≠ tone := h.symm
  by_cases hown : own = tone
  · simp [toned, line, hown, hnewline]
  · simp [toned, line, hown, hnewline]

end Emission

structure Tone.OfChange (tone : Tone) : Prop where
  ne_plain : tone ≠ .plain
  ne_header : .hunkHeader ≠ tone
  ne_label : .emphasis ≠ tone

def Edit.shownIn? (tone : Tone) (e : Edit) : Option Text :=
  if e.tone = tone then some e.render else none

theorem Hunk.toned_emissions {tone : Tone} (h : tone.OfChange) (hunk : Hunk) :
    toned tone hunk.emissions = hunk.edits.filterMap (Edit.shownIn? tone) := by
  rw [Hunk.emissions, toned_append, toned_line h.ne_plain, if_neg h.ne_header, toned_flatMap,
    List.filterMap_eq_flatMap_toList]
  exact List.flatMap_congr fun e _ => toned_line h.ne_plain e.render e.tone

theorem Diff.toned_emissions {tone : Tone} (h : tone.OfChange) (d : Diff) :
    toned tone d.emissions = d.edits.filterMap (Edit.shownIn? tone) := by
  unfold Diff.emissions
  split
  · next hempty =>
    rw [Diff.edits, List.isEmpty_iff.mp hempty]
    rfl
  · rw [toned_append, toned_append, toned_line h.ne_plain, toned_line h.ne_plain,
      if_neg h.ne_label, if_neg h.ne_label, toned_flatMap, Diff.edits, List.filterMap_flatMap]
    exact List.flatMap_congr fun hunk _ => Hunk.toned_emissions h hunk

namespace Edit

def removedLine? : Edit → Option Text
  | drop l => some l
  | _ => none

def addedLine? : Edit → Option Text
  | insert l => some l
  | _ => none

theorem shownIn?_removed (e : Edit) : e.shownIn? .removed = e.removedLine?.map ('-' :: ·) := by
  cases e <;> rfl

theorem shownIn?_added (e : Edit) : e.shownIn? .added = e.addedLine?.map ('+' :: ·) := by
  cases e <;> rfl

end Edit

namespace Diff

def removedLines (d : Diff) : List Text := d.edits.filterMap Edit.removedLine?

def addedLines (d : Diff) : List Text := d.edits.filterMap Edit.addedLine?

theorem toned_removed_emissions (d : Diff) :
    toned .removed d.emissions = d.removedLines.map ('-' :: ·) := by
  rw [toned_emissions ⟨by decide, by decide, by decide⟩, removedLines, List.map_filterMap]
  exact List.filterMap_congr fun e _ => e.shownIn?_removed

theorem toned_added_emissions (d : Diff) :
    toned .added d.emissions = d.addedLines.map ('+' :: ·) := by
  rw [toned_emissions ⟨by decide, by decide, by decide⟩, addedLines, List.map_filterMap]
  exact List.filterMap_congr fun e _ => e.shownIn?_added

theorem length_removedLines (d : Diff) : d.removedLines.length = d.removedCount := by
  rw [removedLines, removedCount, List.length_filterMap_eq_countP]
  refine List.countP_congr fun e _ => ?_
  cases e <;> simp [Edit.removedLine?, Edit.isChange, Edit.inSource]

theorem length_addedLines (d : Diff) : d.addedLines.length = d.addedCount := by
  rw [addedLines, addedCount, List.length_filterMap_eq_countP]
  refine List.countP_congr fun e _ => ?_
  cases e <;> simp [Edit.addedLine?, Edit.isChange, Edit.inFormatted]

theorem emissions_eq_nil_iff (d : Diff) : d.emissions = [] ↔ d.hunks = [] := by
  unfold emissions isEmpty
  cases d.hunks with
  | nil => simp
  | cons hunk hunks => simp [Emission.line]

theorem render_eq_nil_iff (d : Diff) : d.render = [] ↔ d.hunks = [] := by
  constructor
  · intro hrender
    by_contra hne
    exact render_ne_nil hne hrender
  · intro hnil
    rw [render, isEmpty, hnil]
    rfl

/-- What a diff emits reads as its rendering in a buffer, whatever the buffer held before, and
without a hunk there is nothing of either. The emissions in the tones of changes are the lines
that the diff counts as removed and added, in order and behind their signs. -/
theorem streamed_as_rendered (d : Diff) :
    (∀ buffer, d.emissions.foldl collect buffer = buffer ++ d.render) ∧
      ((d.emissions = [] ↔ d.hunks = []) ∧ (d.render = [] ↔ d.hunks = [])) ∧
      (toned .removed d.emissions = d.removedLines.map ('-' :: ·) ∧
        (toned .removed d.emissions).length = d.removedCount) ∧
      (toned .added d.emissions = d.addedLines.map ('+' :: ·) ∧
        (toned .added d.emissions).length = d.addedCount) := by
  refine ⟨?_, ⟨d.emissions_eq_nil_iff, d.render_eq_nil_iff⟩, ⟨d.toned_removed_emissions, ?_⟩,
    d.toned_added_emissions, ?_⟩
  · intro buffer
    rw [foldl_collect, Diff.plainText_emissions]
  · rw [toned_removed_emissions, List.length_map, length_removedLines]
  · rw [toned_added_emissions, List.length_map, length_addedLines]

end Diff

end LayoutCheck
