import LayoutCheck.Comparison
import LayoutCheck.Proofs.Canonical.PerLine
import LayoutCheck.Proofs.Diff.Grouping
import LayoutCheck.Proofs.Diff.Merge

/-! # Verdicts

Canonical forms decide and raw lines explain. What a diff leaves out is the same on both sides or
has an empty form, so a divergence always shows in one of the hunks. No comment reaches over a
newline, so a block of lines counts by its own form alone; swapping two blocks goes unnoticed only
when both forms repeat one word. -/

namespace LayoutCheck

open Text Edit LayoutCheck.Alignment

namespace Hunk

def sourceText (h : Hunk) : Text := joinWith ['\n'] (sourceLines h.edits)

def formattedText (h : Hunk) : Text := joinWith ['\n'] (formattedLines h.edits)

theorem equivalent_sides_iff (h : Hunk) :
    Equivalent h.sourceText h.formattedText ↔
      (sourceLines h.edits).flatMap canonicalize =
        (formattedLines h.edits).flatMap canonicalize := by
  rw [Equivalent, sourceText, formattedText, canonicalize_joinWith_newline,
    canonicalize_joinWith_newline]

theorem Covers.equivalent_sides {o f : Nat} {edits : List Edit} {hunks : List Hunk}
    (hc : Covers o f edits hunks)
    (he : ∀ h ∈ hunks, Equivalent h.sourceText h.formattedText) :
    (sourceLines edits).flatMap canonicalize = (formattedLines edits).flatMap canonicalize := by
  induction hc with
  | done o f kept => simp
  | @hunk o f kept body left hunks _ ih =>
    have hbody := (equivalent_sides_iff _).mp (he _ List.mem_cons_self)
    have hleft := ih fun h hm => he h (List.mem_cons_of_mem _ hm)
    rw [ofEdits_edits] at hbody
    simp [hbody, hleft]

end Hunk

theorem flatMap_canonicalize_rejoined (ls : List Text) :
    (rejoined ls).flatMap canonicalize = ls.flatMap canonicalize := by
  unfold rejoined
  split
  · next h =>
    rw [h]
    rfl
  · rfl

theorem flatMap_canonicalize_align (source formatted : Text) :
    (sourceLines (align source formatted)).flatMap canonicalize = canonicalize source ∧
      (formattedLines (align source formatted)).flatMap canonicalize =
        canonicalize formatted := by
  rw [canonicalize_eq_flatMap_lines source, canonicalize_eq_flatMap_lines formatted, align]
  by_cases he : source.lines = [] ∨ formatted.lines = []
  · obtain ⟨hs, hf⟩ := ofLines_sides_of_empty he
    rw [hs, hf]
    exact ⟨rfl, rfl⟩
  · obtain ⟨ho, hn⟩ := not_or.mp he
    obtain ⟨hs, hf⟩ := ofLines_sides ho hn
    rw [hs, hf]
    exact ⟨flatMap_canonicalize_rejoined _, flatMap_canonicalize_rejoined _⟩

theorem exists_divergent_hunk {source formatted : Text} (hne : ¬ Equivalent source formatted) :
    ∃ h ∈ (Diff.unified source formatted).hunks,
      ¬ Equivalent h.sourceText h.formattedText := by
  by_contra hnone
  push Not at hnone
  have hc : Hunk.Covers 0 0 (align source formatted) (Diff.unified source formatted).hunks :=
    Hunk.group_covers Diff.contextLines (align source formatted)
  obtain ⟨hs, hf⟩ := flatMap_canonicalize_align source formatted
  exact hne (hs.symm.trans ((hc.equivalent_sides hnone).trans hf))

/-- A divergent verdict shows a hunk whose own sides diverge. -/
theorem divergence_shows_in_hunk {source formatted : Text} {why : Divergence}
    (hv : evaluate source formatted = .divergent why) :
    why.diff.isEmpty = false ∧
      ∃ h ∈ why.diff.hunks, canonicalize h.sourceText ≠ canonicalize h.formattedText := by
  unfold evaluate at hv
  split at hv
  · exact Verdict.noConfusion hv
  · next hne =>
    obtain rfl := Verdict.divergent.inj hv
    obtain ⟨h, hm, hd⟩ := exists_divergent_hunk hne
    refine ⟨?_, h, hm, hd⟩
    rw [Diff.isEmpty, List.isEmpty_eq_false_iff]
    exact List.ne_nil_of_mem hm

/-- The alignment loses the empty line, and the diff still shows the name. -/
theorem divergence_shows_in_hunk_lone_blank :
    evaluate "\n".toList "b".toList =
        .divergent ⟨Diff.unified "\n".toList "b".toList, [], "b".toList⟩ ∧
      (Diff.unified "\n".toList "b".toList).isEmpty = false ∧
        ∃ h ∈ (Diff.unified "\n".toList "b".toList).hunks,
          canonicalize h.sourceText ≠ canonicalize h.formattedText := by
  have hv : evaluate "\n".toList "b".toList =
      .divergent ⟨Diff.unified "\n".toList "b".toList, [], "b".toList⟩ :=
    if_neg (by decide)
  exact ⟨hv, divergence_shows_in_hunk hv⟩

def Text.repeated (n : Nat) (w : Text) : Text := (List.replicate n w).flatten

namespace Text

theorem repeated_one (w : Text) : repeated 1 w = w := List.append_nil w

theorem repeated_add (m n : Nat) (w : Text) :
    repeated (m + n) w = repeated m w ++ repeated n w := by
  rw [repeated, ← List.replicate_append_replicate, List.flatten_append]
  rfl

/-- Words that commute repeat a common word. The longer one starts with the shorter, and what
is left of it commutes with the shorter again. -/
theorem exists_repeated_of_comm {u v : Text} (h : u ++ v = v ++ u) :
    ∃ w m n, u = repeated m w ∧ v = repeated n w := by
  induction hlen : u.length + v.length using Nat.strong_induction_on generalizing u v with
  | h k ih =>
    by_cases hu : u = []
    · exact ⟨v, 0, 1, hu, (repeated_one v).symm⟩
    by_cases hv : v = []
    · exact ⟨u, 1, 0, (repeated_one u).symm, hv⟩
    have hulen := List.length_pos_iff.mpr hu
    have hvlen := List.length_pos_iff.mpr hv
    rcases List.append_eq_append_iff.mp h with ⟨r, hur, hru⟩ | ⟨r, hvr, hrv⟩
    · have hr : v.length = u.length + r.length := by rw [hur, List.length_append]
      obtain ⟨w, m, n, hm, hn⟩ := ih (u.length + r.length) (by omega) (hur.symm.trans hru) rfl
      exact ⟨w, m, m + n, hm, by rw [repeated_add, ← hm, ← hn, hur]⟩
    · have hr : u.length = v.length + r.length := by rw [hvr, List.length_append]
      obtain ⟨w, m, n, hm, hn⟩ := ih (v.length + r.length) (by omega) (hvr.symm.trans hrv) rfl
      exact ⟨w, m + n, m, by rw [repeated_add, ← hm, ← hn, hvr], hm⟩

theorem comm_iff_exists_repeated (u v : Text) :
    u ++ v = v ++ u ↔ ∃ w m n, u = repeated m w ∧ v = repeated n w := by
  constructor
  · exact exists_repeated_of_comm
  · rintro ⟨w, m, n, rfl, rfl⟩
    rw [← repeated_add, Nat.add_comm, repeated_add]

end Text

open Text

theorem isEquivalent_evaluate_iff (source formatted : Text) :
    (evaluate source formatted).isEquivalent = true ↔ Equivalent source formatted := by
  unfold evaluate
  split
  · next h => exact iff_of_true rfl h
  · next h => exact iff_of_false Bool.false_ne_true h

theorem canonicalize_between (a x b : Text) :
    canonicalize (a ++ '\n' :: x ++ '\n' :: b) =
      canonicalize a ++ canonicalize x ++ canonicalize b := by
  rw [canonicalize_append_newline, canonicalize_append_newline]

theorem equivalent_between_iff (a b x y : Text) :
    Equivalent (a ++ '\n' :: x ++ '\n' :: b) (a ++ '\n' :: y ++ '\n' :: b) ↔ Equivalent x y := by
  rw [Equivalent, canonicalize_between, canonicalize_between, List.append_cancel_right_eq,
    List.append_cancel_left_eq, Equivalent]

/-- A block of lines put for another is noticed exactly when their forms differ. A block that is
emptied, or dropped with its newline, is missed exactly when its form is empty. -/
theorem equivalent_replace_block_iff (a b x y : Text) :
    (Equivalent (a ++ '\n' :: x ++ '\n' :: b) (a ++ '\n' :: y ++ '\n' :: b) ↔
        Equivalent x y) ∧
      ((evaluate (a ++ '\n' :: x ++ '\n' :: b) (a ++ ['\n'] ++ '\n' :: b)).isEquivalent = true ↔
        canonicalize x = []) ∧
      ((evaluate (a ++ '\n' :: x ++ '\n' :: b) (a ++ '\n' :: b)).isEquivalent = true ↔
        canonicalize x = []) := by
  refine ⟨equivalent_between_iff a b x y, ?_, ?_⟩
  · rw [isEquivalent_evaluate_iff]
    exact equivalent_between_iff a b x []
  · rw [isEquivalent_evaluate_iff, Equivalent, canonicalize_between, canonicalize_append_newline,
      List.append_cancel_right_eq, List.append_right_eq_self]

/-- Swapped blocks are equivalent exactly when their forms repeat one word. -/
theorem equivalent_swap_blocks_iff (a b : Text) :
    (Equivalent (a ++ '\n' :: b) (b ++ '\n' :: a) ↔
        ∃ w m n, canonicalize a = repeated m w ∧ canonicalize b = repeated n w) ∧
      ((evaluate (a ++ '\n' :: b) (b ++ '\n' :: a)).isEquivalent = false ↔
        ¬ ∃ w m n, canonicalize a = repeated m w ∧ canonicalize b = repeated n w) := by
  have hswap : Equivalent (a ++ '\n' :: b) (b ++ '\n' :: a) ↔
      ∃ w m n, canonicalize a = repeated m w ∧ canonicalize b = repeated n w := by
    rw [Equivalent, canonicalize_append_newline, canonicalize_append_newline,
      comm_iff_exists_repeated]
  exact ⟨hswap, by rw [← hswap, ← isEquivalent_evaluate_iff, Bool.not_eq_true]⟩

end LayoutCheck
