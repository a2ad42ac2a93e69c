import LayoutCheck.Comparison
import LayoutCheck.Proofs.Diff.Grouping
import LayoutCheck.Proofs.Diff.Merge
import Mathlib

/-! # How much an alignment keeps

The cells of the table are lengths of longest common subsequences. The walk takes a longest one or
misses one line of it, and the merge keeps what was taken, except a lone empty line. So an alignment
keeps at most two lines too few, and all lines of two equal sides: a diff has no hunks exactly if
its texts have the same lines. -/

namespace LayoutCheck

namespace Alignment

def sharedLengths (old new : List Text) : Set Nat := {n | ∃ ls, Shared ls old new ∧ ls.length = n}

def longest : List Text → List Text → Nat
  | x :: xs, y :: ys =>
    if x = y then longest xs ys + 1 else max (longest (x :: xs) ys) (longest xs (y :: ys))
  | _, _ => 0
termination_by xs ys => xs.length + ys.length

@[simp] theorem longest_nil_left (ys : List Text) : longest [] ys = 0 := by
  rw [longest]
  simp

@[simp] theorem longest_nil_right (xs : List Text) : longest xs [] = 0 := by
  rw [longest]
  simp

theorem longest_cons (x y : Text) (xs ys : List Text) :
    longest (x :: xs) (y :: ys) =
      if x = y then longest xs ys + 1 else max (longest (x :: xs) ys) (longest xs (y :: ys)) := by
  rw [longest]

theorem Shared.tail {ls old new : List Text} (h : Shared ls old new) :
    Shared ls.tail old.tail new.tail :=
  ⟨h.inOld.tail, h.inNew.tail⟩

theorem exists_shared_length_eq_longest (old new : List Text) :
    ∃ ls, Shared ls old new ∧ ls.length = longest old new := by
  fun_induction longest old new with
  | case1 xs y ys ih =>
    obtain ⟨ls, h, hlen⟩ := ih
    exact ⟨y :: ls, ⟨h.inOld.cons_cons y, h.inNew.cons_cons y⟩, by rw [List.length_cons, hlen]⟩
  | case2 x xs y ys hxy ihl ihr =>
    obtain ⟨ls, hl, hlenl⟩ := ihl
    obtain ⟨ms, hr, hlenr⟩ := ihr
    rcases Nat.le_total (longest xs (y :: ys)) (longest (x :: xs) ys) with hle | hle
    · exact ⟨ls, ⟨hl.inOld, hl.inNew.cons y⟩, by rw [hlenl, Nat.max_eq_left hle]⟩
    · exact ⟨ms, ⟨hr.inOld.cons x, hr.inNew⟩, by rw [hlenr, Nat.max_eq_right hle]⟩
  | case3 => exact ⟨[], ⟨List.nil_sublist _, List.nil_sublist _⟩, rfl⟩

theorem length_le_longest {ls old new : List Text} (h : Shared ls old new) :
    ls.length ≤ longest old new := by
  fun_induction longest old new generalizing ls with
  | case1 xs y ys ih =>
    have htail := ih h.tail
    rw [List.length_tail] at htail
    omega
  | case2 x xs y ys hxy ihl ihr =>
    cases ls with
    | nil => exact Nat.zero_le _
    | cons l ls =>
      -- the first line of a common subsequence is not the head of both sides
      by_cases hl : l = x
      · have hly : l ≠ y := fun h => hxy (hl.symm.trans h)
        exact (ihl ⟨h.inOld, h.inNew.of_cons_of_ne hly⟩).trans (le_max_left _ _)
      · exact (ihr ⟨h.inOld.of_cons_of_ne hl, h.inNew⟩).trans (le_max_right _ _)
  | case3 old new hnone =>
    have hls : ls = [] := by
      cases old with
      | nil => exact List.sublist_nil.mp h.inOld
      | cons x xs =>
        cases new with
        | nil => exact List.sublist_nil.mp h.inNew
        | cons y ys => exact absurd rfl (hnone x xs y ys rfl)
    rw [hls]
    exact Nat.zero_le _

theorem isGreatest_longest (old new : List Text) :
    IsGreatest (sharedLengths old new) (longest old new) := by
  refine ⟨exists_shared_length_eq_longest old new, ?_⟩
  rintro n ⟨ls, h, rfl⟩
  exact length_le_longest h

theorem sharedLengths_reverse (old new : List Text) :
    sharedLengths old.reverse new.reverse = sharedLengths old new := by
  ext n
  constructor
  · rintro ⟨ls, h, rfl⟩
    refine ⟨ls.reverse, ⟨?_, ?_⟩, List.length_reverse⟩
    · simpa using h.inOld.reverse
    · simpa using h.inNew.reverse
  · rintro ⟨ls, h, rfl⟩
    exact ⟨ls.reverse, ⟨h.inOld.reverse, h.inNew.reverse⟩, List.length_reverse⟩

theorem longest_reverse (old new : List Text) :
    longest old.reverse new.reverse = longest old new := by
  have hback := isGreatest_longest old.reverse new.reverse
  rw [sharedLengths_reverse] at hback
  exact hback.unique (isGreatest_longest old new)

/-- The law of the table: lengths by the last lines of the two sides. -/
theorem longest_concat (x y : Text) (xs ys : List Text) :
    longest (xs ++ [x]) (ys ++ [y]) =
      if x = y then longest xs ys + 1
      else max (longest (xs ++ [x]) ys) (longest xs (ys ++ [y])) := by
  have hcons := longest_cons x y xs.reverse ys.reverse
  rwa [← List.reverse_concat, ← List.reverse_concat, longest_reverse, longest_reverse,
    longest_reverse, longest_reverse] at hcons

theorem longest_le_length_right (old new : List Text) : longest old new ≤ new.length := by
  obtain ⟨ls, h, hlen⟩ := exists_shared_length_eq_longest old new
  rw [← hlen]
  exact h.inNew.length_le

/-- The lengths for `xs` and `seen` with more and more lines of a third list. -/
def lengthsFrom (xs seen : List Text) : List Text → List Nat
  | [] => []
  | y :: ys => longest xs (seen ++ [y]) :: lengthsFrom xs (seen ++ [y]) ys

theorem nextRow_lengthsFrom (x : Text) (xs seen ys : List Text) :
    nextRow x ys (lengthsFrom xs seen ys) (longest xs seen) (longest (xs ++ [x]) seen) =
      lengthsFrom (xs ++ [x]) seen ys := by
  induction ys generalizing seen with
  | nil => rfl
  | cons y ys ih =>
    have hcell : (if x = y then longest xs seen + 1
        else max (longest (xs ++ [x]) seen) (longest xs (seen ++ [y]))) =
          longest (xs ++ [x]) (seen ++ [y]) := (longest_concat x y xs seen).symm
    simp only [lengthsFrom, nextRow, hcell, ih]

theorem lengthsFrom_nil (seen ys : List Text) : lengthsFrom [] seen ys = ys.map fun _ => 0 := by
  induction ys generalizing seen with
  | nil => rfl
  | cons y ys ih => rw [lengthsFrom, ih, longest_nil_left, List.map_cons]

theorem getElem?_rowsBelow {old : List Text} (new seen : List Text) {i : Nat}
    (hi : i < old.length) :
    (rowsBelow new old (lengthsFrom seen [] new))[i]? =
      some (lengthsFrom (seen ++ old.take (i + 1)) [] new) := by
  induction old generalizing seen i with
  | nil => simp at hi
  | cons x old ih =>
    have hrow := nextRow_lengthsFrom x seen [] new
    rw [longest_nil_right, longest_nil_right] at hrow
    rw [rowsBelow, hrow]
    cases i with
    | zero => simp
    | succ i =>
      rw [List.getElem?_cons_succ, ih (seen ++ [x]) (Nat.lt_of_succ_lt_succ hi)]
      simp

theorem getElem?_lengthsFrom (xs seen : List Text) {ys : List Text} {j : Nat}
    (hj : j < ys.length) :
    (lengthsFrom xs seen ys)[j]? = some (longest xs (seen ++ ys.take (j + 1))) := by
  induction ys generalizing seen j with
  | nil => simp at hj
  | cons y ys ih =>
    cases j with
    | zero => simp [lengthsFrom]
    | succ j =>
      rw [lengthsFrom, List.getElem?_cons_succ, ih (seen ++ [y]) (Nat.lt_of_succ_lt_succ hj)]
      simp

theorem cell_table {old new : List Text} {i j : Nat} (hi : i < old.length)
    (hj : j < new.length) :
    cell (table old new) i j = longest (old.take (i + 1)) (new.take (j + 1)) := by
  have hrow := getElem?_rowsBelow new [] hi
  rw [lengthsFrom_nil] at hrow
  have hcell := getElem?_lengthsFrom (old.take (i + 1)) [] hj
  simp only [cell, table, Array.getD_eq_getD_getElem?, List.getElem?_toArray, List.getElem?_map,
    hrow, Option.map_some, Option.getD_some, List.nil_append, hcell]

open Edit

theorem take_succ_eq_concat {ls : List Text} {i : Nat} (hi : i < ls.length) :
    ls.take (i + 1) = ls.take i ++ [ls.getD i []] := by
  rw [List.take_succ_eq_append_getElem hi, List.getD_eq_getElem?_getD,
    List.getElem?_eq_getElem hi, Option.getD_some]

section Corner

variable {old new : List Text} {i j : Nat} (hi : i < old.length) (hj : j < new.length)
include hi hj

theorem longest_corner_of_eq (h : old.getD i [] = new.getD j []) :
    longest (old.take (i + 1)) (new.take (j + 1)) = longest (old.take i) (new.take j) + 1 := by
  rw [take_succ_eq_concat hi, take_succ_eq_concat hj, longest_concat, if_pos h]

theorem longest_corner_of_ne (h : old.getD i [] ≠ new.getD j []) :
    longest (old.take (i + 1)) (new.take (j + 1)) =
      max (longest (old.take (i + 1)) (new.take j)) (longest (old.take i) (new.take (j + 1))) := by
  rw [take_succ_eq_concat hi, take_succ_eq_concat hj, longest_concat, if_neg h]

theorem cellBefore_table :
    cellBefore (table old new) new.length i (j + 1) =
      longest (old.take (i + 1)) (new.take (j + 1)) :=
  cell_table hi hj

end Corner

theorem longest_le_of_left {old new : List Text} {i j : Nat} (hi : i < old.length)
    (hj : j + 1 < new.length) (hne : old.getD i [] ≠ new.getD (j + 1) [])
    (hleft : i = 0 ∨ cellBefore (table old new) new.length i (j + 1) >
      cell (table old new) (i - 1) (j + 1)) :
    longest (old.take (i + 1)) (new.take (j + 1 + 1)) ≤
      longest (old.take (i + 1)) (new.take (j + 1)) := by
  rw [longest_corner_of_ne hi hj hne]
  cases i with
  | zero => simp
  | succ i =>
    rcases hleft with hleft | hleft
    · cases hleft
    · rw [cellBefore_table hi (Nat.lt_of_succ_lt hj), Nat.add_sub_cancel,
        cell_table (Nat.lt_of_succ_lt hi) hj] at hleft
      omega

theorem longest_le_of_up {old new : List Text} {i j : Nat} (hi : i < old.length)
    (hj : j < new.length) (hne : old.getD i [] ≠ new.getD j [])
    (hup : ¬ (i = 0 ∨ cellBefore (table old new) new.length i j >
      cell (table old new) (i - 1) j)) :
    longest (old.take (i + 1)) (new.take (j + 1)) ≤
      longest (old.take i) (new.take (j + 1)) := by
  rw [longest_corner_of_ne hi hj hne]
  obtain ⟨hzero, hcells⟩ := not_or.mp hup
  cases i with
  | zero => exact absurd rfl hzero
  | succ i =>
    cases j with
    | zero => simp
    | succ j =>
      rw [cellBefore_table hi (Nat.lt_of_succ_lt hj), Nat.add_sub_cancel,
        cell_table (Nat.lt_of_succ_lt hi) hj] at hcells
      omega

/-- What the walk has taken and what it can still take never falls short by more than the one
line that a wrong step out of the first column costs. -/
theorem length_add_longest_le_walk (old new : List Text) (i j : Nat) (taken : List Text)
    (hi : i ≤ old.length) (hj : j ≤ new.length) :
    taken.length + longest (old.take i) (new.take j) ≤
      (walk (table old new) old.toArray new.toArray i j taken).length + 1 := by
  fun_induction walk (table old new) old.toArray new.toArray i j taken with
  | case1 i j taken x hx ih =>
    change taken.length + longest (old.take (i + 1)) (new.take (j + 1)) ≤ _
    have htake := ih (Nat.le_of_succ_le hi) (Nat.le_of_succ_le hj)
    have heq : old.getD i [] = new.getD j [] := by simpa [x] using hx
    rw [longest_corner_of_eq hi hj heq]
    rw [List.length_cons] at htake
    omega
  | case2 i j taken x hx hc ih =>
    change taken.length + longest (old.take (i + 1)) (new.take (j + 1)) ≤ _
    have hleft := ih hi (Nat.le_of_succ_le hj)
    have hne : old.getD i [] ≠ new.getD j [] := by simpa [x] using hx
    cases j with
    | zero =>
      -- the walk ends here, with one line of the formatted text unseen
      have hone := longest_le_length_right (old.take (i + 1)) (new.take (0 + 1))
      have hend : (walk (table old new) old.toArray new.toArray (i + 1) 0 taken) = taken := by
        simp [walk]
      rw [List.length_take] at hone
      rw [hend]
      omega
    | succ j =>
      have hlost := longest_le_of_left hi hj hne hc
      omega
  | case3 i j taken x hx hc ih =>
    change taken.length + longest (old.take (i + 1)) (new.take (j + 1)) ≤ _
    have hup := ih (Nat.le_of_succ_le hi) hj
    have hne : old.getD i [] ≠ new.getD j [] := by simpa [x] using hx
    have hlost := longest_le_of_up hi hj hne hc
    omega
  | case4 i j taken hnone =>
    have hzero : longest (old.take i) (new.take j) = 0 := by
      cases i with
      | zero => simp
      | succ i =>
        cases j with
        | zero => simp
        | succ j => exact absurd rfl (hnone i j rfl)
    omega

theorem longest_le_length_commonLines (old new : List Text) :
    longest old new ≤ (commonLines old new).length + 1 := by
  have hwalk := length_add_longest_le_walk old new old.length new.length [] le_rfl le_rfl
  simpa [commonLines] using hwalk

/-- The lines kept are those that the walk took, if they survive the joined texts. -/
theorem ofLines_kept (old new : List Text) :
    keptLines (ofLines old new) = rejoined (commonLines old new) := by
  have hc := commonLines_shared old new
  by_cases he : old = [] ∨ new = []
  · have hnone : commonLines old new = [] := by
      rcases he with rfl | rfl
      · exact List.sublist_nil.mp hc.inOld
      · exact List.sublist_nil.mp hc.inNew
    rw [ofLines, if_pos he, hnone, keptLines_append, keptLines_map_drop, keptLines_map_insert]
    rfl
  · rw [ofLines, if_neg he]
    exact Pending.merge_kept ⟨rejoined_sublist hc.inOld, rejoined_sublist hc.inNew⟩

theorem length_rejoined (ls : List Text) :
    (rejoined ls).length = if ls = [[]] then 0 else ls.length := by
  unfold rejoined
  split <;> rfl

end Alignment

open LayoutCheck.Alignment

def keptCount (source formatted : Text) : Nat := (align source formatted).countP (!·.isChange)

theorem keptCount_eq (source formatted : Text) :
    keptCount source formatted =
      if commonLines source.lines formatted.lines = [[]] then 0
      else (commonLines source.lines formatted.lines).length := by
  rw [keptCount, Edit.countP_not_isChange, align, ofLines_kept, length_rejoined]

/-- An alignment keeps at most two lines fewer than a longest common subsequence has: the walk
may miss one line, and a lone empty line that it took is not kept. Both happen, and together. -/
theorem alignment_nearly_minimal :
    (∀ source formatted : Text,
      ∃ best, IsGreatest (sharedLengths source.lines formatted.lines) best ∧
        let taken := commonLines source.lines formatted.lines
        let kept := keptCount source formatted
        (kept ≤ best ∧ best - kept ≤ 2) ∧
          Shared taken source.lines formatted.lines ∧
          (taken.length = best ∨ taken.length + 1 = best) ∧
          kept = if taken = [[]] then 0 else taken.length) ∧
      (∃ source formatted : Text,
        IsGreatest (sharedLengths source.lines formatted.lines)
          (keptCount source formatted + 1)) ∧
      ∃ source formatted : Text,
        IsGreatest (sharedLengths source.lines formatted.lines)
          (keptCount source formatted + 2) := by
  have hgreatest (source formatted : Text) {best : Nat}
      (h : longest source.lines formatted.lines = best) :
      IsGreatest (sharedLengths source.lines formatted.lines) best :=
    h ▸ isGreatest_longest _ _
  refine ⟨?_, ?_, ?_⟩
  · intro source formatted
    refine ⟨_, hgreatest source formatted rfl, ?_⟩
    intro taken kept
    have hshared : Shared taken source.lines formatted.lines := commonLines_shared _ _
    have hle : taken.length ≤ longest source.lines formatted.lines := length_le_longest hshared
    have hmiss : longest source.lines formatted.lines ≤ taken.length + 1 :=
      longest_le_length_commonLines _ _
    have hkept : kept = if taken = [[]] then 0 else taken.length := keptCount_eq source formatted
    refine ⟨?_, hshared, by omega, hkept⟩
    by_cases hblank : taken = [[]]
    · rw [if_pos hblank] at hkept
      have hone : taken.length = 1 := congrArg List.length hblank
      omega
    · rw [if_neg hblank] at hkept
      omega
  · exact ⟨"a\nb\nc\nb".toList, "a\nb".toList, hgreatest _ _ (by cbv)⟩
  · exact ⟨"a\n\nc\n\n".toList, "a\n\n".toList, hgreatest _ _ (by cbv)⟩

open Edit

namespace Edit

theorem length_sides (es : List Edit) :
    (sourceLines es).length + (formattedLines es).length =
      2 * (keptLines es).length + es.countP isChange := by
  rw [← countP_inSource, ← countP_inFormatted, ← countP_not_isChange]
  induction es with
  | nil => rfl
  | cons e es ih =>
    have he : (if e.inSource = true then 1 else 0) + (if e.inFormatted = true then 1 else 0) =
        2 * (if (!e.isChange) = true then 1 else 0) + if e.isChange = true then 1 else 0 := by
      cases e <;> rfl
    simp only [List.countP_cons]
    omega

theorem sides_eq_of_unchanged {es : List Edit} (h : ∀ e ∈ es, e.isChange = false) :
    sourceLines es = formattedLines es := by
  obtain ⟨ls, rfl⟩ := eq_map_keep h
  rw [sourceLines_map_keep, formattedLines_map_keep]

end Edit

namespace Hunk

theorem group_eq_nil_iff (context : Nat) (edits : List Edit) :
    group context edits = [] ↔ ∀ e ∈ edits, e.isChange = false := by
  constructor
  · intro h
    have hgrouped := group_grouped context edits
    rw [h] at hgrouped
    cases hgrouped with
    | done _ hkept => exact hkept
  · intro h
    have hlead : edits.dropWhile (!isChange ·) = [] :=
      List.dropWhile_eq_nil_iff.mpr fun e he => by simp [h e he]
    rw [group, groupFrom]
    split
    · rfl
    · next hrest => simp [hlead] at hrest

end Hunk

namespace Alignment

theorem walk_self (t : Table) (ls : List Text) (i : Nat) (taken : List Text) (hi : i ≤ ls.length) :
    walk t ls.toArray ls.toArray i i taken = ls.take i ++ taken := by
  induction i generalizing taken with
  | zero => simp [walk]
  | succ i ih =>
    rw [walk, if_pos rfl, ih _ (Nat.le_of_succ_le hi), take_succ_eq_concat hi]
    simp

theorem commonLines_self (ls : List Text) : commonLines ls ls = ls := by
  rw [commonLines, walk_self _ _ _ _ le_rfl, List.take_length, List.append_nil]

theorem rejoined_inj {old new : List Text} (ho : old ≠ []) (hn : new ≠ [])
    (h : rejoined old = rejoined new) : old = new := by
  unfold rejoined at h
  split at h
  · next hold =>
    split at h
    · next hnew => rw [hold, hnew]
    · exact absurd h.symm hn
  · split at h
    · exact absurd h ho
    · exact h

theorem ofLines_self_unchanged (ls : List Text) : ∀ e ∈ ofLines ls ls, e.isChange = false := by
  by_cases he : ls = []
  · subst he
    intro e h
    cases h
  · obtain ⟨hs, hf⟩ := ofLines_sides he he
    have hkept := ofLines_kept ls ls
    have hlength := length_sides (ofLines ls ls)
    rw [hs, hf, hkept, commonLines_self] at hlength
    have hnone : (ofLines ls ls).countP isChange = 0 := by omega
    intro e h
    simpa using List.countP_eq_zero.mp hnone e h

theorem ofLines_unchanged_iff (old new : List Text) :
    (∀ e ∈ ofLines old new, e.isChange = false) ↔ old = new := by
  constructor
  · intro h
    have hsides := sides_eq_of_unchanged h
    by_cases he : old = [] ∨ new = []
    · obtain ⟨hs, hf⟩ := ofLines_sides_of_empty he
      rwa [hs, hf] at hsides
    · obtain ⟨ho, hn⟩ := not_or.mp he
      obtain ⟨hs, hf⟩ := ofLines_sides ho hn
      rw [hs, hf] at hsides
      exact rejoined_inj ho hn hsides
  · rintro rfl
    exact ofLines_self_unchanged old

end Alignment

/-- A diff shows nothing exactly if the two texts are the same line by line. -/
theorem unified_hunks_eq_nil_iff (source formatted : Text) :
    (Diff.unified source formatted).hunks = [] ↔ source.lines = formatted.lines :=
  (Hunk.group_eq_nil_iff Diff.contextLines (align source formatted)).trans
    (Alignment.ofLines_unchanged_iff source.lines formatted.lines)

example : (Diff.unified "a\r\nb".toList "a\nb\n".toList).isEmpty = true ∧
    (Diff.unified [] ['\n']).isEmpty = false := by cbv

end LayoutCheck
