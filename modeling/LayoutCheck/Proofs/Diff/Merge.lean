import LayoutCheck.Comparison
import LayoutCheck.Proofs.Text.Lines
import Mathlib

/-! # The merge

The walk takes lines that both sides have in that order. A merge along such lines uses up both
sides, so its edits hold every line of either side exactly once, in order. It is never stuck: the
common lines stay in wait on both sides, so each round finds a line to take. Behind a round both
sides wait for the same line, which is why no dropped line follows an inserted one. -/

namespace LayoutCheck

namespace Edit

def sourceLines (es : List Edit) : List Text := (es.filter inSource).map line

def formattedLines (es : List Edit) : List Text := (es.filter inFormatted).map line

def keptLines (es : List Edit) : List Text := (es.filter (!·.isChange)).map line

def reverse : Edit → Edit
  | keep l => keep l
  | drop l => insert l
  | insert l => drop l

@[simp] theorem sourceLines_nil : sourceLines [] = [] := rfl
@[simp] theorem formattedLines_nil : formattedLines [] = [] := rfl

@[simp] theorem sourceLines_keep (l : Text) (es : List Edit) :
    sourceLines (keep l :: es) = l :: sourceLines es := rfl
@[simp] theorem sourceLines_drop (l : Text) (es : List Edit) :
    sourceLines (drop l :: es) = l :: sourceLines es := rfl
@[simp] theorem sourceLines_insert (l : Text) (es : List Edit) :
    sourceLines (insert l :: es) = sourceLines es := rfl
@[simp] theorem formattedLines_keep (l : Text) (es : List Edit) :
    formattedLines (keep l :: es) = l :: formattedLines es := rfl
@[simp] theorem formattedLines_drop (l : Text) (es : List Edit) :
    formattedLines (drop l :: es) = formattedLines es := rfl
@[simp] theorem formattedLines_insert (l : Text) (es : List Edit) :
    formattedLines (insert l :: es) = l :: formattedLines es := rfl

@[simp] theorem sourceLines_append (es fs : List Edit) :
    sourceLines (es ++ fs) = sourceLines es ++ sourceLines fs := by
  simp [sourceLines]

@[simp] theorem formattedLines_append (es fs : List Edit) :
    formattedLines (es ++ fs) = formattedLines es ++ formattedLines fs := by
  simp [formattedLines]

theorem map_line_filter_map {make : Text → Edit} {side : Edit → Bool}
    (hline : ∀ l, (make l).line = l) (hside : ∀ l, side (make l) = true) (ls : List Text) :
    ((ls.map make).filter side).map line = ls := by
  rw [List.filter_eq_self.mpr (List.forall_mem_map.mpr fun l _ => hside l), List.map_map]
  exact (List.map_congr_left fun l _ => hline l).trans ls.map_id

theorem filter_map_eq_nil {make : Text → Edit} {side : Edit → Bool}
    (hside : ∀ l, side (make l) = false) (ls : List Text) : (ls.map make).filter side = [] :=
  List.filter_eq_nil_iff.mpr (List.forall_mem_map.mpr fun l _ => by rw [hside l]; decide)

@[simp] theorem sourceLines_map_keep (ls : List Text) : sourceLines (ls.map keep) = ls :=
  map_line_filter_map (fun _ => rfl) (fun _ => rfl) ls

@[simp] theorem formattedLines_map_keep (ls : List Text) : formattedLines (ls.map keep) = ls :=
  map_line_filter_map (fun _ => rfl) (fun _ => rfl) ls

@[simp] theorem sourceLines_map_drop (ls : List Text) : sourceLines (ls.map drop) = ls :=
  map_line_filter_map (fun _ => rfl) (fun _ => rfl) ls

@[simp] theorem formattedLines_map_drop (ls : List Text) : formattedLines (ls.map drop) = [] :=
  congrArg (List.map line) (filter_map_eq_nil (fun _ => rfl) ls)

@[simp] theorem sourceLines_map_insert (ls : List Text) : sourceLines (ls.map insert) = [] :=
  congrArg (List.map line) (filter_map_eq_nil (fun _ => rfl) ls)

@[simp] theorem formattedLines_map_insert (ls : List Text) :
    formattedLines (ls.map insert) = ls :=
  map_line_filter_map (fun _ => rfl) (fun _ => rfl) ls

theorem countP_inSource (es : List Edit) : es.countP inSource = (sourceLines es).length := by
  rw [sourceLines, List.length_map, List.countP_eq_length_filter]

theorem countP_inFormatted (es : List Edit) :
    es.countP inFormatted = (formattedLines es).length := by
  rw [formattedLines, List.length_map, List.countP_eq_length_filter]

@[simp] theorem keptLines_append (es fs : List Edit) :
    keptLines (es ++ fs) = keptLines es ++ keptLines fs := by
  simp [keptLines]

@[simp] theorem keptLines_map_keep (ls : List Text) : keptLines (ls.map keep) = ls :=
  map_line_filter_map (fun _ => rfl) (fun _ => rfl) ls

@[simp] theorem keptLines_map_drop (ls : List Text) : keptLines (ls.map drop) = [] :=
  congrArg (List.map line) (filter_map_eq_nil (fun _ => rfl) ls)

@[simp] theorem keptLines_map_insert (ls : List Text) : keptLines (ls.map insert) = [] :=
  congrArg (List.map line) (filter_map_eq_nil (fun _ => rfl) ls)

theorem countP_not_isChange (es : List Edit) :
    es.countP (!·.isChange) = (keptLines es).length := by
  rw [keptLines, List.length_map, List.countP_eq_length_filter]

theorem eq_map_keep {es : List Edit} (h : ∀ e ∈ es, e.isChange = false) :
    ∃ ls : List Text, es = ls.map keep := by
  induction es with
  | nil => exact ⟨[], rfl⟩
  | cons e es ih =>
    obtain ⟨ls, rfl⟩ := ih fun e he => h e (List.mem_cons_of_mem _ he)
    cases e with
    | keep l => exact ⟨l :: ls, rfl⟩
    | drop l => exact absurd (h _ List.mem_cons_self) (by simp [isChange])
    | insert l => exact absurd (h _ List.mem_cons_self) (by simp [isChange])

theorem sourceLines_reverse (es : List Edit) :
    sourceLines (es.map reverse) = formattedLines es := by
  induction es with
  | nil => rfl
  | cons e es ih =>
    cases e <;> simp [reverse, ih]

theorem formattedLines_reverse (es : List Edit) :
    formattedLines (es.map reverse) = sourceLines es := by
  induction es with
  | nil => rfl
  | cons e es ih =>
    cases e <;> simp [reverse, ih]

end Edit

namespace Alignment

open Edit

/-- `ls` is a common subsequence of the two sides. -/
structure Shared (ls old new : List Text) : Prop where
  inOld : ls.Sublist old
  inNew : ls.Sublist new

theorem drop_eq_getD_cons {a : Array Text} {i : Nat} (h : i < a.size) :
    a.toList.drop i = a.getD i [] :: a.toList.drop (i + 1) := by
  rw [List.drop_eq_getElem_cons (by simpa using h)]
  simp [Array.getD, h]

theorem walk_shared (t : Table) (old new : Array Text) (i j : Nat) (taken : List Text)
    (hi : i ≤ old.size) (hj : j ≤ new.size)
    (h : Shared taken (old.toList.drop i) (new.toList.drop j)) :
    Shared (walk t old new i j taken) old.toList new.toList := by
  fun_induction walk t old new i j taken with
  | case1 taken i j x hx ih =>
    apply ih (by omega) (by omega)
    rw [drop_eq_getD_cons hi, drop_eq_getD_cons hj, ← hx]
    exact ⟨h.inOld.cons_cons x, h.inNew.cons_cons x⟩
  | case2 taken i j x hx hc ih =>
    apply ih hi (by omega)
    rw [drop_eq_getD_cons hj]
    exact ⟨h.inOld, h.inNew.cons _⟩
  | case3 taken i j x hx hc ih =>
    apply ih (by omega) hj
    rw [drop_eq_getD_cons hi]
    exact ⟨h.inOld.cons _, h.inNew⟩
  | case4 =>
    exact ⟨h.inOld.trans (List.drop_sublist _ _), h.inNew.trans (List.drop_sublist _ _)⟩

theorem commonLines_shared (old new : List Text) : Shared (commonLines old new) old new := by
  apply walk_shared _ old.toArray new.toArray <;> simp
  exact ⟨List.nil_sublist _, List.nil_sublist _⟩

theorem rejoined_of_ne {ls : List Text} (h : ls ≠ [[]]) : rejoined ls = ls := if_neg h

theorem rejoined_sublist {ls side : List Text} (h : ls.Sublist side) :
    (rejoined ls).Sublist (rejoined side) := by
  unfold rejoined
  by_cases hl : ls = [[]]
  · rw [if_pos hl]
    exact List.nil_sublist _
  · rw [if_neg hl]
    by_cases hs : side = [[]]
    · rw [if_pos hs]
      rcases List.sublist_singleton.mp (hs ▸ h) with rfl | rfl
      · exact List.nil_sublist _
      · exact absurd rfl hl
    · rw [if_neg hs]
      exact h

namespace Pending

/-- The common lines still to come are lines of both sides still to come. -/
def Woven (p : Pending) : Prop := Shared p.common p.old p.new

theorem takeKept_spec (old new common : List Text) :
    ∃ kept, (takeKept old new common).1 = kept.map keep ∧
      old = kept ++ (takeKept old new common).2.old ∧
      new = kept ++ (takeKept old new common).2.new ∧
      common = kept ++ (takeKept old new common).2.common := by
  fun_induction takeKept old new common with
  | case1 x old y new z common h r ih =>
    obtain ⟨rfl, rfl⟩ := h
    obtain ⟨kept, hk, ho, hn, hc⟩ := ih
    refine ⟨x :: kept, ?_, ?_, ?_, ?_⟩
    · simp [r, hk]
    · rw [List.cons_append, ← ho]
    · rw [List.cons_append, ← hn]
    · rw [List.cons_append, ← hc]
  | case2 => exact ⟨[], rfl, rfl, rfl, rfl⟩
  | case3 => exact ⟨[], rfl, rfl, rfl, rfl⟩

theorem takeKept_stops (old new common : List Text) (l : Text) :
    ¬ ((takeKept old new common).2.old.head? = some l ∧
      (takeKept old new common).2.new.head? = some l ∧
      (takeKept old new common).2.common.head? = some l) := by
  fun_induction takeKept old new common with
  | case1 x old y new z common h r ih => exact ih
  | case2 x old y new z common h =>
    rintro ⟨hx, hy, hz⟩
    simp only [List.head?_cons, Option.some.injEq] at hx hy hz
    exact h ⟨hx.trans hy.symm, hy.trans hz.symm⟩
  | case3 old new common h =>
    rintro ⟨hx, hy, hz⟩
    obtain ⟨_, rfl⟩ := List.head?_eq_some_iff.mp hx
    obtain ⟨_, rfl⟩ := List.head?_eq_some_iff.mp hy
    obtain ⟨_, rfl⟩ := List.head?_eq_some_iff.mp hz
    exact h _ _ _ _ _ _ rfl rfl rfl

theorem round_sides (p : Pending) :
    sourceLines p.round.1 ++ p.round.2.old = p.old ∧
      formattedLines p.round.1 ++ p.round.2.new = p.new := by
  obtain ⟨kept, hk, ho, hn, -⟩ := takeKept_spec p.old p.new p.common
  constructor
  · calc sourceLines p.round.1 ++ p.round.2.old
        = kept ++ (takeKept p.old p.new p.common).2.old := by simp [round, hk]
      _ = p.old := ho.symm
  · calc formattedLines p.round.1 ++ p.round.2.new
        = kept ++ (takeKept p.old p.new p.common).2.new := by simp [round, hk]
      _ = p.new := hn.symm

theorem round_kept (p : Pending) : keptLines p.round.1 ++ p.round.2.common = p.common := by
  obtain ⟨kept, hk, -, -, hc⟩ := takeKept_spec p.old p.new p.common
  calc keptLines p.round.1 ++ p.round.2.common
      = kept ++ (takeKept p.old p.new p.common).2.common := by simp [round, hk]
    _ = p.common := hc.symm

theorem awaits_cons (z : Text) (common : List Text) (l : Text) :
    awaits (z :: common) l = true ↔ l ≠ z := by
  simp [awaits, ne_comm]

theorem sublist_dropWhile_awaits {common side : List Text} (h : common.Sublist side) :
    common.Sublist (side.dropWhile (awaits common)) := by
  cases common with
  | nil => exact List.nil_sublist _
  | cons z common =>
    induction side with
    | nil => exact h
    | cons l side ih =>
      by_cases hl : l = z
      · rw [List.dropWhile_cons_of_neg (by rw [awaits_cons]; exact not_not_intro hl)]
        exact h
      · rw [List.dropWhile_cons_of_pos ((awaits_cons z common l).mpr hl)]
        cases h with
        | cons _ h => exact ih h
        | cons_cons _ h => exact absurd rfl hl

theorem takeKept_woven {p : Pending} (h : p.Woven) :
    (takeKept p.old p.new p.common).2.Woven := by
  obtain ⟨kept, -, ho, hn, hc⟩ := takeKept_spec p.old p.new p.common
  constructor
  · apply (List.append_sublist_append_left kept).mp
    rw [← ho, ← hc]
    exact h.inOld
  · apply (List.append_sublist_append_left kept).mp
    rw [← hn, ← hc]
    exact h.inNew

theorem round_woven {p : Pending} (h : p.Woven) : p.round.2.Woven := by
  have hq := takeKept_woven h
  exact ⟨sublist_dropWhile_awaits hq.inOld, sublist_dropWhile_awaits hq.inNew⟩

theorem length_dropWhile_awaits_le (common side : List Text) :
    (side.dropWhile (awaits common)).length ≤ side.length :=
  (List.dropWhile_suffix _).length_le

theorem length_dropWhile_awaits_lt {common side : List Text} (h : common.Sublist side)
    (hne : side.head? ≠ common.head?) :
    (side.dropWhile (awaits common)).length < side.length := by
  cases side with
  | nil =>
    rw [List.sublist_nil] at h
    exact absurd (by rw [h]) hne
  | cons l side =>
    have hl : awaits common l = true := by
      simpa [awaits] using Ne.symm hne
    rw [List.dropWhile_cons_of_pos hl]
    exact Nat.lt_succ_of_le (length_dropWhile_awaits_le common side)

theorem round_progress {p : Pending} (h : p.Woven) (hp : p.size ≠ 0) :
    p.round.2.size < p.size := by
  obtain ⟨kept, -, ho, hn, -⟩ := takeKept_spec p.old p.new p.common
  have hq := takeKept_woven h
  have hstop := takeKept_stops p.old p.new p.common
  have hlo := congrArg List.length ho
  have hln := congrArg List.length hn
  generalize hr : (takeKept p.old p.new p.common).2 = q at *
  have hround : p.round.2.size = (q.old.dropWhile (awaits q.common)).length +
      (q.new.dropWhile (awaits q.common)).length := by
    simp [round, size, hr]
  have hdo := length_dropWhile_awaits_le q.common q.old
  have hdn := length_dropWhile_awaits_le q.common q.new
  simp only [List.length_append] at hlo hln
  rw [hround]
  unfold size at hp ⊢
  by_cases heo : q.old.head? = q.common.head?
  · by_cases hen : q.new.head? = q.common.head?
    · cases hc : q.common.head? with
      | none =>
        have hqo : q.old.length = 0 := by rw [List.head?_eq_none_iff.mp (heo.trans hc)]; rfl
        have hqn : q.new.length = 0 := by rw [List.head?_eq_none_iff.mp (hen.trans hc)]; rfl
        omega
      | some z => exact absurd ⟨heo.trans hc, hen.trans hc, hc⟩ (hstop z)
    · have := length_dropWhile_awaits_lt hq.inNew hen
      omega
  · have := length_dropWhile_awaits_lt hq.inOld heo
    omega

theorem Woven.eq_of_size_eq_zero {p : Pending} (h : p.Woven) (hp : p.size = 0) :
    p = ⟨[], [], []⟩ := by
  obtain ⟨old, new, common⟩ := p
  simp only [size] at hp
  obtain rfl : old = [] := List.eq_nil_of_length_eq_zero (by omega)
  obtain rfl : new = [] := List.eq_nil_of_length_eq_zero (by omega)
  obtain rfl : common = [] := List.sublist_nil.mp h.inOld
  rfl

theorem merge_sides {p : Pending} (h : p.Woven) :
    sourceLines p.merge = p.old ∧ formattedLines p.merge = p.new := by
  fun_induction merge p with
  | case1 p hp =>
    rw [h.eq_of_size_eq_zero hp]
    exact ⟨rfl, rfl⟩
  | case2 p hp r hr ih =>
    obtain ⟨hs, hf⟩ := ih (round_woven h)
    rw [sourceLines_append, formattedLines_append, hs, hf]
    exact round_sides p
  | case3 p hp r hr => exact absurd (round_progress h hp) hr

theorem merge_kept {p : Pending} (h : p.Woven) : keptLines p.merge = p.common := by
  fun_induction merge p with
  | case1 p hp =>
    rw [h.eq_of_size_eq_zero hp]
    rfl
  | case2 p hp r hr ih =>
    rw [keptLines_append, ih (round_woven h)]
    exact p.round_kept
  | case3 p hp r hr => exact absurd (round_progress h hp) hr

end Pending

theorem ofLines_sides_of_empty {old new : List Text} (h : old = [] ∨ new = []) :
    sourceLines (ofLines old new) = old ∧ formattedLines (ofLines old new) = new := by
  simp [ofLines, h]

theorem ofLines_sides {old new : List Text} (ho : old ≠ []) (hn : new ≠ []) :
    sourceLines (ofLines old new) = rejoined old ∧
      formattedLines (ofLines old new) = rejoined new := by
  rw [ofLines, if_neg (not_or.mpr ⟨ho, hn⟩)]
  have hc := commonLines_shared old new
  exact Pending.merge_sides ⟨rejoined_sublist hc.inOld, rejoined_sublist hc.inNew⟩

/-- One side is a single empty line, and the other has lines but is not that one. -/
def LoneBlank (old new : List Text) : Prop :=
  (old = [[]] ∧ new ≠ [[]] ∧ new ≠ []) ∨ (new = [[]] ∧ old ≠ [[]] ∧ old ≠ [])

/-- Apart from that case an alignment loses at most a line that ends both sides. -/
theorem ofLines_sides_of_not_loneBlank {old new : List Text} (h : ¬ LoneBlank old new) :
    ∃ tail, old = sourceLines (ofLines old new) ++ tail ∧
      new = formattedLines (ofLines old new) ++ tail := by
  by_cases he : old = [] ∨ new = []
  · obtain ⟨hs, hf⟩ := ofLines_sides_of_empty he
    exact ⟨[], by rw [hs, List.append_nil], by rw [hf, List.append_nil]⟩
  · obtain ⟨ho, hn⟩ := not_or.mp he
    obtain ⟨hs, hf⟩ := ofLines_sides ho hn
    rw [hs, hf]
    by_cases hob : old = [[]]
    · have hnb : new = [[]] := by
        by_contra hne
        exact h (Or.inl ⟨hob, hne, hn⟩)
      exact ⟨[[]], by rw [hob]; rfl, by rw [hnb]; rfl⟩
    · have hnb : new ≠ [[]] := fun he => h (Or.inr ⟨he, hob, ho⟩)
      rw [rejoined_of_ne hob, rejoined_of_ne hnb]
      exact ⟨[], (List.append_nil old).symm, (List.append_nil new).symm⟩

theorem ofLines_sides_of_loneBlank {old new : List Text} (h : LoneBlank old new) :
    ∃ tail, old = sourceLines (ofLines old new) ++ tail ∧
      new ≠ formattedLines (ofLines old new) ++ tail := by
  rcases h with ⟨rfl, hnb, hn⟩ | ⟨rfl, hob, ho⟩
  · obtain ⟨hs, hf⟩ := ofLines_sides (List.cons_ne_nil [] []) hn
    rw [hs, hf, rejoined_of_ne hnb]
    exact ⟨[[]], rfl, by simp⟩
  · obtain ⟨hs, hf⟩ := ofLines_sides ho (List.cons_ne_nil [] [])
    rw [hs, hf, rejoined_of_ne hob]
    exact ⟨[], (List.append_nil old).symm, by simp [rejoined]⟩

end Alignment

open Edit

/-- Among changes dropped lines come first: an inserted line has none right behind it. -/
def Edit.MayPrecede : Edit → Edit → Prop
  | insert _, drop _ => False
  | _, _ => True

namespace Edit

theorem mayPrecede_of_inSource {e : Edit} (h : e.inSource = true) (f : Edit) : MayPrecede e f := by
  cases e with
  | insert l => cases h
  | keep l => exact trivial
  | drop l => exact trivial

theorem mayPrecede_of_inFormatted {f : Edit} (h : f.inFormatted = true) (e : Edit) :
    MayPrecede e f := by
  cases f with
  | drop l => cases h
  | keep l => cases e <;> exact trivial
  | insert l => cases e <;> exact trivial

end Edit

namespace Alignment

def joined (ls : List Text) : Text := Text.joinWith ['\n'] ls

def cut (t : Text) : List Text := if t = [] then [] else t.splitOn '\n'

/-- The lines that a walk through two joined texts takes, joined. -/
def commonText (old new : Text) : Text :=
  joined (commonLines (old.splitOn '\n') (new.splitOn '\n'))

def Pending.ofTexts (source formatted : Text) : Pending where
  old := cut (joined source.lines)
  new := cut (joined formatted.lines)
  common := cut (commonText (joined source.lines) (joined formatted.lines))

theorem splitOn_joined {ls : List Text} (hne : ls ≠ []) (h : ∀ l ∈ ls, '\n' ∉ l) :
    (joined ls).splitOn '\n' = ls :=
  Text.splitOn_joinWith hne h

theorem cut_joined {ls : List Text} (h : ∀ l ∈ ls, '\n' ∉ l) : cut (joined ls) = rejoined ls := by
  by_cases hnil : ls = []
  · subst hnil
    rfl
  · have hblank : joined ls = [] ↔ ls = [[]] := by
      rw [joined, Text.joinWith_eq_nil_iff, or_iff_right hnil]
    rw [cut, splitOn_joined hnil h, rejoined]
    simp only [hblank]

section Texts

variable {source formatted : Text} (ho : source.lines ≠ []) (hn : formatted.lines ≠ [])
include ho hn

theorem Pending.ofTexts_eq :
    Pending.ofTexts source formatted = ⟨rejoined source.lines, rejoined formatted.lines,
      rejoined (commonLines source.lines formatted.lines)⟩ := by
  have hold : ∀ l ∈ source.lines, '\n' ∉ l := fun _ => Text.newline_not_mem_of_mem_lines
  have hnew : ∀ l ∈ formatted.lines, '\n' ∉ l := fun _ => Text.newline_not_mem_of_mem_lines
  have hcommon : ∀ l ∈ commonLines source.lines formatted.lines, '\n' ∉ l := fun l hl =>
    hold l ((commonLines_shared _ _).inOld.subset hl)
  have htaken : commonText (joined source.lines) (joined formatted.lines) =
      joined (commonLines source.lines formatted.lines) := by
    rw [commonText, splitOn_joined ho hold, splitOn_joined hn hnew]
  rw [ofTexts, htaken, cut_joined hold, cut_joined hnew, cut_joined hcommon]

theorem align_eq_merge : align source formatted = (Pending.ofTexts source formatted).merge := by
  rw [align, ofLines, if_neg (not_or.mpr ⟨ho, hn⟩), Pending.ofTexts_eq ho hn]

theorem Pending.ofTexts_woven : (Pending.ofTexts source formatted).Woven := by
  have hc := commonLines_shared source.lines formatted.lines
  rw [ofTexts_eq ho hn]
  exact ⟨rejoined_sublist hc.inOld, rejoined_sublist hc.inNew⟩

end Texts

namespace Pending

/-- Some rounds, with the edits that they make. A round is made only if either side has lines. -/
inductive Rounds : Pending → List Edit → Pending → Prop where
  | refl (p) : Rounds p [] p
  | round {p q es} : p.size ≠ 0 → Rounds p.round.2 es q → Rounds p (p.round.1 ++ es) q

theorem Rounds.woven {p q : Pending} {es : List Edit} (h : Rounds p es q) (hp : p.Woven) :
    q.Woven := by
  induction h with
  | refl p => exact hp
  | round _ _ ih => exact ih (round_woven hp)

theorem rounds_merge {p : Pending} (h : p.Woven) : Rounds p p.merge ⟨[], [], []⟩ := by
  fun_induction merge p with
  | case1 p hp =>
    rw [h.eq_of_size_eq_zero hp]
    exact .refl _
  | case2 p hp r hr ih => exact .round hp (ih (round_woven h))
  | case3 p hp r hr => exact absurd (round_progress h hp) hr

theorem round_isChain (p : Pending) : p.round.1.IsChain MayPrecede := by
  obtain ⟨kept, hk, -, -, -⟩ := takeKept_spec p.old p.new p.common
  simp only [round, hk]
  generalize (takeKept p.old p.new p.common).2 = q
  have hsource : ∀ e ∈ kept.map keep ++ (q.old.takeWhile (awaits q.common)).map drop,
      e.inSource = true :=
    List.forall_mem_append.mpr ⟨List.forall_mem_map.mpr fun _ _ => rfl,
      List.forall_mem_map.mpr fun _ _ => rfl⟩
  have hformatted : ∀ e ∈ (q.new.takeWhile (awaits q.common)).map insert, e.inFormatted = true :=
    List.forall_mem_map.mpr fun _ _ => rfl
  refine List.Pairwise.isChain (List.pairwise_append.mpr ⟨?_, ?_, ?_⟩)
  · exact List.pairwise_of_forall_mem_list fun e he f _ => mayPrecede_of_inSource (hsource e he) f
  · exact List.pairwise_of_forall_mem_list fun e _ f hf =>
      mayPrecede_of_inFormatted (hformatted f hf) e
  · exact fun e he f _ => mayPrecede_of_inSource (hsource e he) f

/-- Both sides wait for the next common line. -/
structure Poised (p : Pending) : Prop where
  old : p.old.head? = p.common.head?
  new : p.new.head? = p.common.head?

theorem head?_dropWhile_awaits {common side : List Text} (h : common.Sublist side) :
    (side.dropWhile (awaits common)).head? = common.head? := by
  have hrest := sublist_dropWhile_awaits h
  have hhead := List.head?_dropWhile_not (awaits common) side
  cases hd : (side.dropWhile (awaits common)).head? with
  | none =>
    rw [List.head?_eq_none_iff.mp hd, List.sublist_nil] at hrest
    rw [hrest]
    rfl
  | some l =>
    rw [hd] at hhead
    have hl : awaits common l = false := hhead
    have hnext : common.head? = some l := by simpa [awaits] using hl
    exact hnext.symm

theorem round_poised {p : Pending} (h : p.Woven) : p.round.2.Poised :=
  have hq := takeKept_woven h
  ⟨head?_dropWhile_awaits hq.inOld, head?_dropWhile_awaits hq.inNew⟩

theorem Poised.head?_round {p : Pending} (h : p.Poised) (hp : p.size ≠ 0) :
    ∃ l, p.round.1.head? = some (keep l) := by
  obtain ⟨old, new, common⟩ := p
  obtain ⟨hold, hnew⟩ := h
  cases common with
  | nil =>
    rw [List.head?_nil, List.head?_eq_none_iff] at hold hnew
    obtain rfl : old = [] := hold
    obtain rfl : new = [] := hnew
    exact absurd rfl hp
  | cons z common =>
    obtain ⟨old, rfl⟩ := List.head?_eq_some_iff.mp hold
    obtain ⟨new, rfl⟩ := List.head?_eq_some_iff.mp hnew
    exact ⟨z, by simp [round, takeKept]⟩

theorem Poised.head?_merge {p : Pending} (h : p.Poised) :
    ∀ e ∈ p.merge.head?, e.inFormatted = true := by
  intro e he
  by_cases hp : p.size = 0
  · rw [merge, if_pos hp] at he
    cases he
  · obtain ⟨l, hl⟩ := h.head?_round hp
    have hfirst : p.merge.head? = some (keep l) := by
      rw [merge, if_neg hp]
      dsimp only
      split
      · rw [List.head?_append, hl]
        rfl
      · exact hl
    obtain rfl : keep l = e := Option.some.inj (hfirst.symm.trans he)
    rfl

theorem merge_isChain {p : Pending} (h : p.Woven) : p.merge.IsChain MayPrecede := by
  fun_induction merge p with
  | case1 => exact List.isChain_nil
  | case2 p hp r hr ih =>
    refine List.isChain_append.mpr ⟨p.round_isChain, ih (round_woven h), ?_⟩
    -- what comes next was kept, so it may follow anything
    exact fun e _ f hf => mayPrecede_of_inFormatted ((round_poised h).head?_merge f hf) e
  | case3 p _ r _ => exact p.round_isChain

end Pending

/-- The merge of two texts with lines is never stuck. Before every round the common lines are lines
of both sides in that order, and a round takes a line from one of the sides as long as there is
one; so the rounds end, with nothing left, and have made the edits of the alignment. These keep all
common lines and never have a dropped line right behind an inserted one. -/
theorem merge_never_stuck {source formatted : Text} (ho : source.lines ≠ [])
    (hn : formatted.lines ≠ []) :
    let start := Pending.ofTexts source formatted
    (∀ es p, start.Rounds es p →
        Shared p.common p.old p.new ∧
          (p.size ≠ 0 →
            sourceLines p.round.1 ++ p.round.2.old = p.old ∧
              formattedLines p.round.1 ++ p.round.2.new = p.new ∧
              p.round.2.size < p.size)) ∧
      start.Rounds (align source formatted) ⟨[], [], []⟩ ∧
      keptLines (align source formatted) = start.common ∧
      (align source formatted).IsChain MayPrecede := by
  intro start
  have hwoven : start.Woven := Pending.ofTexts_woven ho hn
  rw [align_eq_merge ho hn]
  refine ⟨fun es p hrounds => ?_, Pending.rounds_merge hwoven, Pending.merge_kept hwoven,
    Pending.merge_isChain hwoven⟩
  have hp : p.Woven := hrounds.woven hwoven
  refine ⟨hp, fun hsize => ?_⟩
  obtain ⟨hold, hnew⟩ := p.round_sides
  exact ⟨hold, hnew, Pending.round_progress hp hsize⟩

theorem merge_never_stuck_two_rounds :
    let source : Text := "a\n\nb\nc\n".toList
    let formatted : Text := "x\n\nb\ny".toList
    let start := Pending.ofTexts source formatted
    let edits := [drop ['a'], insert ['x'], keep [], keep ['b'], drop ['c'], insert ['y']]
    source.lines ≠ [] ∧ formatted.lines ≠ [] ∧ align source formatted = edits ∧
      start.round.2.size < start.size ∧ start.Rounds edits ⟨[], [], []⟩ ∧
      start.common = [[], ['b']] ∧ edits.IsChain MayPrecede := by
  have hold : Text.lines "a\n\nb\nc\n".toList ≠ [] := by decide
  have hnew : Text.lines "x\n\nb\ny".toList ≠ [] := by decide
  have hedits : align "a\n\nb\nc\n".toList "x\n\nb\ny".toList =
      [drop ['a'], insert ['x'], keep [], keep ['b'], drop ['c'], insert ['y']] := by cbv
  have hlines : (Pending.ofTexts "a\n\nb\nc\n".toList "x\n\nb\ny".toList).size ≠ 0 := by decide
  have hstart := merge_never_stuck hold hnew
  rw [hedits] at hstart
  obtain ⟨hround, hrounds, hkept, hchain⟩ := hstart
  exact ⟨hold, hnew, hedits, ((hround [] _ (.refl _)).2 hlines).2.2, hrounds, hkept.symm, hchain⟩

end Alignment

end LayoutCheck
