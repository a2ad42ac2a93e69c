import LayoutCheck.Proofs.Diff.Grouping

/-! # Grouping with a cursor

The same grouping by position: a cursor moves over one list, and every slice, every sum and
every move is checked. `none` stands for a position past the end, a number past `limit` or a
round that stays where it is. No check fails while twice the context and the length plus the
context stay within the limit. -/

namespace LayoutCheck.Hunk

open Edit

def within? (limit n : Nat) : Option Nat := if n ≤ limit then some n else none

def difference? (m n : Nat) : Option Nat := if n ≤ m then some (m - n) else none

def from? (edits : List Edit) (i : Nat) : Option (List Edit) :=
  if i ≤ edits.length then some (edits.drop i) else none

def slice? (edits : List Edit) (r : Span) : Option (List Edit) :=
  if r.start ≤ r.stop ∧ r.stop ≤ edits.length then some (r.slice edits) else none

def offsets (side : Edit → Bool) : Nat → List Edit → List Nat
  | n, [] => [n]
  | n, e :: es => n :: offsets side (if side e then n + 1 else n) es

def cut? (edits : List Edit) (r : Span) : Option Hunk := do
  let o ← (offsets inSource 0 edits)[r.start]?
  let o' ← (offsets inSource 0 edits)[r.stop]?
  let f ← (offsets inFormatted 0 edits)[r.start]?
  let f' ← (offsets inFormatted 0 edits)[r.stop]?
  let sourceLen ← difference? o' o
  let formattedLen ← difference? f' f
  let body ← slice? edits r
  return ⟨o, sourceLen, f, formattedLen, body⟩

def blockEnd? (limit context : Nat) (edits : List Edit) (i : Nat) : Option Nat := do
  let ahead ← from? edits i
  let stop ← within? limit (i + (ahead.takeWhile isChange).length)
  let beyond ← from? edits stop
  let next ← within? limit (stop + (beyond.takeWhile (!isChange ·)).length)
  if _h : edits.length ≤ next then return stop
  else
    let reach ← within? limit (2 * context)
    if reach < next - stop then return stop
    else if _h : i < next then blockEnd? limit context edits next
    else none
termination_by edits.length - i

/-- The hunks from a position on. -/
def groupAt? (limit context : Nat) (edits : List Edit) (cursor : Nat) : Option (List Hunk) := do
  let ahead ← from? edits cursor
  match ahead.findIdx? isChange with
  | none => return []
  | some offset =>
    let first ← within? limit (cursor + offset)
    let last ← blockEnd? limit context edits first
    let reach ← within? limit (last + context)
    let hunk ← cut? edits ⟨max (first - context) cursor, min reach edits.length⟩
    if _h : cursor < min reach edits.length then
      let hunks ← groupAt? limit context edits (min reach edits.length)
      return hunk :: hunks
    else none
termination_by edits.length - cursor

theorem within?_of_le {limit n : Nat} (h : n ≤ limit) : within? limit n = some n := if_pos h

theorem difference?_of_le {m n : Nat} (h : n ≤ m) : difference? m n = some (m - n) := if_pos h

@[simp] theorem from?_append (before after : List Edit) :
    from? (before ++ after) before.length = some after := by
  simp [from?]

theorem getElem?_offsets (side : Edit → Bool) (n : Nat) {edits : List Edit} {i : Nat}
    (h : i ≤ edits.length) :
    (offsets side n edits)[i]? = some (n + (edits.take i).countP side) := by
  induction edits generalizing n i with
  | nil =>
    obtain rfl : i = 0 := Nat.le_zero.mp h
    rfl
  | cons e es ih =>
    cases i with
    | zero => rfl
    | succ i =>
      rw [offsets, List.getElem?_cons_succ, ih _ (Nat.le_of_succ_le_succ h), List.take_succ_cons,
        List.countP_cons]
      congr 1
      split <;> omega

theorem countP_take_eq (side : Edit → Bool) (edits : List Edit) {r : Span}
    (h : r.start ≤ r.stop) :
    (edits.take r.stop).countP side =
      (edits.take r.start).countP side + (r.slice edits).countP side := by
  have htake : edits.take r.start = (edits.take r.stop).take r.start := by
    rw [List.take_take, Nat.min_eq_left h]
  rw [htake, Span.slice, ← List.countP_append, List.take_append_drop]

theorem cut?_eq_some {edits : List Edit} {r : Span} (h : r.start ≤ r.stop)
    (hr : r.stop ≤ edits.length) : cut? edits r = some (cut edits r) := by
  have hs := countP_take_eq inSource edits h
  have hf := countP_take_eq inFormatted edits h
  simp only [cut?, getElem?_offsets _ _ (Nat.le_trans h hr), getElem?_offsets _ _ hr, slice?,
    Nat.zero_add, hs, hf, difference?_of_le (Nat.le_add_right _ _), Nat.add_sub_cancel_left,
    and_self, h, hr, if_true, Option.bind_eq_bind, Option.bind_some]
  rfl

theorem cut?_behind (es fs gs : List Edit) :
    cut? (es ++ (fs ++ gs)) (.behind es fs) =
      some (ofEdits (es.countP inSource) (es.countP inFormatted) fs) := by
  rw [cut?_eq_some (Nat.le_add_right _ _), cut_behind]
  simp only [Span.behind_stop, List.length_append]
  omega

theorem blockEnd?_round {limit context : Nat} (hreach : 2 * context ≤ limit)
    {before after changes rest gap beyond : List Edit}
    (hlen : (before ++ after).length ≤ limit) (hchanges : after.takeWhile isChange = changes)
    (hrest : after.dropWhile isChange = rest) (hgap : rest.takeWhile (!isChange ·) = gap)
    (hbeyond : rest.dropWhile (!isChange ·) = beyond) (hpos : 0 < changes.length) :
    blockEnd? limit context (before ++ after) before.length =
      if beyond = [] ∨ gap.length > 2 * context then some (before.length + changes.length)
      else blockEnd? limit context (before ++ after)
        (before.length + changes.length + gap.length) := by
  have hafter : changes ++ rest = after := by
    rw [← hchanges, ← hrest, List.takeWhile_append_dropWhile]
  have hfrom : from? (before ++ after) (before.length + changes.length) = some rest := by
    have := from?_append (before ++ changes) rest
    rwa [List.append_assoc, hafter, List.length_append] at this
  have hsum : (before ++ after).length =
      before.length + changes.length + gap.length + beyond.length := by
    have hrest' : gap ++ beyond = rest := by
      rw [← hgap, ← hbeyond, List.takeWhile_append_dropWhile]
    simp only [← hafter, ← hrest', List.length_append, Nat.add_assoc]
  have hstop : before.length + changes.length ≤ limit := by omega
  have hnext : before.length + changes.length + gap.length ≤ limit := by omega
  rw [blockEnd?]
  simp only [from?_append, Option.bind_eq_bind, Option.bind_some, hchanges, hfrom, hgap,
    within?_of_le hstop, within?_of_le hnext, within?_of_le hreach, Nat.add_sub_cancel_left]
  by_cases hb : beyond = []
  · have hend : (before ++ after).length ≤ before.length + changes.length + gap.length := by
      simp [hsum, hb]
    rw [dif_pos hend, if_pos (Or.inl hb)]
    rfl
  · have hmore := List.length_pos_iff.mpr hb
    rw [dif_neg (by omega)]
    by_cases hg : 2 * context < gap.length
    · rw [if_pos hg, if_pos (Or.inr hg)]
      rfl
    · rw [if_neg hg, dif_pos (by omega), if_neg (not_or.mpr ⟨hb, hg⟩)]

theorem blockEnd?_eq_some {limit context : Nat} (hreach : 2 * context ≤ limit)
    (before after : List Edit) (hlen : (before ++ after).length ≤ limit)
    (h : ChangeAt after 0) :
    blockEnd? limit context (before ++ after) before.length =
      some (before.length + (takeBlock context after).1.length) := by
  fun_induction takeBlock context after generalizing before with
  | case1 after changes rest gap beyond hstop =>
    rw [blockEnd?_round hreach hlen rfl rfl rfl rfl (length_takeWhile_pos h), if_pos hstop]
  | case2 after changes rest gap beyond hgo b ih =>
    obtain ⟨hbeyond, hgap⟩ := not_or.mp hgo
    have hafter : before ++ after = before ++ changes ++ gap ++ beyond := by
      simp only [List.append_assoc, gap, beyond, changes, rest, List.takeWhile_append_dropWhile]
    have hnext := ih (before ++ changes ++ gap) (hafter ▸ hlen) (changeAt_dropWhile_kept hbeyond)
    rw [← hafter] at hnext
    rw [blockEnd?_round hreach hlen rfl rfl rfl rfl (length_takeWhile_pos h), if_neg hgo]
    simpa only [List.length_append, Nat.add_assoc] using hnext

theorem findIdx?_kept {kept rest : List Edit} (hkept : ∀ e ∈ kept, e.isChange = false)
    (h : ChangeAt rest 0) : (kept ++ rest).findIdx? isChange = some kept.length := by
  obtain ⟨e, es, rfl⟩ := List.exists_cons_of_length_pos h.lt_length
  have he : e.isChange = true := h
  have hnone : kept.findIdx? isChange = none := List.findIdx?_eq_none_iff.mpr hkept
  simp [List.findIdx?_append, hnone, List.findIdx?_cons, he]

namespace Turn

variable {context : Nat} {before skipped lead block trail left : List Edit}

theorem start_eq (t : Turn context before skipped lead block trail left) :
    max (before.length + (skipped ++ lead).length - context) before.length =
      (before ++ skipped).length := by
  have hlead := t.lead_le
  simp only [List.length_append]
  by_cases hs : skipped = []
  · simp only [hs, List.length_nil]
    omega
  · have := t.lead_full hs
    omega

theorem stop_eq (t : Turn context before skipped lead block trail left) {n : Nat}
    (hn : n = before.length + (skipped ++ lead).length + block.length + trail.length +
      left.length) :
    min (before.length + (skipped ++ lead).length + block.length + context) n =
      (before ++ skipped).length + (lead ++ (block ++ trail)).length := by
  have htrail := t.trail_le
  simp only [List.length_append] at hn ⊢
  by_cases hl : left = []
  · simp only [hl, List.length_nil] at hn
    omega
  · have := t.trail_full hl
    omega

theorem findIdx?_eq (t : Turn context before skipped lead block trail left) :
    (skipped ++ (lead ++ (block ++ (trail ++ left)))).findIdx? isChange =
      some (skipped ++ lead).length := by
  rw [← List.append_assoc]
  refine findIdx?_kept (fun e he => ?_) t.first
  exact (List.mem_append.mp he).elim (t.skipped_kept e) (t.lead_kept e)

variable {limit : Nat} {edits : List Edit}

theorem blockEnd?_eq (t : Turn context before skipped lead block trail left)
    (hwhole : before ++ (skipped ++ (lead ++ (block ++ (trail ++ left)))) = edits)
    (hreach : 2 * context ≤ limit) (hlen : edits.length ≤ limit) :
    blockEnd? limit context edits (before.length + (skipped ++ lead).length) =
      some (before.length + (skipped ++ lead).length + block.length) := by
  have hcursor : before ++ (skipped ++ lead) ++ (block ++ (trail ++ left)) = edits := by
    rw [← hwhole]
    simp only [List.append_assoc]
  have hend := blockEnd?_eq_some hreach (before ++ (skipped ++ lead)) (block ++ (trail ++ left))
    (by rwa [hcursor]) t.first
  rwa [t.taken, hcursor, List.length_append] at hend

theorem groupAt?_eq (t : Turn context before skipped lead block trail left)
    (hwhole : before ++ (skipped ++ (lead ++ (block ++ (trail ++ left)))) = edits)
    (hreach : 2 * context ≤ limit) (hend : edits.length + context ≤ limit) :
    groupAt? limit context edits before.length =
      (groupAt? limit context edits
        (before ++ (skipped ++ (lead ++ (block ++ trail)))).length).map
        (ofEdits ((before ++ skipped).countP inSource) ((before ++ skipped).countP inFormatted)
          (lead ++ (block ++ trail)) :: ·) := by
  have hlen : edits.length = before.length + (skipped ++ lead).length + block.length +
      trail.length + left.length := by
    simp only [← hwhole, List.length_append]
    omega
  have hfrom := from?_append before (skipped ++ (lead ++ (block ++ (trail ++ left))))
  rw [hwhole] at hfrom
  have hfirst : before.length + (skipped ++ lead).length ≤ limit := by omega
  have hblock := t.blockEnd?_eq hwhole hreach (by omega)
  have hlast : before.length + (skipped ++ lead).length + block.length + context ≤ limit := by
    omega
  have hcut := cut?_behind (before ++ skipped) (lead ++ (block ++ trail)) left
  simp only [List.append_assoc, hwhole] at hcut
  have hnext : (before ++ (skipped ++ (lead ++ (block ++ trail)))).length =
      (before ++ skipped).length + (lead ++ (block ++ trail)).length := by
    rw [← List.append_assoc, List.length_append]
  have hcursor : before.length <
      (before ++ skipped).length + (lead ++ (block ++ trail)).length := by
    have hpos := t.isBlock.first.lt_length
    simp only [List.length_append]
    omega
  rw [groupAt?]
  simp only [hfrom, Option.bind_eq_bind, Option.bind_some, t.findIdx?_eq, within?_of_le hfirst,
    hblock, within?_of_le hlast, t.start_eq, t.stop_eq hlen, dif_pos hcursor]
  rw [← Span.behind, hcut, Option.bind_some, hnext, Option.map_eq_bind]
  rfl

end Turn

theorem Grouped.groupAt?_eq_some {limit context : Nat} {before after : List Edit}
    {hunks : List Hunk} (h : Grouped context before after hunks)
    (hreach : 2 * context ≤ limit) (hend : (before ++ after).length + context ≤ limit) :
    groupAt? limit context (before ++ after) before.length = some hunks := by
  induction h with
  | @done before after _ hkept =>
    have hnone : after.findIdx? isChange = none := List.findIdx?_eq_none_iff.mpr hkept
    rw [groupAt?, from?_append]
    simp only [Option.bind_eq_bind, Option.bind_some, hnone]
    rfl
  | @turn before skipped lead block trail left hunks ht _ ih =>
    have hwhole : before ++ (skipped ++ (lead ++ (block ++ trail))) ++ left =
        before ++ (skipped ++ (lead ++ (block ++ (trail ++ left)))) := by
      simp only [List.append_assoc]
    rw [hwhole] at ih
    rw [ht.groupAt?_eq rfl hreach hend, ih hend]
    rfl

/-- Grouping gives the maximal runs near a change, and the checked cursor gives the same. -/
theorem hunks_are_maximal_runs {limit context : Nat} {edits : List Edit}
    (hreach : 2 * context ≤ limit) (hend : edits.length + context ≤ limit) :
    (∃ spans, Grouping context edits spans ∧ group context edits = spans.map (cut edits)) ∧
      groupAt? limit context edits 0 = some (group context edits) := by
  have hgrouped := group_grouped context edits
  obtain ⟨spans, hshows⟩ := hgrouped.exists_shows
  exact ⟨⟨spans, hshows.grouping, hshows.hunks_eq⟩, hgrouped.groupAt?_eq_some hreach hend⟩

def gaps : List Edit :=
  [keep ['a'], drop ['b'], keep ['c'], keep ['d'], keep ['e'], insert ['f'], keep ['g'],
    keep ['h'], drop ['i']]

example : IsRun 1 gaps ⟨0, 3⟩ ∧ IsRun 1 gaps ⟨4, 9⟩ := by decide

theorem hunks_are_maximal_runs_gaps :
    (2 * 1 ≤ UInt64.size - 1 ∧ gaps.length + 1 ≤ UInt64.size - 1) ∧
      (∃ spans, Grouping 1 gaps spans ∧ group 1 gaps = spans.map (cut gaps)) ∧
        groupAt? (UInt64.size - 1) 1 gaps 0 = some (group 1 gaps) :=
  ⟨by decide, hunks_are_maximal_runs (by decide) (by decide)⟩

end LayoutCheck.Hunk
