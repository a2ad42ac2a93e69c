import LayoutCheck.Comparison
import LayoutCheck.Proofs.Diff.Merge
import Mathlib.Data.List.TakeWhile

/-! # Hunks are maximal runs

Grouping goes through the edits turn by turn. A turn skips kept lines, shows a block of changes with
the kept lines around it, and leaves the rest. A line is shown when a change stands within the
context of it, and the hunks are the maximal runs of shown positions, in order and none left out;
what lies between them is kept lines only. -/

namespace LayoutCheck

open Edit

namespace Edit

def ChangeAt (edits : List Edit) (i : Nat) : Prop := edits[i]?.any isChange = true

instance (edits : List Edit) (i : Nat) : Decidable (ChangeAt edits i) :=
  inferInstanceAs (Decidable (_ = true))

/-- Is there a change within `context` positions? -/
def Near (context : Nat) (edits : List Edit) (i : Nat) : Prop :=
  ∃ j, ChangeAt edits j ∧ i ≤ j + context ∧ j ≤ i + context

instance (context : Nat) (edits : List Edit) (i : Nat) : Decidable (Near context edits i) :=
  decidable_of_iff (∃ j ≤ i + context, ChangeAt edits j ∧ i ≤ j + context)
    ⟨fun ⟨j, hr, hj, hl⟩ => ⟨j, hj, hl, hr⟩, fun ⟨j, hj, hl, hr⟩ => ⟨j, hr, hj, hl⟩⟩

theorem ChangeAt.lt_length {edits : List Edit} {i : Nat} (h : ChangeAt edits i) :
    i < edits.length := by
  by_contra hi
  rw [ChangeAt, List.getElem?_eq_none (by omega)] at h
  cases h

theorem changeAt_append (es fs : List Edit) (i : Nat) :
    ChangeAt (es ++ fs) i ↔ ChangeAt es i ∨ es.length ≤ i ∧ ChangeAt fs (i - es.length) := by
  by_cases hi : i < es.length
  · simp [ChangeAt, List.getElem?_append_left hi, Nat.not_le.mpr hi]
  · have hn : ¬ ChangeAt es i := fun h => hi h.lt_length
    rw [ChangeAt, List.getElem?_append_right (by omega), ← ChangeAt]
    simp [hn, Nat.le_of_not_lt hi]

theorem changeAt_append_right (es : List Edit) {fs : List Edit} {i : Nat} (h : ChangeAt fs i) :
    ChangeAt (es ++ fs) (es.length + i) := by
  rw [changeAt_append, Nat.add_sub_cancel_left]
  exact Or.inr ⟨by omega, h⟩

theorem changeAt_of_forall {edits : List Edit} (h : ∀ e ∈ edits, e.isChange = true) {i : Nat}
    (hi : i < edits.length) : ChangeAt edits i := by
  rw [ChangeAt, List.getElem?_eq_getElem hi]
  exact h _ (List.getElem_mem hi)

theorem not_changeAt_of_forall {edits : List Edit} (h : ∀ e ∈ edits, e.isChange = false)
    (i : Nat) : ¬ ChangeAt edits i := by
  intro hc
  have hi := hc.lt_length
  rw [ChangeAt, List.getElem?_eq_getElem hi] at hc
  exact Bool.false_ne_true ((h _ (List.getElem_mem hi)).symm.trans hc)

theorem changeAt_dropWhile_kept {edits : List Edit} (h : edits.dropWhile (!isChange ·) ≠ []) :
    ChangeAt (edits.dropWhile (!isChange ·)) 0 := by
  have hh := List.head_dropWhile_not (!isChange ·) h
  rw [ChangeAt, ← List.head?_eq_getElem?, List.head?_eq_some_head h]
  simpa using hh

theorem not_changeAt_takeWhile_kept (edits : List Edit) (i : Nat) :
    ¬ ChangeAt (edits.takeWhile (!isChange ·)) i :=
  not_changeAt_of_forall (fun e he => by simpa using List.mem_takeWhile_imp he) i

theorem exists_keep {edits : List Edit} {i : Nat} (hi : i < edits.length)
    (h : ¬ ChangeAt edits i) : ∃ l, edits[i]? = some (keep l) := by
  rw [ChangeAt, List.getElem?_eq_getElem hi] at h
  rw [List.getElem?_eq_getElem hi]
  cases he : edits[i] with
  | keep l => exact ⟨l, rfl⟩
  | drop l => exact absurd rfl (he ▸ h)
  | insert l => exact absurd rfl (he ▸ h)

theorem ChangeAt.near {context : Nat} {edits : List Edit} {i : Nat} (h : ChangeAt edits i) :
    Near context edits i :=
  ⟨i, h, by omega, by omega⟩

theorem takeBlock_append (context : Nat) (edits : List Edit) :
    (takeBlock context edits).1 ++ (takeBlock context edits).2 = edits := by
  fun_induction takeBlock context edits with
  | case1 edits changes rest gap beyond h => exact List.takeWhile_append_dropWhile
  | case2 edits changes rest gap beyond h b ih =>
    rw [List.append_assoc, ih, List.append_assoc, List.takeWhile_append_dropWhile]
    exact List.takeWhile_append_dropWhile

/-- A block begins and ends with a change, and the next change is too far for its context to
meet the context of the block. -/
structure IsBlock (context : Nat) (block left : List Edit) : Prop where
  first : ChangeAt block 0
  last : ChangeAt block (block.length - 1)
  dense : ∀ i < block.length, Near context block i
  far : ∀ j, ChangeAt left j → 2 * context < j

theorem changeAt_takeWhile {edits : List Edit} {i : Nat}
    (hi : i < (edits.takeWhile isChange).length) : ChangeAt (edits.takeWhile isChange) i :=
  changeAt_of_forall (fun _ he => List.mem_takeWhile_imp he) hi

theorem length_takeWhile_pos {edits : List Edit} (h : ChangeAt edits 0) :
    0 < (edits.takeWhile isChange).length := by
  cases edits with
  | nil => cases h
  | cons e es =>
    have he : e.isChange = true := h
    simp [he]

theorem IsBlock.extend {context : Nat} {changes gap block left : List Edit}
    (h : IsBlock context block left) (hpos : 0 < changes.length)
    (hall : ∀ i < changes.length, ChangeAt changes i) (hgap : gap.length ≤ 2 * context) :
    IsBlock context (changes ++ gap ++ block) left := by
  have hlead {i : Nat} (hi : i < changes.length) : ChangeAt (changes ++ gap ++ block) i := by
    rw [List.append_assoc, changeAt_append]
    exact Or.inl (hall i hi)
  have hlater {i : Nat} (hi : ChangeAt block i) :
      ChangeAt (changes ++ gap ++ block) (changes.length + gap.length + i) := by
    rw [← List.length_append]
    exact changeAt_append_right _ hi
  have hblock : 0 < block.length := h.first.lt_length
  refine ⟨hlead hpos, ?_, ?_, h.far⟩
  · have hlast := hlater h.last
    rw [List.length_append, List.length_append]
    rwa [show changes.length + gap.length + block.length - 1 =
      changes.length + gap.length + (block.length - 1) by omega]
  · intro i hi
    rw [List.length_append, List.length_append] at hi
    by_cases hc : i < changes.length
    · exact (hlead hc).near
    by_cases hg : i < changes.length + gap.length
    · by_cases hn : i < changes.length + context
      · exact ⟨changes.length - 1, hlead (by omega), by omega, by omega⟩
      · exact ⟨changes.length + gap.length + 0, hlater h.first, by omega, by omega⟩
    · obtain ⟨j, hj, hl, hr⟩ := h.dense (i - (changes.length + gap.length)) (by omega)
      exact ⟨_, hlater hj, by omega, by omega⟩

theorem takeBlock_isBlock (context : Nat) (edits : List Edit) (h : ChangeAt edits 0) :
    IsBlock context (takeBlock context edits).1 (takeBlock context edits).2 := by
  fun_induction takeBlock context edits with
  | case1 edits changes rest gap beyond hstop =>
    have hpos : 0 < changes.length := length_takeWhile_pos h
    have hall {i : Nat} (hi : i < changes.length) : ChangeAt changes i := changeAt_takeWhile hi
    have hlast : ChangeAt changes (changes.length - 1) := hall (by omega)
    refine ⟨hall hpos, hlast, fun i hi => (hall hi).near, ?_⟩
    intro j hj
    have hrest : rest = gap ++ beyond := List.takeWhile_append_dropWhile.symm
    rw [hrest, changeAt_append] at hj
    rcases hj with hj | ⟨hle, hj⟩
    · exact absurd hj (not_changeAt_takeWhile_kept rest j)
    · rcases hstop with hb | hg
      · rw [hb] at hj
        cases hj
      · omega
  | case2 edits changes rest gap beyond hgo b ih =>
    obtain ⟨hbeyond, hgap⟩ := not_or.mp hgo
    have hnext : IsBlock context b.1 b.2 := ih (changeAt_dropWhile_kept hbeyond)
    exact hnext.extend (length_takeWhile_pos h) (fun _ hi => changeAt_takeWhile hi)
      (Nat.not_lt.mp hgap)

end Edit

namespace Hunk

/-- The cursor between two lists: the lines after it are out of reach of the changes before it,
and once there are lines before it, the next change lies further than its context. -/
structure Clear (context : Nat) (before after : List Edit) : Prop where
  past : after ≠ [] → ∀ j, ChangeAt before j → j + context < before.length
  next : before ≠ [] → ∀ j, ChangeAt after j → context < j

/-- What one turn does with the lines after the cursor: some are skipped, then a block is shown
between its lead and its trail, and the rest is left. -/
structure Turn (context : Nat) (before skipped lead block trail left : List Edit) : Prop where
  clear : Clear context before (skipped ++ (lead ++ (block ++ (trail ++ left))))
  skipped_kept : ∀ e ∈ skipped, e.isChange = false
  lead_kept : ∀ e ∈ lead, e.isChange = false
  lead_le : lead.length ≤ context
  lead_full : skipped ≠ [] → lead.length = context
  first : ChangeAt (block ++ (trail ++ left)) 0
  taken : takeBlock context (block ++ (trail ++ left)) = (block, trail ++ left)
  trail_le : trail.length ≤ context
  trail_full : left ≠ [] → trail.length = context

namespace Turn

variable {context : Nat} {before skipped lead block trail left : List Edit}

theorem isBlock (t : Turn context before skipped lead block trail left) :
    IsBlock context block (trail ++ left) := by
  have h := takeBlock_isBlock context _ t.first
  rwa [t.taken] at h

theorem changeAt_cases (t : Turn context before skipped lead block trail left) {j : Nat}
    (h : ChangeAt (before ++ (skipped ++ (lead ++ (block ++ (trail ++ left))))) j) :
    j + context < before.length ∨
      before.length + skipped.length + lead.length ≤ j ∧
        j < before.length + skipped.length + lead.length + block.length ∨
      before.length + skipped.length + lead.length + block.length + 2 * context < j := by
  rcases (changeAt_append ..).mp h with h | ⟨hb, h⟩
  · have hpos := t.isBlock.first.lt_length
    refine Or.inl (t.clear.past (List.ne_nil_of_length_pos ?_) j h)
    simp only [List.length_append]
    omega
  rcases (changeAt_append ..).mp h with h | ⟨hs, h⟩
  · exact absurd h (not_changeAt_of_forall t.skipped_kept _)
  rcases (changeAt_append ..).mp h with h | ⟨hl, h⟩
  · exact absurd h (not_changeAt_of_forall t.lead_kept _)
  rcases (changeAt_append ..).mp h with h | ⟨hk, h⟩
  · have := h.lt_length
    omega
  · have := t.isBlock.far _ h
    omega

theorem changeAt_block (before skipped lead trail left : List Edit) {block : List Edit} {i : Nat}
    (h : ChangeAt block i) :
    ChangeAt (before ++ (skipped ++ (lead ++ (block ++ (trail ++ left)))))
      (before.length + skipped.length + lead.length + i) := by
  have hw : ChangeAt (block ++ (trail ++ left)) i := (changeAt_append ..).mpr (Or.inl h)
  have hall := changeAt_append_right (before ++ skipped ++ lead) hw
  simpa only [List.append_assoc, List.length_append, Nat.add_assoc] using hall

theorem near (t : Turn context before skipped lead block trail left) {i : Nat}
    (h : before.length + skipped.length ≤ i)
    (hi : i < before.length + skipped.length + lead.length + block.length + trail.length) :
    Near context (before ++ (skipped ++ (lead ++ (block ++ (trail ++ left))))) i := by
  have hblock := t.isBlock
  have hlead := t.lead_le
  have htrail := t.trail_le
  by_cases hl : i < before.length + skipped.length + lead.length
  · exact ⟨_, changeAt_block before skipped lead trail left hblock.first, by omega, by omega⟩
  by_cases hr : i < before.length + skipped.length + lead.length + block.length
  · obtain ⟨j, hj, hij, hji⟩ :=
      hblock.dense (i - (before.length + skipped.length + lead.length)) (by omega)
    exact ⟨_, changeAt_block before skipped lead trail left hj, by omega, by omega⟩
  · exact ⟨_, changeAt_block before skipped lead trail left hblock.last, by omega, by omega⟩

theorem lt_first (t : Turn context before skipped lead block trail left) (h : before ≠ []) :
    context < skipped.length + lead.length := by
  have hfirst := changeAt_append_right (skipped ++ lead) t.first
  simp only [List.length_append, List.append_assoc, Nat.add_zero] at hfirst
  exact t.clear.next h _ hfirst

theorem not_near (t : Turn context before skipped lead block trail left) {i : Nat}
    (h : before.length ≤ i) (hi : i < before.length + skipped.length) :
    ¬ Near context (before ++ (skipped ++ (lead ++ (block ++ (trail ++ left))))) i := by
  rintro ⟨j, hj, hl, hr⟩
  have hlead := t.lead_full (List.ne_nil_of_length_pos (by omega))
  rcases t.changeAt_cases hj with hc | hc | hc
  · omega
  · omega
  · omega

theorem clear_left (t : Turn context before skipped lead block trail left) :
    Clear context (before ++ (skipped ++ (lead ++ (block ++ trail)))) left := by
  constructor
  · intro hleft j hj
    have hfull := t.trail_full hleft
    have hlt := hj.lt_length
    have hw : ChangeAt (before ++ (skipped ++ (lead ++ (block ++ (trail ++ left))))) j := by
      have := (changeAt_append _ left j).mpr (Or.inl hj)
      simpa only [List.append_assoc] using this
    simp only [List.length_append] at hlt ⊢
    rcases t.changeAt_cases hw with hc | hc | hc
    · omega
    · omega
    · omega
  · intro _ j hj
    have hfar := t.isBlock.far _ (changeAt_append_right trail hj)
    have htrail := t.trail_le
    omega

end Turn

inductive Grouped (context : Nat) : List Edit → List Edit → List Hunk → Prop where
  | done {before after : List Edit} : Clear context before after →
      (∀ e ∈ after, e.isChange = false) → Grouped context before after []
  | turn {before skipped lead block trail left : List Edit} {hunks : List Hunk} :
      Turn context before skipped lead block trail left →
      Grouped context (before ++ (skipped ++ (lead ++ (block ++ trail)))) left hunks →
      Grouped context before (skipped ++ (lead ++ (block ++ (trail ++ left))))
        (ofEdits ((before ++ skipped).countP inSource) ((before ++ skipped).countP inFormatted)
          (lead ++ (block ++ trail)) :: hunks)

theorem turn_of_clear {context : Nat} {before kept block rest : List Edit}
    (hkept : ∀ e ∈ kept, e.isChange = false) (hfirst : ChangeAt (block ++ rest) 0)
    (htaken : takeBlock context (block ++ rest) = (block, rest))
    (hclear : Clear context before (kept ++ (block ++ rest))) :
    Turn context before (kept.take (kept.length - context)) (kept.drop (kept.length - context))
      block (rest.take context) (rest.drop context) := by
  have hrest : rest.take context ++ rest.drop context = rest := List.take_append_drop ..
  constructor
  · rwa [hrest, ← List.append_assoc, List.take_append_drop]
  · exact fun e he => hkept e (List.mem_of_mem_take he)
  · exact fun e he => hkept e (List.mem_of_mem_drop he)
  · rw [List.length_drop]
    omega
  · intro hne
    have := List.length_pos_iff.mpr hne
    rw [List.length_take] at this
    rw [List.length_drop]
    omega
  · rwa [hrest]
  · rwa [hrest]
  · exact List.length_take_le _ _
  · intro hne
    have := List.length_pos_iff.mpr hne
    rw [List.length_drop] at this
    rw [List.length_take]
    omega

theorem groupFrom_grouped (context o f : Nat) (before after : List Edit)
    (hclear : Clear context before after) (ho : before.countP inSource = o)
    (hf : before.countP inFormatted = f) :
    Grouped context before after (groupFrom context o f after) := by
  fun_induction groupFrom context o f after generalizing before with
  | case1 o f edits hd =>
    refine .done hclear fun e he => ?_
    simpa using List.dropWhile_eq_nil_iff.mp hd e he
  | case2 o f edits lead e es hd skipped block body hunk ih =>
    have hblock : block.1 ++ block.2 = e :: es := takeBlock_append context (e :: es)
    have hlead : ∀ d ∈ lead, d.isChange = false := fun d hm => by
      simpa using List.mem_takeWhile_imp hm
    have hedits : lead ++ (block.1 ++ block.2) = edits := by
      rw [hblock, ← hd, List.takeWhile_append_dropWhile]
    have hfirst : ChangeAt (block.1 ++ block.2) 0 := by
      rw [hblock, ← hd]
      exact changeAt_dropWhile_kept (by simp [hd])
    have hturn := turn_of_clear hlead hfirst (congrArg (takeBlock context) hblock)
      (hedits ▸ hclear)
    have hpieces : edits = skipped ++ (lead.drop (lead.length - context) ++
        (block.1 ++ (block.2.take context ++ block.2.drop context))) := by
      rw [List.take_append_drop, ← List.append_assoc, List.take_append_drop, hedits]
    have hbody : body = lead.drop (lead.length - context) ++ (block.1 ++ block.2.take context) :=
      List.append_assoc ..
    have hhunk : hunk = ofEdits ((before ++ skipped).countP inSource)
        ((before ++ skipped).countP inFormatted)
        (lead.drop (lead.length - context) ++ (block.1 ++ block.2.take context)) := by
      simp only [hunk, hbody, List.countP_append, ho, hf]
    have hleft := ih _ hturn.clear_left ?_ ?_
    · rw [hhunk, hpieces]
      exact .turn hturn (hhunk ▸ hleft)
    · simp only [hhunk, ofEdits, List.countP_append, Nat.add_assoc]
      rfl
    · simp only [hhunk, ofEdits, List.countP_append, Nat.add_assoc]
      rfl

theorem group_grouped (context : Nat) (edits : List Edit) :
    Grouped context [] edits (group context edits) := by
  refine groupFrom_grouped context 0 0 [] edits ⟨?_, ?_⟩ rfl rfl
  · intro _ j hj
    cases hj
  · intro h
    exact absurd rfl h

def reverse (h : Hunk) : Hunk where
  sourceStart := h.formattedStart
  sourceLen := h.formattedLen
  formattedStart := h.sourceStart
  formattedLen := h.sourceLen
  edits := h.edits.map Edit.reverse

/-- `hunks` are cut out of `edits`, which follow `o` source and `f` formatted lines. -/
inductive Covers : Nat → Nat → List Edit → List Hunk → Prop where
  | done (o f : Nat) (kept : List Text) : Covers o f (kept.map keep) []
  | hunk {o f : Nat} {kept : List Text} {body left : List Edit} {hunks : List Hunk} :
      Covers (o + kept.length + (sourceLines body).length)
        (f + kept.length + (formattedLines body).length) left hunks →
      Covers o f (kept.map keep ++ body ++ left)
        (ofEdits (o + kept.length) (f + kept.length) body :: hunks)

@[simp] theorem ofEdits_sourceStart (o f : Nat) (es : List Edit) :
    (ofEdits o f es).sourceStart = o := rfl
@[simp] theorem ofEdits_formattedStart (o f : Nat) (es : List Edit) :
    (ofEdits o f es).formattedStart = f := rfl
@[simp] theorem ofEdits_edits (o f : Nat) (es : List Edit) : (ofEdits o f es).edits = es := rfl
@[simp] theorem ofEdits_sourceLen (o f : Nat) (es : List Edit) :
    (ofEdits o f es).sourceLen = (sourceLines es).length := countP_inSource es
@[simp] theorem ofEdits_formattedLen (o f : Nat) (es : List Edit) :
    (ofEdits o f es).formattedLen = (formattedLines es).length := countP_inFormatted es

theorem reverse_ofEdits (o f : Nat) (es : List Edit) :
    (ofEdits o f es).reverse = ofEdits f o (es.map Edit.reverse) := by
  unfold reverse ofEdits
  simp only [countP_inSource, countP_inFormatted, sourceLines_reverse, formattedLines_reverse]

theorem Covers.reverse {o f : Nat} {edits : List Edit} {hunks : List Hunk}
    (h : Covers o f edits hunks) :
    Covers f o (edits.map Edit.reverse) (hunks.map Hunk.reverse) := by
  have hkeep (kept : List Text) : (kept.map keep).map Edit.reverse = kept.map keep := by
    rw [List.map_map]
    rfl
  induction h with
  | done o f kept =>
    rw [hkeep]
    exact .done f o kept
  | hunk h ih =>
    rw [List.map_append, List.map_append, hkeep, List.map_cons, reverse_ofEdits]
    apply Covers.hunk
    rw [sourceLines_reverse, formattedLines_reverse]
    exact ih

theorem Grouped.covers {context : Nat} {before after : List Edit} {hunks : List Hunk}
    (h : Grouped context before after hunks) :
    Covers (before.countP inSource) (before.countP inFormatted) after hunks := by
  induction h with
  | @done before after _ hkept =>
    obtain ⟨kept, rfl⟩ := eq_map_keep hkept
    exact .done _ _ kept
  | @turn before skipped lead block trail left hunks ht _ ih =>
    obtain ⟨kept, rfl⟩ := eq_map_keep ht.skipped_kept
    have hs : (kept.map keep).countP inSource = kept.length := by
      rw [countP_inSource, sourceLines_map_keep]
    have hf : (kept.map keep).countP inFormatted = kept.length := by
      rw [countP_inFormatted, formattedLines_map_keep]
    have hshown : kept.map keep ++ (lead ++ (block ++ (trail ++ left))) =
        kept.map keep ++ (lead ++ (block ++ trail)) ++ left := by
      simp only [List.append_assoc]
    rw [hshown]
    generalize lead ++ (block ++ trail) = body at ih ⊢
    simp only [List.countP_append, hs, hf, ← Nat.add_assoc] at ih ⊢
    refine .hunk ?_
    rwa [← countP_inSource, ← countP_inFormatted]

theorem group_covers (context : Nat) (edits : List Edit) :
    Covers 0 0 edits (group context edits) :=
  (group_grouped context edits).covers

structure Span where
  start : Nat
  stop : Nat
  deriving DecidableEq, Repr

namespace Span

def Holds (r : Span) (i : Nat) : Prop := r.start ≤ i ∧ i < r.stop

instance (r : Span) (i : Nat) : Decidable (r.Holds i) := inferInstanceAs (Decidable (_ ∧ _))

def slice (r : Span) (edits : List Edit) : List Edit := (edits.take r.stop).drop r.start

def behind (es fs : List Edit) : Span := ⟨es.length, es.length + fs.length⟩

@[simp] theorem behind_start (es fs : List Edit) : (behind es fs).start = es.length := rfl

@[simp] theorem behind_stop (es fs : List Edit) :
    (behind es fs).stop = es.length + fs.length := rfl

theorem slice_behind (es fs gs : List Edit) : (behind es fs).slice (es ++ (fs ++ gs)) = fs := by
  rw [slice, behind_start, behind_stop, ← List.append_assoc, ← List.length_append,
    List.take_left, List.drop_left]

end Span

/-- The hunk that shows a span: its starts count the lines before the span on either side, its
lengths those in the span. -/
def cut (edits : List Edit) (r : Span) : Hunk where
  sourceStart := (edits.take r.start).countP inSource
  sourceLen := (r.slice edits).countP inSource
  formattedStart := (edits.take r.start).countP inFormatted
  formattedLen := (r.slice edits).countP inFormatted
  edits := r.slice edits

/-- A maximal run of positions near a change. -/
structure IsRun (context : Nat) (edits : List Edit) (r : Span) : Prop where
  nonempty : r.start < r.stop
  inRange : r.stop ≤ edits.length
  near : ∀ i, r.Holds i → Near context edits i
  before : ∀ i, i + 1 = r.start → ¬ Near context edits i
  after : r.stop < edits.length → ¬ Near context edits r.stop

instance (context : Nat) (edits : List Edit) (r : Span) : Decidable (IsRun context edits r) :=
  decidable_of_iff (r.start < r.stop ∧ r.stop ≤ edits.length ∧
      (∀ i < r.stop, r.start ≤ i → Near context edits i) ∧
      (∀ i < r.start, i + 1 = r.start → ¬ Near context edits i) ∧
      (r.stop < edits.length → ¬ Near context edits r.stop))
    ⟨fun ⟨hn, hr, hi, hb, ha⟩ => ⟨hn, hr, fun i h => hi i h.2 h.1, fun i h => hb i (by omega) h, ha⟩,
      fun h => ⟨h.nonempty, h.inRange, fun i hs hl => h.near i ⟨hl, hs⟩,
        fun i _ hb => h.before i hb, h.after⟩⟩

theorem IsRun.start_le_of_holds {context : Nat} {edits : List Edit} {a b : Span}
    (ha : IsRun context edits a) (hb : IsRun context edits b) {i : Nat} (hia : a.Holds i)
    (hib : b.Holds i) : a.start ≤ b.start := by
  obtain ⟨hai, -⟩ := hia
  obtain ⟨-, hbi⟩ := hib
  by_contra hlt
  exact ha.before (a.start - 1) (by omega) (hb.near _ ⟨by omega, by omega⟩)

theorem IsRun.stop_le_of_holds {context : Nat} {edits : List Edit} {a b : Span}
    (ha : IsRun context edits a) (hb : IsRun context edits b) {i : Nat} (hia : a.Holds i)
    (hib : b.Holds i) : b.stop ≤ a.stop := by
  obtain ⟨-, hai⟩ := hia
  obtain ⟨hbi, -⟩ := hib
  have hbr := hb.inRange
  by_contra hlt
  exact ha.after (by omega) (hb.near _ ⟨by omega, by omega⟩)

theorem IsRun.eq_of_holds {context : Nat} {edits : List Edit} {a b : Span}
    (ha : IsRun context edits a) (hb : IsRun context edits b) {i : Nat} (hia : a.Holds i)
    (hib : b.Holds i) : a = b := by
  have hs := Nat.le_antisymm (ha.start_le_of_holds hb hia hib) (hb.start_le_of_holds ha hib hia)
  have he := Nat.le_antisymm (hb.stop_le_of_holds ha hib hia) (ha.stop_le_of_holds hb hia hib)
  cases a
  cases b
  exact Span.mk.injEq .. ▸ ⟨hs, he⟩

theorem IsRun.stop_lt_start {context : Nat} {edits : List Edit} {a b : Span}
    (ha : IsRun context edits a) (hb : IsRun context edits b) (h : a.start < b.start) :
    a.stop < b.start := by
  have hbr := hb.inRange
  have hbn := hb.nonempty
  by_contra hle
  by_cases he : b.start = a.stop
  · exact ha.after (by omega) (he ▸ hb.near b.start ⟨Nat.le_refl _, hbn⟩)
  · obtain rfl := ha.eq_of_holds hb (i := b.start) ⟨by omega, by omega⟩ ⟨Nat.le_refl _, hbn⟩
    exact Nat.lt_irrefl _ h

theorem cut_behind (es fs gs : List Edit) :
    cut (es ++ (fs ++ gs)) (.behind es fs) =
      ofEdits (es.countP inSource) (es.countP inFormatted) fs := by
  simp only [cut, ofEdits, Span.slice_behind, Span.behind_start, List.take_left]

section

variable {context : Nat} {before skipped lead block trail left : List Edit}

theorem Turn.isRun (t : Turn context before skipped lead block trail left) :
    IsRun context (before ++ (skipped ++ (lead ++ (block ++ (trail ++ left)))))
      (.behind (before ++ skipped) (lead ++ (block ++ trail))) := by
  have hpos := t.isBlock.first.lt_length
  have hlead := t.lead_le
  constructor
  · simp only [Span.behind_start, Span.behind_stop, List.length_append]
    omega
  · simp only [Span.behind_stop, List.length_append]
    omega
  · rintro i ⟨hs, he⟩
    simp only [Span.behind_start, Span.behind_stop, List.length_append] at hs he
    exact t.near (by omega) (by omega)
  · intro i hi
    simp only [Span.behind_start, List.length_append] at hi
    -- Behind other lines a turn skips at least one, so this position is a skipped one.
    refine t.not_near ?_ (by omega)
    by_cases hb : before = []
    · simp [hb]
    · have := t.lt_first hb
      omega
  · intro hlt
    simp only [Span.behind_stop, List.length_append] at hlt ⊢
    have hfull := t.trail_full (List.ne_nil_of_length_pos (by omega))
    rintro ⟨j, hj, hl, hr⟩
    rcases t.changeAt_cases hj with hc | hc | hc
    · omega
    · omega
    · omega

structure Shows (context : Nat) (before after : List Edit) (hunks : List Hunk)
    (spans : List Span) : Prop where
  hunks_eq : hunks = spans.map (cut (before ++ after))
  runs : ∀ r ∈ spans, IsRun context (before ++ after) r
  ahead : ∀ r ∈ spans, before.length ≤ r.start
  ordered : spans.Pairwise fun a b => a.start < b.start
  covers : ∀ i, before.length ≤ i → i < (before ++ after).length →
    Near context (before ++ after) i → ∃ r ∈ spans, r.Holds i

theorem Clear.shows_nil {after : List Edit} (h : Clear context before after)
    (hkept : ∀ e ∈ after, e.isChange = false) : Shows context before after [] [] := by
  refine ⟨rfl, by simp, by simp, .nil, ?_⟩
  rintro i hb hi ⟨j, hj, hl, hr⟩
  rw [List.length_append] at hi
  rcases (changeAt_append ..).mp hj with hj | ⟨-, hj⟩
  · have := h.past (List.ne_nil_of_length_pos (by omega)) j hj
    omega
  · exact absurd hj (not_changeAt_of_forall hkept _)

theorem Turn.shows_cons (t : Turn context before skipped lead block trail left)
    {hunks : List Hunk} {spans : List Span}
    (h : Shows context (before ++ (skipped ++ (lead ++ (block ++ trail)))) left hunks spans) :
    Shows context before (skipped ++ (lead ++ (block ++ (trail ++ left))))
      (ofEdits ((before ++ skipped).countP inSource) ((before ++ skipped).countP inFormatted)
        (lead ++ (block ++ trail)) :: hunks)
      (.behind (before ++ skipped) (lead ++ (block ++ trail)) :: spans) := by
  have hwhole : before ++ (skipped ++ (lead ++ (block ++ trail))) ++ left =
      before ++ (skipped ++ (lead ++ (block ++ (trail ++ left)))) := by
    simp only [List.append_assoc]
  obtain ⟨hhunks, hruns, hahead, hordered, hcovers⟩ := h
  rw [hwhole] at hhunks hruns hcovers
  simp only [List.length_append] at hahead hcovers
  have hpos := t.isBlock.first.lt_length
  constructor
  · have hcut := cut_behind (before ++ skipped) (lead ++ (block ++ trail)) left
    simp only [List.append_assoc] at hcut ⊢
    rw [List.map_cons, hcut, ← hhunks]
  · intro r hr
    rcases List.mem_cons.mp hr with rfl | hr
    · exact t.isRun
    · exact hruns r hr
  · intro r hr
    rcases List.mem_cons.mp hr with rfl | hr
    · simp
    · have := hahead r hr
      omega
  · refine List.pairwise_cons.mpr ⟨fun r hr => ?_, hordered⟩
    have := hahead r hr
    simp only [Span.behind_start, List.length_append]
    omega
  · intro i hb hi hn
    rw [List.length_append] at hi
    by_cases hstart : i < before.length + skipped.length
    · exact absurd hn (t.not_near hb hstart)
    by_cases hstop : i < before.length + (skipped.length + (lead.length + (block.length +
        trail.length)))
    · refine ⟨_, List.mem_cons_self, ?_, ?_⟩
      · simpa using hstart
      · simp only [Span.behind_stop, List.length_append]
        omega
    · simp only [List.length_append] at hi
      obtain ⟨r, hr, hholds⟩ := hcovers i (by omega) (by omega) hn
      exact ⟨r, List.mem_cons_of_mem _ hr, hholds⟩

end

theorem Grouped.exists_shows {context : Nat} {before after : List Edit} {hunks : List Hunk}
    (h : Grouped context before after hunks) :
    ∃ spans, Shows context before after hunks spans := by
  induction h with
  | done hclear hkept => exact ⟨[], hclear.shows_nil hkept⟩
  | turn ht _ ih =>
    obtain ⟨spans, hs⟩ := ih
    exact ⟨_, ht.shows_cons hs⟩

/-- The spans are exactly the maximal runs near a change, in order and with a kept line left out
between two of them. -/
structure Grouping (context : Nat) (edits : List Edit) (spans : List Span) : Prop where
  apart : spans.Pairwise fun a b => a.stop < b.start ∧ ∃ l, edits[a.stop]? = some (keep l)
  runs : ∀ r, r ∈ spans ↔ IsRun context edits r
  once : ∀ i, ChangeAt edits i → ∃! r, r ∈ spans ∧ r.Holds i
  kept : ∀ i < edits.length, (∀ r ∈ spans, ¬ r.Holds i) → ∃ l, edits[i]? = some (keep l)

theorem Shows.grouping {context : Nat} {edits : List Edit} {hunks : List Hunk}
    {spans : List Span} (h : Shows context [] edits hunks spans) :
    Grouping context edits spans := by
  have hruns : ∀ r ∈ spans, IsRun context edits r := h.runs
  have hcovers {i : Nat} (hi : i < edits.length) (hn : Near context edits i) :
      ∃ r ∈ spans, r.Holds i := h.covers i (Nat.zero_le i) hi hn
  have hchange {i : Nat} (hi : ChangeAt edits i) : ∃ r ∈ spans, r.Holds i :=
    hcovers hi.lt_length hi.near
  constructor
  · refine h.ordered.imp_of_mem fun {a b} ha hb hlt => ?_
    have hgap := (hruns a ha).stop_lt_start (hruns b hb) hlt
    have hend : a.stop < edits.length :=
      Nat.lt_trans hgap (Nat.lt_of_lt_of_le (hruns b hb).nonempty (hruns b hb).inRange)
    exact ⟨hgap, exists_keep hend fun hc => (hruns a ha).after hend hc.near⟩
  · refine fun r => ⟨hruns r, fun hr => ?_⟩
    have hstart : r.Holds r.start := ⟨Nat.le_refl _, hr.nonempty⟩
    obtain ⟨s, hs, hholds⟩ :=
      hcovers (Nat.lt_of_lt_of_le hr.nonempty hr.inRange) (hr.near _ hstart)
    rwa [hr.eq_of_holds (hruns s hs) hstart hholds]
  · intro i hi
    obtain ⟨r, hr, hholds⟩ := hchange hi
    exact ⟨r, ⟨hr, hholds⟩, fun s hs => (hruns s hs.1).eq_of_holds (hruns r hr) hs.2 hholds⟩
  · intro i hi hout
    refine exists_keep hi fun hc => ?_
    obtain ⟨r, hr, hholds⟩ := hchange hc
    exact hout r hr hholds

end Hunk

end LayoutCheck
