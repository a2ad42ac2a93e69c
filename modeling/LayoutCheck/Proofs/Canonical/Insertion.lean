import LayoutCheck.Proofs.Canonical.PerLine

/-! # Layout, comments and second passes

Layout put into a text changes its canonical form in two cases only: it parts two slashes that made a
marker, or it ends a comment in front of code. A comment put at the end of a line changes it in one:
the line is code and ends in a slash, which then opens the comment one character early. A canonical
form is one line of code without layout. Dropping layout may bring two slashes together, so a form
may hold a marker: taking the form once more cuts there, and a third time changes nothing. -/

namespace LayoutCheck

open Text

def LayoutOnly (w : Text) : Prop := ∀ c ∈ w, isLayout c = true

instance (w : Text) : Decidable (LayoutOnly w) := List.decidableBAll _ w

/-- The insertion point lies between the two slashes of a marker. -/
def PartsMarker (u v : Text) : Prop :=
  ¬ HasMarker (lastLine u) ∧ u.getLast? = some '/' ∧ v.head? = some '/'

/-- The inserted text ends a comment, and the rest of that line has code in it. -/
def FreesCode (u w v : Text) : Prop :=
  HasMarker (lastLine u) ∧ '\n' ∈ w ∧ canonicalize (firstLine v) ≠ []

theorem LayoutOnly.slash_not_mem {w : Text} (hw : LayoutOnly w) : '/' ∉ w := by
  intro h
  exact absurd (hw '/' h) (by decide)

theorem LayoutOnly.head_ne_slash {w : Text} (hw : LayoutOnly w) (h0 : w ≠ []) (v : Text) :
    (w ++ v).head? ≠ some '/' := by
  intro h
  obtain ⟨c, w, rfl⟩ := List.exists_cons_of_ne_nil h0
  obtain rfl : c = '/' := by simpa using h
  exact hw.slash_not_mem List.mem_cons_self

theorem dropComments_code_layout {w : Text} (hw : LayoutOnly w) (v : Text) :
    dropComments .code (w ++ v) = w ++ dropComments .code v := by
  have hs := scan_code_of_no_slash hw.slash_not_mem
  have hne : w.getLast? ≠ some '/' := fun h => hw.slash_not_mem (List.mem_of_getLast? h)
  rw [(scan_append .code w v fun h => absurd h hne).1, hs.1, hs.2]

theorem dropComments_comment_layout {w : Text} (hn : '\n' ∉ w) (v : Text) :
    dropComments .comment (w ++ v) = dropComments .comment v := by
  obtain ⟨hd, hm⟩ := scan_comment_of_no_newline hn
  rw [(scan_append .comment w v fun _ _ => hm).1, hm, hd]
  rfl

theorem dropLayout_comment_layout {w : Text} (hw : LayoutOnly w) (hn : '\n' ∈ w) (v : Text) :
    dropLayout (dropComments .comment (w ++ v)) = canonicalize v := by
  obtain ⟨a, b, rfl, ha⟩ := List.eq_append_cons_of_mem hn
  have hb : LayoutOnly b := fun c hc =>
    hw c (List.mem_append_right _ (List.mem_cons_of_mem _ hc))
  rw [List.append_assoc, List.cons_append, dropComments_append_newline,
    (scan_comment_of_no_newline ha).1, List.nil_append,
    dropLayout_cons_of_layout (by decide), dropComments_code_layout hb, dropLayout_append,
    dropLayout_eq_nil hb, List.nil_append, canonicalize_eq_dropLayout]

theorem dropComments_insert_in_code {u w : Text} (hw : LayoutOnly w) (h0 : w ≠ [])
    (hu : modeAfter .code u = .code) (v : Text) :
    dropComments .code (u ++ (w ++ v)) = dropComments .code u ++ (w ++ dropComments .code v) := by
  rw [(scan_append .code u (w ++ v) fun _ h => absurd h (hw.head_ne_slash h0 v)).1, hu,
    dropComments_code_layout hw]

theorem modeAfter_eq_code {u : Text} (hu : ¬ HasMarker (lastLine u)) :
    modeAfter .code u = .code := by
  rw [← modeAfter_code_eq_comment_iff_lastLine] at hu
  cases hm : modeAfter .code u with
  | code => rfl
  | comment => exact absurd hm hu

theorem canonicalize_parts_marker {u w v : Text} (hw : LayoutOnly w) (h0 : w ≠ [])
    (h : PartsMarker u v) : canonicalize (u ++ w ++ v) ≠ canonicalize (u ++ v) := by
  obtain ⟨hu, hs, hv⟩ := h
  have hm := modeAfter_eq_code hu
  obtain ⟨d, hd, hjoin⟩ := scan_slash_seam hs hm
  obtain ⟨v, rfl⟩ := List.head?_eq_some_iff.mp hv
  have hparted : canonicalize (u ++ w ++ '/' :: v) =
      dropLayout d ++ '/' :: dropLayout (dropComments .code ('/' :: v)) := by
    rw [canonicalize_eq_dropLayout, List.append_assoc, dropComments_insert_in_code hw h0 hm, hd]
    simp only [dropLayout_append, dropLayout_eq_nil hw, List.nil_append, List.append_assoc]
    rfl
  have hjoined : canonicalize (u ++ '/' :: v) =
      dropLayout d ++ dropLayout (dropComments .comment ('/' :: v)) := by
    rw [canonicalize_eq_dropLayout, hjoin, dropLayout_append,
      dropComments_comment_cons (by decide)]
  rw [hparted, hjoined, dropComments_code_eq_firstLine, dropLayout_append]
  intro he
  have hl := congrArg List.length he
  simp only [List.length_append, List.length_cons] at hl
  omega

theorem canonicalize_insert_in_code {u w v : Text} (hw : LayoutOnly w) (h0 : w ≠ [])
    (hu : ¬ HasMarker (lastLine u)) (h : ¬ PartsMarker u v) :
    canonicalize (u ++ w ++ v) = canonicalize (u ++ v) := by
  have hm := modeAfter_eq_code hu
  have hseam := scan_append .code u v fun hs hv => absurd ⟨hu, hs, hv⟩ h
  rw [canonicalize_eq_dropLayout, canonicalize_eq_dropLayout, List.append_assoc,
    dropComments_insert_in_code hw h0 hm, hseam.1, hm]
  simp only [dropLayout_append, dropLayout_eq_nil hw, List.nil_append]

theorem canonicalize_insert_in_comment {u w v : Text} (hw : LayoutOnly w)
    (hu : HasMarker (lastLine u)) :
    canonicalize (u ++ w ++ v) = canonicalize (u ++ v) ↔ ¬ FreesCode u w v := by
  have hm := (modeAfter_code_eq_comment_iff_lastLine u).mpr hu
  have hinsert := scan_append .code u (w ++ v) fun _ _ => hm
  have hseam := scan_append .code u v fun _ _ => hm
  rw [canonicalize_eq_dropLayout, canonicalize_eq_dropLayout, List.append_assoc, hinsert.1,
    hseam.1, hm, dropLayout_append, dropLayout_append, List.append_cancel_left_eq]
  by_cases hn : '\n' ∈ w
  · rw [dropLayout_comment_layout hw hn, canonicalize_eq_dropLayout v,
      dropComments_code_eq_firstLine v, dropLayout_append, List.append_left_eq_self,
      ← canonicalize_eq_dropLayout]
    simp [FreesCode, hu, hn]
  · rw [dropComments_comment_layout hn]
    simp [FreesCode, hn]

/-- Inserted layout is transparent unless it parts a marker or frees code. -/
theorem canonicalize_insert_layout_iff {u w v : Text} (h0 : w ≠ []) (hw : LayoutOnly w) :
    canonicalize (u ++ w ++ v) = canonicalize (u ++ v) ↔
      ¬ PartsMarker u v ∧ ¬ FreesCode u w v := by
  by_cases hu : HasMarker (lastLine u)
  · have hp : ¬ PartsMarker u v := fun h => h.1 hu
    rw [canonicalize_insert_in_comment hw hu]
    exact ⟨fun h => ⟨hp, h⟩, fun h => h.2⟩
  · have hf : ¬ FreesCode u w v := fun h => hu h.1
    constructor
    · intro h
      exact ⟨fun hp => canonicalize_parts_marker hw h0 hp h, hf⟩
    · intro h
      exact canonicalize_insert_in_code hw h0 hu h.1

theorem canonicalize_insert_layout_iff_frees_code :
    ("\n ".toList ≠ [] ∧ LayoutOnly "\n ".toList) ∧
      (canonicalize ("x // y".toList ++ "\n ".toList ++ "z".toList) =
          canonicalize ("x // y".toList ++ "z".toList) ↔
        ¬ PartsMarker "x // y".toList "z".toList ∧
          ¬ FreesCode "x // y".toList "\n ".toList "z".toList) :=
  ⟨by decide, canonicalize_insert_layout_iff (by decide) (by decide)⟩

def EndsLine (v : Text) : Prop := v = [] ∨ v.head? = some '\n'

instance (v : Text) : Decidable (EndsLine v) := inferInstanceAs (Decidable (_ ∨ _))

/-- A comment that follows would begin with the last slash of the line. -/
def LendsSlash (u : Text) : Prop := (lastLine u).getLast? = some '/' ∧ ¬ HasMarker (lastLine u)

instance (u : Text) : Decidable (LendsSlash u) := inferInstanceAs (Decidable (_ ∧ _))

def comment (c : Text) : Text := '/' :: '/' :: c

theorem EndsLine.head_ne_slash {v : Text} (hv : EndsLine v) : v.head? ≠ some '/' := by
  rcases hv with rfl | hv
  · simp
  · rw [hv]
    decide

theorem EndsLine.dropComments_comment {v : Text} (hv : EndsLine v) :
    dropComments .comment v = dropComments .code v := by
  rcases hv with rfl | hv
  · rfl
  · obtain ⟨v, rfl⟩ := List.head?_eq_some_iff.mp hv
    rw [dropComments_comment_newline, dropComments_code_cons (by simp)]

theorem getLast?_lastLine (u : Text) :
    (lastLine u).getLast? = some '/' ↔ u.getLast? = some '/' := by
  rcases lastLine_cases u with h | ⟨s, h⟩
  · rw [← h]
  · conv_rhs => rw [h]
    rw [List.getLast?_append, List.getLast?_cons]
    cases (lastLine u).getLast? with
    | none => simp
    | some d => simp

theorem newline_not_mem_comment {c : Text} (hc : '\n' ∉ c) : '\n' ∉ comment c := by
  simp [comment, hc]

theorem canonicalize_comment_in_comment {u c : Text} (hc : '\n' ∉ c)
    (hu : HasMarker (lastLine u)) (v : Text) :
    canonicalize (u ++ comment c ++ v) = canonicalize (u ++ v) := by
  have hm := (modeAfter_code_eq_comment_iff_lastLine u).mpr hu
  rw [canonicalize_eq_dropLayout, canonicalize_eq_dropLayout, List.append_assoc,
    (scan_append .code u (comment c ++ v) fun _ _ => hm).1,
    (scan_append .code u v fun _ _ => hm).1, hm,
    dropComments_comment_layout (newline_not_mem_comment hc)]

section Comment

variable {u c v : Text} (hc : '\n' ∉ c) (hv : EndsLine v)
include hc hv

theorem dropComments_comment_append : dropComments .comment (c ++ v) = dropComments .code v := by
  rw [dropComments_comment_layout hc, hv.dropComments_comment]

theorem canonicalize_comment_in_code (hu : ¬ HasMarker (lastLine u))
    (hs : (lastLine u).getLast? ≠ some '/') :
    canonicalize (u ++ comment c ++ v) = canonicalize (u ++ v) := by
  have hm := modeAfter_eq_code hu
  have hlast : u.getLast? ≠ some '/' := fun h => hs ((getLast?_lastLine u).mpr h)
  rw [canonicalize_eq_dropLayout, canonicalize_eq_dropLayout, List.append_assoc,
    (scan_append .code u (comment c ++ v) fun h => absurd h hlast).1,
    (scan_append .code u v fun h => absurd h hlast).1, hm]
  have hopened : dropComments .code (comment c ++ v) = dropComments .code v :=
    dropComments_comment_append hc hv
  rw [hopened]

theorem canonicalize_comment_of_lendsSlash (hu : LendsSlash u) :
    canonicalize (u ++ comment c ++ v) ≠ canonicalize (u ++ v) := by
  obtain ⟨hs, hn⟩ := hu
  have hm := modeAfter_eq_code hn
  obtain ⟨d, hd, hjoin⟩ := scan_slash_seam ((getLast?_lastLine u).mp hs) hm
  have hwith : canonicalize (u ++ comment c ++ v) =
      dropLayout d ++ dropLayout (dropComments .code v) := by
    have hc' : '\n' ∉ '/' :: c := by simp [hc]
    have hsplit : u ++ comment c ++ v = u ++ '/' :: ('/' :: c ++ v) := by simp [comment]
    rw [canonicalize_eq_dropLayout, hsplit, hjoin, dropComments_comment_append hc' hv,
      dropLayout_append]
  have hwithout : canonicalize (u ++ v) =
      dropLayout d ++ '/' :: dropLayout (dropComments .code v) := by
    rw [canonicalize_eq_dropLayout,
      (scan_append .code u v fun _ h => absurd h hv.head_ne_slash).1, hm, hd]
    simp only [dropLayout_append, List.append_assoc]
    rfl
  rw [hwith, hwithout]
  intro he
  have hl := congrArg List.length he
  simp only [List.length_append, List.length_cons] at hl
  omega

theorem canonicalize_comment_iff :
    canonicalize (u ++ comment c ++ v) = canonicalize (u ++ v) ↔ ¬ LendsSlash u := by
  constructor
  · intro h hu
    exact canonicalize_comment_of_lendsSlash hc hv hu h
  · intro hu
    by_cases hm : HasMarker (lastLine u)
    · exact canonicalize_comment_in_comment hc hm v
    · exact canonicalize_comment_in_code hc hv hm fun hs => hu ⟨hs, hm⟩

theorem canonicalize_spaced_comment :
    canonicalize (u ++ ' ' :: comment c ++ v) = canonicalize (u ++ v) := by
  have hblank : LayoutOnly [' '] := by decide
  have hlends : ¬ LendsSlash (u ++ [' ']) := by
    intro h
    have hs := (getLast?_lastLine _).mp h.1
    simp at hs
  have hspace : canonicalize (u ++ [' '] ++ v) = canonicalize (u ++ v) := by
    by_cases hu : HasMarker (lastLine u)
    · exact (canonicalize_insert_in_comment hblank hu).mpr fun h => by simpa using h.2.1
    · exact canonicalize_insert_in_code hblank (by simp) hu fun h => hv.head_ne_slash h.2.2
  have hsplit : u ++ ' ' :: comment c ++ v = u ++ [' '] ++ comment c ++ v := by simp
  rw [hsplit, (canonicalize_comment_iff hc hv).mpr hlends, hspace]

end Comment

theorem canonicalize_spaced_comment_return {c : Text} (hc : '\n' ∉ c) (u v : Text) :
    canonicalize (u ++ ' ' :: comment c ++ '\r' :: '\n' :: v) =
      canonicalize (u ++ '\r' :: '\n' :: v) := by
  have hreturn : '\n' ∉ c ++ ['\r'] := by simp [hc]
  have hsplit : u ++ ' ' :: comment c ++ '\r' :: '\n' :: v =
      u ++ ' ' :: comment (c ++ ['\r']) ++ '\n' :: v := by simp [comment]
  have hplain : u ++ '\r' :: '\n' :: v = u ++ ['\r'] ++ '\n' :: v := by simp
  rw [hsplit, canonicalize_spaced_comment hreturn (Or.inr rfl), hplain,
    canonicalize_append_newline, canonicalize_append_newline, canonicalize_append_return]

theorem flatMap_modify {α β : Type*} {f : α → List β} {g : α → α} (h : ∀ a, f (g a) = f a)
    (as : List α) (i : Nat) : (as.modify i g).flatMap f = as.flatMap f := by
  induction as generalizing i with
  | nil => simp
  | cons a as ih =>
    cases i with
    | zero => simp [h]
    | succ i => simp [ih]

theorem canonicalize_annotated_line {c : Text} (hc : '\n' ∉ c) (t : Text) (i : Nat) :
    canonicalize (joinWith ['\n'] (t.lines.modify i (· ++ ' ' :: comment c))) =
      canonicalize t := by
  have hline (l : Text) : canonicalize (l ++ ' ' :: comment c) = canonicalize l := by
    have := canonicalize_spaced_comment (u := l) hc (Or.inl rfl)
    simpa using this
  rw [canonicalize_joinWith_newline, flatMap_modify hline, ← canonicalize_eq_flatMap_lines]

/-- A comment at the end of a line is transparent unless it takes a slash from the code. With a
blank in front it is transparent on every line of every text, whatever ends the line. -/
theorem trailing_comment_transparent {c : Text} (hc : '\n' ∉ c) :
    (∀ u v, EndsLine v →
        (canonicalize (u ++ comment c ++ v) = canonicalize (u ++ v) ↔
          ¬ ((lastLine u).getLast? = some '/' ∧ ¬ HasMarker (lastLine u)))) ∧
      (∀ u v, EndsLine v →
        canonicalize (u ++ ' ' :: comment c ++ v) = canonicalize (u ++ v)) ∧
      (∀ u v, canonicalize (u ++ ' ' :: comment c ++ '\r' :: '\n' :: v) =
        canonicalize (u ++ '\r' :: '\n' :: v)) ∧
      ∀ t i, canonicalize (joinWith ['\n'] (t.lines.modify i (· ++ ' ' :: comment c))) =
        canonicalize t :=
  ⟨fun _ _ hv => canonicalize_comment_iff hc hv, fun _ _ hv => canonicalize_spaced_comment hc hv,
    canonicalize_spaced_comment_return hc, canonicalize_annotated_line hc⟩

theorem trailing_comment_transparent_division :
    '\n' ∉ " half; /".toList ∧ EndsLine "\n2".toList ∧
      canonicalize ("x = y /".toList ++ comment " half; /".toList ++ "\n2".toList) ≠
        canonicalize ("x = y /".toList ++ "\n2".toList) := by
  have hc : '\n' ∉ " half; /".toList := by decide
  have hv : EndsLine "\n2".toList := by decide
  refine ⟨hc, hv, fun h => ?_⟩
  have hiff := (trailing_comment_transparent hc).1 "x = y /".toList _ hv
  exact hiff.mp h (by decide +kernel)

def spaced (s : Text) : Text := s.flatMap fun c => [c, ' ']

theorem LayoutFree.dropLayout_eq {s : Text} (h : LayoutFree s) : dropLayout s = s :=
  List.filter_eq_self.mpr fun c hc => by rw [h c hc]; rfl

theorem isPrefix_beforeMarker (p : Text) : beforeMarker p <+: p := by
  rcases beforeMarker_spec p with ⟨-, h⟩ | ⟨r, h, -⟩
  · exact ⟨[], by rw [h, List.append_nil]⟩
  · exact ⟨'/' :: '/' :: r, h.symm⟩

theorem not_hasMarker_beforeMarker (p : Text) : ¬ HasMarker (beforeMarker p) := by
  rcases beforeMarker_spec p with ⟨hn, h⟩ | ⟨r, -, hn⟩
  · rwa [h]
  · exact fun hm => hn (List.IsInfix.trans hm (List.prefix_append _ _).isInfix)

theorem beforeMarker_eq_self_iff (p : Text) : beforeMarker p = p ↔ ¬ HasMarker p := by
  constructor
  · intro h
    rw [← h]
    exact not_hasMarker_beforeMarker p
  · intro hn
    rcases beforeMarker_spec p with ⟨-, h⟩ | ⟨r, h, -⟩
    · exact h
    · exact absurd ⟨beforeMarker p, r, by rw [List.append_assoc]; exact h.symm⟩ hn

theorem canonicalize_of_layoutFree {s : Text} (h : LayoutFree s) :
    canonicalize s = beforeMarker s := by
  have hcut : LayoutFree (beforeMarker s) := fun c hc =>
    h c ((isPrefix_beforeMarker s).subset hc)
  rw [canonicalize_piece h.newline_not_mem, hcut.dropLayout_eq]

theorem dropComments_spaced (s : Text) : dropComments .code (spaced s) = spaced s := by
  induction s with
  | nil => rfl
  | cons c s ih =>
    have hspaced : spaced (c :: s) = c :: ' ' :: spaced s := rfl
    rw [hspaced, dropComments_code_cons (by simp), dropComments_code_cons (by simp), ih]

theorem dropLayout_spaced (s : Text) : dropLayout (spaced s) = dropLayout s := by
  induction s with
  | nil => rfl
  | cons c s ih =>
    have hspaced : spaced (c :: s) = [c] ++ ' ' :: spaced s := rfl
    have hblank : isLayout ' ' = true := by decide
    rw [hspaced, dropLayout_append, dropLayout_cons_of_layout hblank, ih, ← dropLayout_append,
      List.singleton_append]

theorem canonicalize_spaced {s : Text} (h : LayoutFree s) : canonicalize (spaced s) = s := by
  rw [canonicalize_eq_dropLayout, dropComments_spaced, dropLayout_spaced, h.dropLayout_eq]

theorem exists_canonicalize_eq_iff (s : Text) :
    (∃ t, canonicalize t = s) ↔ LayoutFree s := by
  constructor
  · rintro ⟨t, rfl⟩
    exact layoutFree_canonicalize t
  · intro h
    exact ⟨spaced s, canonicalize_spaced h⟩

/-- Taking the form twice cuts the form at its first marker, and a third time changes nothing.
The forms are the texts without terminators and blanks. -/
theorem canonicalize_twice (t : Text) :
    canonicalize (canonicalize t) = beforeMarker (canonicalize t) ∧
      (canonicalize (canonicalize t) = canonicalize t ↔ ¬ HasMarker (canonicalize t)) ∧
      canonicalize (canonicalize (canonicalize t)) = canonicalize (canonicalize t) ∧
      ∀ s, (∃ u, canonicalize u = s) ↔ ∀ c ∈ s, c ≠ ';' ∧ isBlank c = false := by
  have htwice : canonicalize (canonicalize t) = beforeMarker (canonicalize t) :=
    canonicalize_of_layoutFree (layoutFree_canonicalize t)
  refine ⟨htwice, ?_, ?_, fun s => ?_⟩
  · rw [htwice, beforeMarker_eq_self_iff]
  · rw [canonicalize_of_layoutFree (layoutFree_canonicalize (canonicalize t)),
      beforeMarker_eq_self_iff, htwice]
    exact not_hasMarker_beforeMarker _
  · rw [exists_canonicalize_eq_iff]
    simp [LayoutFree, isLayout, isTerminator]

example : canonicalize "a / /b".toList = "a//b".toList ∧
    canonicalize "a//b".toList = ['a'] := by decide

end LayoutCheck
