import LayoutCheck.Comparison
import LayoutCheck.Proofs.Text.Lines

/-! # Canonical forms line by line

The comment scan is a two-mode machine with one character of lookahead: the mode it ends in says how
it goes on, unless a slash on either side of the seam makes a new marker. The three passes over a
whole text agree with a reference that cuts every piece between newlines at its first marker and
drops the layout from what is left. -/

namespace LayoutCheck

open Text

def HasMarker (t : Text) : Prop := ['/', '/'] <:+: t

instance (t : Text) : Decidable (HasMarker t) :=
  inferInstanceAs (Decidable (_ <:+: _))

/-- The mode in which a scan leaves a text. -/
def modeAfter : ScanMode → Text → ScanMode
  | m, [] => m
  | .code, '/' :: '/' :: r => modeAfter .comment r
  | .code, _ :: r => modeAfter .code r
  | .comment, '\n' :: r => modeAfter .code r
  | .comment, _ :: r => modeAfter .comment r

@[simp] theorem dropComments_nil (m : ScanMode) : dropComments m [] = [] := by
  cases m <;> rfl

@[simp] theorem modeAfter_nil (m : ScanMode) : modeAfter m [] = m := by
  cases m <;> rfl

@[simp] theorem dropComments_marker (r : Text) :
    dropComments .code ('/' :: '/' :: r) = dropComments .comment r := rfl

@[simp] theorem modeAfter_marker (r : Text) :
    modeAfter .code ('/' :: '/' :: r) = modeAfter .comment r := rfl

@[simp] theorem dropComments_comment_newline (r : Text) :
    dropComments .comment ('\n' :: r) = '\n' :: dropComments .code r := rfl

@[simp] theorem modeAfter_comment_newline (r : Text) :
    modeAfter .comment ('\n' :: r) = modeAfter .code r := rfl

theorem dropComments_code_cons {c : Char} {r : Text} (h : c = '/' → r.head? ≠ some '/') :
    dropComments .code (c :: r) = c :: dropComments .code r := by
  rw [dropComments]
  rintro s rfl rfl
  exact h rfl rfl

theorem modeAfter_code_cons {c : Char} {r : Text} (h : c = '/' → r.head? ≠ some '/') :
    modeAfter .code (c :: r) = modeAfter .code r := by
  rw [modeAfter]
  rintro s rfl rfl
  exact h rfl rfl

theorem dropComments_comment_cons {c : Char} (h : c ≠ '\n') (r : Text) :
    dropComments .comment (c :: r) = dropComments .comment r := by
  rw [dropComments]
  exact h

theorem modeAfter_comment_cons {c : Char} (h : c ≠ '\n') (r : Text) :
    modeAfter .comment (c :: r) = modeAfter .comment r := by
  rw [modeAfter]
  exact h

/-- A scan resumes in the mode reached, if no marker lies across the seam. -/
theorem scan_append (m : ScanMode) (s t : Text)
    (h : s.getLast? = some '/' → t.head? = some '/' → modeAfter m s = .comment) :
    dropComments m (s ++ t) = dropComments m s ++ dropComments (modeAfter m s) t ∧
      modeAfter m (s ++ t) = modeAfter (modeAfter m s) t := by
  fun_induction modeAfter m s with
  | case1 m => simp
  | case2 r ih =>
    apply ih
    intro hs ht
    apply h _ ht
    simp [List.getLast?_cons, hs]
  | case3 c r hr ih =>
    have hc : c = '/' → r.head? ≠ some '/' := by
      rintro rfl hh
      obtain ⟨r', rfl⟩ := List.head?_eq_some_iff.mp hh
      exact hr r' rfl rfl
    have hct : c = '/' → (r ++ t).head? ≠ some '/' := by
      intro he hh
      cases r with
      | nil => simpa using h (by simp [he]) hh
      | cons d r => exact hc he hh
    have hi := ih (fun hs ht => h (by simp [List.getLast?_cons, hs]) ht)
    rw [List.cons_append, dropComments_code_cons hc, dropComments_code_cons hct,
      modeAfter_code_cons hct, hi.1, hi.2]
    exact ⟨rfl, rfl⟩
  | case4 r ih =>
    have hi := ih (fun hs ht => h (by simp [List.getLast?_cons, hs]) ht)
    simp [hi]
  | case5 c r hr ih =>
    have hi := ih (fun hs ht => h (by simp [List.getLast?_cons, hs]) ht)
    rw [List.cons_append, dropComments_comment_cons hr, dropComments_comment_cons hr,
      modeAfter_comment_cons hr]
    exact hi

theorem modeAfter_append_newline (m : ScanMode) (s t : Text) :
    modeAfter m (s ++ '\n' :: t) = modeAfter .code t := by
  rw [(scan_append m s ('\n' :: t) (by simp)).2]
  cases modeAfter m s with
  | code => exact modeAfter_code_cons (by simp)
  | comment => rfl

theorem dropComments_append_newline (m : ScanMode) (s t : Text) :
    dropComments m (s ++ '\n' :: t) = dropComments m s ++ '\n' :: dropComments .code t := by
  rw [(scan_append m s ('\n' :: t) (by simp)).1]
  cases modeAfter m s with
  | code => rw [dropComments_code_cons (by simp)]
  | comment => rfl

theorem scan_comment_of_no_newline {t : Text} (h : '\n' ∉ t) :
    dropComments .comment t = [] ∧ modeAfter .comment t = .comment := by
  induction t with
  | nil => exact ⟨rfl, rfl⟩
  | cons c r ih =>
    rw [List.mem_cons, not_or] at h
    rw [dropComments_comment_cons (Ne.symm h.1), modeAfter_comment_cons (Ne.symm h.1)]
    exact ih h.2

theorem scan_code_of_no_slash {t : Text} (h : '/' ∉ t) :
    dropComments .code t = t ∧ modeAfter .code t = .code := by
  induction t with
  | nil => exact ⟨rfl, rfl⟩
  | cons c r ih =>
    rw [List.mem_cons, not_or] at h
    have hc : c = '/' → r.head? ≠ some '/' := fun he => absurd he.symm h.1
    rw [dropComments_code_cons hc, modeAfter_code_cons hc, (ih h.2).1]
    exact ⟨rfl, (ih h.2).2⟩

theorem hasMarker_cons (c : Char) (r : Text) :
    HasMarker (c :: r) ↔ (c = '/' ∧ r.head? = some '/') ∨ HasMarker r := by
  unfold HasMarker
  rw [List.infix_cons_iff]
  cases r with
  | nil => simp
  | cons d r => simp [List.cons_prefix_cons, eq_comm]

theorem modeAfter_code_eq_comment_iff {t : Text} (h : '\n' ∉ t) :
    modeAfter .code t = .comment ↔ HasMarker t := by
  induction t with
  | nil => simp [HasMarker]
  | cons c r ih =>
    rw [List.mem_cons, not_or] at h
    rw [hasMarker_cons]
    by_cases hm : c = '/' ∧ r.head? = some '/'
    · obtain ⟨rfl, hr⟩ := hm
      obtain ⟨s, rfl⟩ := List.head?_eq_some_iff.mp hr
      have hs : '\n' ∉ s := fun hmem => h.2 (List.mem_cons_of_mem _ hmem)
      rw [modeAfter_marker, (scan_comment_of_no_newline hs).2]
      simp
    · rw [modeAfter_code_cons (fun hc hr => hm ⟨hc, hr⟩), ih h.2]
      simp [hm]

theorem modeAfter_code_eq_lastLine (t : Text) :
    modeAfter .code t = modeAfter .code (lastLine t) := by
  rcases lastLine_cases t with h | ⟨s, h⟩
  · rw [← h]
  · conv_lhs => rw [h]
    exact modeAfter_append_newline .code s (lastLine t)

theorem modeAfter_code_eq_comment_iff_lastLine (t : Text) :
    modeAfter .code t = .comment ↔ HasMarker (lastLine t) := by
  rw [modeAfter_code_eq_lastLine]
  exact modeAfter_code_eq_comment_iff (newline_not_mem_lastLine t)

theorem dropComments_code_eq_firstLine (t : Text) :
    dropComments .code t = dropComments .code (firstLine t) ++ dropComments .comment t := by
  have hf := (scan_comment_of_no_newline (newline_not_mem_firstLine t)).1
  rcases firstLine_cases t with h | ⟨s, h⟩
  · rw [← h] at hf ⊢
    rw [hf, List.append_nil]
  · have hc := dropComments_append_newline .code (firstLine t) s
    have hm := dropComments_append_newline .comment (firstLine t) s
    rw [← h] at hc hm
    rw [hc, hm, hf, List.nil_append]

theorem scan_slash_seam {m : ScanMode} {s : Text} (hs : s.getLast? = some '/')
    (hm : modeAfter m s = .code) : ∃ d, dropComments m s = d ++ ['/'] ∧
      ∀ t, dropComments m (s ++ '/' :: t) = d ++ dropComments .comment t := by
  fun_induction modeAfter m s with
  | case1 => simp at hs
  | case2 r ih =>
    cases r with
    | nil => simp at hm
    | cons d r => exact ih (by simpa [List.getLast?_cons_cons] using hs) hm
  | case3 c r hr ih =>
    cases r with
    | nil =>
      obtain rfl : c = '/' := by simpa using hs
      exact ⟨[], by rw [dropComments_code_cons (by simp)]; rfl, fun t => rfl⟩
    | cons e r =>
      obtain ⟨d, hd, ht⟩ := ih (by simpa [List.getLast?_cons_cons] using hs) hm
      have hc : c = '/' → e ≠ '/' := by
        rintro rfl rfl
        exact hr r rfl rfl
      refine ⟨c :: d, ?_, fun t => ?_⟩
      · rw [dropComments_code_cons (by simpa using hc), hd]
        rfl
      · rw [List.cons_append, dropComments_code_cons (by simpa using hc), ht t]
        rfl
  | case4 r ih =>
    cases r with
    | nil => simp at hs
    | cons e r =>
      obtain ⟨d, hd, ht⟩ := ih (by simpa [List.getLast?_cons_cons] using hs) hm
      exact ⟨'\n' :: d, by simp [hd], fun t => by simp [← ht t]⟩
  | case5 c r hr ih =>
    cases r with
    | nil => simp at hm
    | cons e r =>
      obtain ⟨d, hd, ht⟩ := ih (by simpa [List.getLast?_cons_cons] using hs) hm
      refine ⟨d, ?_, fun t => ?_⟩
      · rw [dropComments_comment_cons hr, hd]
      · rw [List.cons_append, dropComments_comment_cons hr, ht t]

def isLayout (c : Char) : Bool := isTerminator c || isBlank c

def dropLayout (t : Text) : Text := t.filter (!isLayout ·)

def LayoutFree (s : Text) : Prop := ∀ c ∈ s, isLayout c = false

instance (s : Text) : Decidable (LayoutFree s) := List.decidableBAll _ s

/-- A piece up to its first marker, or all of it. -/
def beforeMarker : Text → Text
  | [] => []
  | c :: r => if startsWith ['/', '/'] (c :: r) then [] else c :: beforeMarker r

def crlf (t : Text) : Text := joinWith ['\r', '\n'] (splitOn '\n' t)

@[simp] theorem dropLayout_nil : dropLayout [] = [] := rfl

@[simp] theorem dropLayout_append (s t : Text) :
    dropLayout (s ++ t) = dropLayout s ++ dropLayout t := by
  simp [dropLayout]

theorem dropLayout_cons_of_layout {c : Char} (h : isLayout c = true) (t : Text) :
    dropLayout (c :: t) = dropLayout t := by
  simp [dropLayout, h]

theorem dropLayout_eq_nil {t : Text} (h : ∀ c ∈ t, isLayout c = true) : dropLayout t = [] := by
  simpa [dropLayout] using h

theorem canonicalize_eq_dropLayout (t : Text) :
    canonicalize t = dropLayout (dropComments .code t) := by
  simp only [canonicalize, dropBlanks, dropTerminators, dropLayout, List.filter_filter]
  congr 1
  funext c
  rw [isLayout, Bool.not_or, Bool.and_comm]

theorem layoutFree_canonicalize (t : Text) : LayoutFree (canonicalize t) := by
  intro c hc
  rw [canonicalize_eq_dropLayout] at hc
  simpa using (List.mem_filter.mp hc).2

theorem LayoutFree.newline_not_mem {s : Text} (h : LayoutFree s) : '\n' ∉ s := by
  intro hn
  exact absurd (h '\n' hn) (by decide)

theorem startsWith_marker_iff (c : Char) (r : Text) :
    startsWith ['/', '/'] (c :: r) = true ↔ c = '/' ∧ r.head? = some '/' := by
  rw [startsWith, List.isPrefixOf_iff_prefix]
  cases r <;> simp [List.cons_prefix_cons, eq_comm]

theorem dropComments_eq_beforeMarker {p : Text} (h : '\n' ∉ p) :
    dropComments .code p = beforeMarker p := by
  induction p with
  | nil => rfl
  | cons c r ih =>
    rw [List.mem_cons, not_or] at h
    rw [beforeMarker]
    split
    · next hm =>
      obtain ⟨rfl, hr⟩ := (startsWith_marker_iff c r).mp hm
      obtain ⟨s, rfl⟩ := List.head?_eq_some_iff.mp hr
      exact (scan_comment_of_no_newline fun hs => h.2 (List.mem_cons_of_mem _ hs)).1
    · next hm =>
      rw [startsWith_marker_iff] at hm
      rw [dropComments_code_cons fun hc hr => hm ⟨hc, hr⟩, ih h.2]

theorem beforeMarker_spec (p : Text) :
    (¬ HasMarker p ∧ beforeMarker p = p) ∨
      ∃ r, p = beforeMarker p ++ '/' :: '/' :: r ∧ ¬ HasMarker (beforeMarker p ++ ['/']) := by
  induction p with
  | nil => exact Or.inl ⟨by simp [HasMarker], rfl⟩
  | cons c r ih =>
    rw [beforeMarker, hasMarker_cons]
    split
    · next hm =>
      obtain ⟨rfl, hr⟩ := (startsWith_marker_iff c r).mp hm
      obtain ⟨s, rfl⟩ := List.head?_eq_some_iff.mp hr
      exact Or.inr ⟨s, rfl, by decide⟩
    · next hm =>
      rw [startsWith_marker_iff] at hm
      rcases ih with ⟨hn, hb⟩ | ⟨s, hs, hn⟩
      · exact Or.inl ⟨not_or.mpr ⟨hm, hn⟩, by rw [hb]⟩
      · refine Or.inr ⟨s, by rw [List.cons_append, ← hs], ?_⟩
        rw [List.cons_append, hasMarker_cons]
        rintro (⟨hc, hh⟩ | hh)
        · apply hm ⟨hc, ?_⟩
          rw [hs, List.head?_append]
          rwa [List.head?_append] at hh
        · exact hn hh

theorem canonicalize_append_newline (s t : Text) :
    canonicalize (s ++ '\n' :: t) = canonicalize s ++ canonicalize t := by
  rw [canonicalize_eq_dropLayout, dropComments_append_newline, dropLayout_append,
    dropLayout_cons_of_layout (by decide)]
  simp only [canonicalize_eq_dropLayout]

theorem canonicalize_joinWith {sep : Text}
    (hsep : ∀ s t, canonicalize (s ++ sep ++ t) = canonicalize s ++ canonicalize t)
    (ps : List Text) : canonicalize (joinWith sep ps) = ps.flatMap canonicalize := by
  induction ps with
  | nil => rfl
  | cons p ps ih =>
    by_cases h : ps = []
    · subst h; simp
    · rw [joinWith_cons _ _ h, hsep, ih, List.flatMap_cons]

theorem canonicalize_joinWith_newline (ps : List Text) :
    canonicalize (joinWith ['\n'] ps) = ps.flatMap canonicalize := by
  apply canonicalize_joinWith
  intro s t
  rw [List.append_assoc, List.singleton_append, canonicalize_append_newline]

theorem canonicalize_eq_flatMap_pieces (t : Text) :
    canonicalize t = (splitOn '\n' t).flatMap canonicalize := by
  conv_lhs => rw [← joinWith_splitOn '\n' t]
  exact canonicalize_joinWith_newline _

theorem canonicalize_piece {p : Text} (h : '\n' ∉ p) :
    canonicalize p = dropLayout (beforeMarker p) := by
  rw [canonicalize_eq_dropLayout, dropComments_eq_beforeMarker h]

theorem canonicalize_append_return (p : Text) : canonicalize (p ++ ['\r']) = canonicalize p := by
  rw [canonicalize_eq_dropLayout, (scan_append .code p ['\r'] (by simp)).1, dropLayout_append,
    ← canonicalize_eq_dropLayout]
  cases modeAfter .code p <;> simp [dropComments, dropLayout, isLayout, isBlank, blankRanges]

theorem canonicalize_dropReturn (p : Text) : canonicalize (dropReturn p) = canonicalize p := by
  rcases dropReturn_cases p with h | h
  · rw [h]
  · conv_rhs => rw [h]
    exact (canonicalize_append_return _).symm

theorem canonicalize_linesOfPieces (ps : List Text) :
    (linesOfPieces ps).flatMap canonicalize = ps.flatMap canonicalize := by
  fun_induction linesOfPieces ps with
  | case1 => rfl
  | case2 => rfl
  | case3 p h => simp
  | case4 p q ps ih => rw [List.flatMap_cons, List.flatMap_cons, ih, canonicalize_dropReturn]

theorem canonicalize_eq_flatMap_lines (t : Text) :
    canonicalize t = t.lines.flatMap canonicalize := by
  rw [lines, canonicalize_linesOfPieces]
  exact canonicalize_eq_flatMap_pieces t

theorem canonicalize_crlf (t : Text) : canonicalize (crlf t) = canonicalize t := by
  rw [crlf, canonicalize_eq_flatMap_pieces t]
  apply canonicalize_joinWith
  intro p q
  have hsep : p ++ ['\r', '\n'] ++ q = (p ++ ['\r']) ++ '\n' :: q := by simp
  rw [hsep, canonicalize_append_newline, canonicalize_append_return]

/-- Whole-text passes equal the line-by-line reference; hence forms are put together line
by line, and neither the kind of line ending nor a final one matters. -/
theorem canonicalize_line_by_line (s t : Text) :
    canonicalize t = (splitOn '\n' t).flatMap (fun p =>
        (beforeMarker p).filter fun c => !(c == ';') && !isBlank c) ∧
      canonicalize (s ++ '\n' :: t) = canonicalize s ++ canonicalize t ∧
      canonicalize t = t.lines.flatMap canonicalize ∧
      canonicalize (crlf t) = canonicalize t ∧
      canonicalize (t ++ ['\n']) = canonicalize t := by
  refine ⟨?_, canonicalize_append_newline s t, canonicalize_eq_flatMap_lines t,
    canonicalize_crlf t, ?_⟩
  · rw [canonicalize_eq_flatMap_pieces]
    apply List.flatMap_congr
    intro p hp
    rw [canonicalize_piece (not_mem_of_mem_splitOn hp)]
    simp [dropLayout, isLayout, isTerminator]
  · rw [canonicalize_append_newline]
    exact List.append_nil _

example : canonicalize "a ///; b\r\nc / / d;".toList = "ac//d".toList := by decide

end LayoutCheck
