import LayoutCheck.Text
import Mathlib.Data.List.DropRight
import Mathlib.Data.List.TakeWhile

/-! # Pieces and lines

Splitting at a separator loses nothing and leaves no separator in a piece. Trimming takes blanks
from an end and nothing else, and the two ends do not meet: they may be trimmed in either order. -/

namespace LayoutCheck.Text

@[simp] theorem splitOn_nil (sep : Char) : splitOn sep [] = [[]] := rfl

@[simp] theorem splitOn_cons_sep (sep : Char) (t : Text) :
    splitOn sep (sep :: t) = [] :: splitOn sep t := by
  simp [splitOn]

theorem splitOn_cons {sep c : Char} (h : c ≠ sep) (t : Text) :
    splitOn sep (c :: t) = consPiece c (splitOn sep t) := by
  simp [splitOn, h]

theorem splitOn_ne_nil (sep : Char) (t : Text) : splitOn sep t ≠ [] := by
  cases t with
  | nil => simp
  | cons c r =>
    by_cases h : c = sep
    · subst h; simp
    · rw [splitOn_cons h]
      cases splitOn sep r <;> simp [consPiece]

theorem exists_splitOn_eq_cons (sep : Char) (t : Text) : ∃ p ps, splitOn sep t = p :: ps :=
  List.exists_cons_of_ne_nil (splitOn_ne_nil sep t)

theorem not_mem_of_mem_splitOn {sep : Char} {t p : Text} (h : p ∈ splitOn sep t) : sep ∉ p := by
  induction t generalizing p with
  | nil => rw [splitOn_nil, List.mem_singleton] at h; simp [h]
  | cons c r ih =>
    by_cases hc : c = sep
    · subst hc
      rw [splitOn_cons_sep] at h
      rcases List.mem_cons.mp h with rfl | h
      · simp
      · exact ih h
    · obtain ⟨q, qs, hq⟩ := exists_splitOn_eq_cons sep r
      rw [splitOn_cons hc, hq] at h
      rcases List.mem_cons.mp h with rfl | h
      · have := ih (p := q) (by simp [hq])
        simpa [Ne.symm hc] using this
      · exact ih (by simp [hq, h])

@[simp] theorem joinWith_singleton (sep p : Text) : joinWith sep [p] = p := rfl

theorem joinWith_cons (sep p : Text) {ps : List Text} (h : ps ≠ []) :
    joinWith sep (p :: ps) = p ++ sep ++ joinWith sep ps := by
  cases ps with
  | nil => exact absurd rfl h
  | cons => rfl

theorem joinWith_consPiece (sep : Text) (c : Char) {ps : List Text} (h : ps ≠ []) :
    joinWith sep (consPiece c ps) = c :: joinWith sep ps := by
  obtain ⟨p, ps, rfl⟩ := List.exists_cons_of_ne_nil h
  cases ps <;> rfl

theorem joinWith_splitOn (sep : Char) (t : Text) : joinWith [sep] (splitOn sep t) = t := by
  induction t with
  | nil => rfl
  | cons c r ih =>
    by_cases hc : c = sep
    · subst hc
      rw [splitOn_cons_sep, joinWith_cons _ _ (splitOn_ne_nil c r), ih]
      rfl
    · rw [splitOn_cons hc, joinWith_consPiece _ _ (splitOn_ne_nil sep r), ih]

theorem dropReturn_cases (p : Text) : dropReturn p = p ∨ p = dropReturn p ++ ['\r'] := by
  fun_induction dropReturn p with
  | case1 => exact Or.inl rfl
  | case2 => exact Or.inr rfl
  | case3 c r _ ih =>
    rcases ih with ih | ih
    · exact Or.inl (by rw [ih])
    · exact Or.inr (by rw [List.cons_append, ← ih])

theorem mem_pieces_of_mem_linesOfPieces {ps : List Text} {l : Text} (h : l ∈ linesOfPieces ps) :
    ∃ p ∈ ps, l = p ∨ p = l ++ ['\r'] := by
  fun_induction linesOfPieces ps with
  | case1 => cases h
  | case2 => cases h
  | case3 p hp => exact ⟨p, List.mem_cons_self, Or.inl (List.mem_singleton.mp h)⟩
  | case4 p q ps ih =>
    rcases List.mem_cons.mp h with rfl | h
    · refine ⟨p, List.mem_cons_self, ?_⟩
      rcases dropReturn_cases p with hp | hp
      · exact Or.inl hp
      · exact Or.inr hp
    · obtain ⟨r, hr, hl⟩ := ih h
      exact ⟨r, List.mem_cons_of_mem _ hr, hl⟩

theorem newline_not_mem_of_mem_lines {t l : Text} (h : l ∈ lines t) : '\n' ∉ l := by
  obtain ⟨p, hp, hl⟩ := mem_pieces_of_mem_linesOfPieces h
  have hn := not_mem_of_mem_splitOn hp
  rcases hl with rfl | rfl
  · exact hn
  · intro hmem
    exact hn (List.mem_append_left _ hmem)

/-- The lines of a text, each ended by a newline. -/
def unlines (ls : List Text) : Text := ls.flatMap fun l => l ++ ['\n']

@[simp] theorem unlines_nil : unlines [] = [] := rfl

@[simp] theorem unlines_cons (l : Text) (ls : List Text) :
    unlines (l :: ls) = l ++ '\n' :: unlines ls := by
  simp [unlines]

@[simp] theorem unlines_append (ls ms : List Text) :
    unlines (ls ++ ms) = unlines ls ++ unlines ms := by
  simp [unlines]

theorem unlines_flatMap {α : Type*} (f : α → List Text) (as : List α) :
    unlines (as.flatMap f) = as.flatMap fun a => unlines (f a) := by
  simp [unlines, List.flatMap_assoc]

theorem splitOn_append_sep {sep : Char} {p : Text} (h : sep ∉ p) (t : Text) :
    splitOn sep (p ++ sep :: t) = p :: splitOn sep t := by
  induction p with
  | nil => exact splitOn_cons_sep sep t
  | cons c p ih =>
    rw [List.mem_cons, not_or] at h
    rw [List.cons_append, splitOn_cons (Ne.symm h.1), ih h.2]
    rfl

theorem splitOn_of_not_mem {sep : Char} {p : Text} (h : sep ∉ p) : splitOn sep p = [p] := by
  induction p with
  | nil => rfl
  | cons c p ih =>
    rw [List.mem_cons, not_or] at h
    rw [splitOn_cons (Ne.symm h.1), ih h.2]
    rfl

theorem splitOn_joinWith {sep : Char} {ps : List Text} (hne : ps ≠ []) (h : ∀ p ∈ ps, sep ∉ p) :
    splitOn sep (joinWith [sep] ps) = ps := by
  induction ps with
  | nil => exact absurd rfl hne
  | cons p ps ih =>
    obtain ⟨hp, hps⟩ := List.forall_mem_cons.mp h
    by_cases hlast : ps = []
    · subst hlast
      exact splitOn_of_not_mem hp
    · rw [joinWith_cons _ _ hlast, List.append_assoc, List.singleton_append,
        splitOn_append_sep hp, ih hlast hps]

theorem joinWith_eq_nil_iff (sep : Char) (ps : List Text) :
    joinWith [sep] ps = [] ↔ ps = [] ∨ ps = [[]] := by
  match ps with
  | [] => simp [joinWith]
  | [p] => simp
  | p :: q :: ps => simp [joinWith_cons]

theorem splitOn_unlines {ls : List Text} (h : ∀ l ∈ ls, '\n' ∉ l) :
    splitOn '\n' (unlines ls) = ls ++ [[]] := by
  induction ls with
  | nil => rfl
  | cons l ls ih =>
    have hl := h l List.mem_cons_self
    have hls := ih fun m hm => h m (List.mem_cons_of_mem _ hm)
    rw [unlines_cons, splitOn_append_sep hl, hls, List.cons_append]

def lastLine (t : Text) : Text := t.rtakeWhile (· != '\n')

def firstLine (t : Text) : Text := t.takeWhile (· != '\n')

theorem newline_not_mem_lastLine (t : Text) : '\n' ∉ lastLine t := by
  intro h
  simpa using List.mem_rtakeWhile_imp h

theorem newline_not_mem_firstLine (t : Text) : '\n' ∉ firstLine t := by
  intro h
  simpa using List.mem_takeWhile_imp h

theorem lastLine_cases (t : Text) : t = lastLine t ∨ ∃ s, t = s ++ '\n' :: lastLine t := by
  induction t using List.reverseRecOn with
  | nil => exact Or.inl rfl
  | append_singleton s c ih =>
    by_cases hc : c = '\n'
    · subst hc
      exact Or.inr ⟨s, by simp [lastLine]⟩
    · have hl : lastLine (s ++ [c]) = lastLine s ++ [c] := by
        simp [lastLine, hc]
      rw [hl]
      rcases ih with ih | ⟨a, ih⟩
      · exact Or.inl (by rw [← ih])
      · exact Or.inr ⟨a, by rw [← List.cons_append, ← List.append_assoc, ← ih]⟩

theorem firstLine_cases (t : Text) : t = firstLine t ∨ ∃ s, t = firstLine t ++ '\n' :: s := by
  induction t with
  | nil => exact Or.inl rfl
  | cons c r ih =>
    by_cases hc : c = '\n'
    · subst hc
      exact Or.inr ⟨r, by simp [firstLine]⟩
    · have hf : firstLine (c :: r) = c :: firstLine r := by simp [firstLine, hc]
      rw [hf]
      rcases ih with ih | ⟨s, ih⟩
      · exact Or.inl (by rw [← ih])
      · exact Or.inr ⟨s, by rw [List.cons_append, ← ih]⟩

def startsBlank (t : Text) : Bool := t.head?.any isBlank

def endsBlank (t : Text) : Bool := t.getLast?.any isBlank

theorem head?_dropWhile_any (p : Char → Bool) (t : Text) : (t.dropWhile p).head?.any p = false := by
  have hhead := List.head?_dropWhile_not p t
  cases h : (t.dropWhile p).head? with
  | none => rfl
  | some c =>
    rw [h] at hhead
    exact hhead

theorem dropWhile_eq_self_iff {p : Char → Bool} {t : Text} :
    t.dropWhile p = t ↔ t.head?.any p = false := by
  rw [List.dropWhile_eq_self_iff]
  cases t <;> simp

@[simp] theorem trimLeft_nil : trimLeft [] = [] := rfl

theorem trimLeft_cons_of_blank {c : Char} (h : isBlank c = true) (t : Text) :
    trimLeft (c :: t) = trimLeft t :=
  List.dropWhile_cons_of_pos h

theorem trimLeft_cons_of_not_blank {c : Char} (h : isBlank c = false) (t : Text) :
    trimLeft (c :: t) = c :: t :=
  List.dropWhile_cons_of_neg (by simp [h])

theorem trimLeft_suffix (t : Text) : trimLeft t <:+ t := List.dropWhile_suffix isBlank

theorem trimLeft_eq_self_iff {t : Text} : trimLeft t = t ↔ startsBlank t = false :=
  dropWhile_eq_self_iff

theorem startsBlank_trimLeft (t : Text) : startsBlank (trimLeft t) = false :=
  head?_dropWhile_any isBlank t

@[simp] theorem trimRight_nil : trimRight [] = [] := rfl

theorem trimRight_cons (c : Char) (t : Text) :
    trimRight (c :: t) = if trimRight t = [] ∧ isBlank c = true then [] else c :: trimRight t := by
  simp only [trimRight, List.reverse_cons, List.dropWhile_append, List.isEmpty_iff,
    List.reverse_eq_nil_iff]
  by_cases ht : t.reverse.dropWhile isBlank = []
  · by_cases hc : isBlank c = true <;> simp [ht, hc]
  · simp [ht]

theorem trimRight_cons_of_not_blank {c : Char} (h : isBlank c = false) (t : Text) :
    trimRight (c :: t) = c :: trimRight t := by
  simp [trimRight_cons, h]

theorem trimRight_eq_self_iff {t : Text} : trimRight t = t ↔ endsBlank t = false := by
  rw [trimRight, List.reverse_eq_iff, dropWhile_eq_self_iff, List.head?_reverse]
  rfl

theorem endsBlank_trimRight (t : Text) : endsBlank (trimRight t) = false := by
  rw [endsBlank, trimRight, List.getLast?_reverse]
  exact head?_dropWhile_any isBlank t.reverse

theorem trimRight_eq_nil_iff {t : Text} : trimRight t = [] ↔ t.all isBlank = true := by
  simp [trimRight, List.dropWhile_eq_nil_iff]

theorem startsBlank_trimRight_iff {t : Text} :
    startsBlank (trimRight t) = false ↔ startsBlank t = false ∨ t.all isBlank = true := by
  rw [← trimRight_eq_nil_iff]
  cases t with
  | nil => simp [startsBlank]
  | cons c t =>
    rw [trimRight_cons]
    split
    · simp [startsBlank]
    · simp [startsBlank]

theorem trimRight_trimLeft (t : Text) : trimRight (trimLeft t) = trimLeft (trimRight t) := by
  induction t with
  | nil => rfl
  | cons c t ih =>
    by_cases hc : isBlank c = true
    · rw [trimLeft_cons_of_blank hc, ih, trimRight_cons]
      split
      · next h => rw [h.1]
      · rw [trimLeft_cons_of_blank hc]
    · rw [trimLeft_cons_of_not_blank (by simpa using hc),
        trimRight_cons_of_not_blank (by simpa using hc),
        trimLeft_cons_of_not_blank (by simpa using hc)]

theorem startsBlank_trim (t : Text) : startsBlank (trim t) = false := by
  rw [trim, trimRight_trimLeft]
  exact startsBlank_trimLeft _

theorem endsBlank_trim (t : Text) : endsBlank (trim t) = false := endsBlank_trimRight _

theorem endsBlank_of_suffix {s t : Text} (h : s <:+ t) (ht : endsBlank t = false) :
    endsBlank s = false := by
  obtain ⟨p, rfl⟩ := h
  cases s with
  | nil => rfl
  | cons c s =>
    rw [endsBlank, List.getLast?_append, List.getLast?_cons] at ht
    rw [endsBlank, List.getLast?_cons]
    exact ht

theorem dropLead?_eq_some_iff (p t rest : Text) : dropLead? p t = some rest ↔ t = p ++ rest := by
  fun_induction dropLead? p t with
  | case1 t => simp
  | case2 => simp
  | case3 ps c cs ih => simp [ih]
  | case4 p ps c cs hne => simp [Ne.symm hne]

end LayoutCheck.Text
