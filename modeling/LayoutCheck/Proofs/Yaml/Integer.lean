import LayoutCheck.Proofs.Text.Lines
import LayoutCheck.Yaml.Resolution
import Mathlib.Data.List.Induction

/-! # How integers are spelled

The syntax of integers, as a relation between texts and numbers. What is read as an unsigned number
is what is spelled as an integer in the range, without a minus sign. -/

namespace LayoutCheck.Yaml

inductive Numeral (radix : Nat) : Text → Nat → Prop where
  | digit {d : Char} {v : Nat} : hexValue? d = some v → v < radix → Numeral radix [d] v
  | snoc {ds : Text} {n : Nat} {d : Char} {v : Nat} : Numeral radix ds n →
      hexValue? d = some v → v < radix → Numeral radix (ds ++ [d]) (n * radix + v)

/-- A number without a sign: decimal without leading zeros, or behind a radix mark. -/
inductive Magnitude : Text → Nat → Prop where
  | decimal {ds : Text} {n : Nat} : Numeral 10 ds n → (ds.head? = some '0' → ds = ['0']) →
      Magnitude ds n
  | marked {mark ds : Text} {radix n : Nat} : (mark, radix) ∈ radixMarks → Numeral radix ds n →
      Magnitude (mark ++ ds) n

/-- An integer, with an optional sign. -/
inductive Spells : Text → Int → Prop where
  | bare {t : Text} {n : Nat} : Magnitude t n → Spells t n
  | plus {t : Text} {n : Nat} : Magnitude t n → Spells ('+' :: t) n
  | minus {t : Text} {n : Nat} : Magnitude t n → Spells ('-' :: t) (-n)

namespace Numeral

variable {radix : Nat} {t : Text} {n : Nat}

theorem ne_nil (h : Numeral radix t n) : t ≠ [] := by
  cases h with
  | digit _ _ => exact List.cons_ne_nil _ _
  | snoc _ _ _ => exact List.append_ne_nil_of_right_ne_nil _ (List.cons_ne_nil _ _)

theorem exists_value (h : Numeral radix t n) {c : Char} (hc : c ∈ t) :
    ∃ v, hexValue? c = some v ∧ v < radix := by
  induction h with
  | digit hv hlt =>
    obtain rfl := List.mem_singleton.mp hc
    exact ⟨_, hv, hlt⟩
  | snoc _ hv hlt ih =>
    rcases List.mem_append.mp hc with hc | hc
    · exact ih hc
    · obtain rfl := List.mem_singleton.mp hc
      exact ⟨_, hv, hlt⟩

end Numeral

theorem isDigit_of_hexValue? {c : Char} {v : Nat} (h : hexValue? c = some v) (hv : v < 10) :
    c.isDigit = true := by
  unfold hexValue? at h
  split at h
  · next hc => simpa [Char.isDigit, Char.le_def] using hc
  -- a letter stands for ten at least
  · split at h
    · next hc =>
      have hletter : 97 ≤ c.toNat := hc.1
      have hvalue := Option.some.inj h
      omega
    · split at h
      · next hc =>
        have hletter : 65 ≤ c.toNat := hc.1
        have hvalue := Option.some.inj h
        omega
      · cases h

def addDigit? (radix : Nat) (number : Option Nat) (d : Char) : Option Nat := do
  let n ← number
  let v ← hexValue? d
  if v < radix then some (n * radix + v) else none

theorem addDigit?_eq_some_iff (radix : Nat) (number : Option Nat) (d : Char) (n : Nat) :
    addDigit? radix number d = some n ↔
      ∃ m v, number = some m ∧ hexValue? d = some v ∧ v < radix ∧ m * radix + v = n := by
  simp only [addDigit?, Option.bind_eq_bind, Option.bind_eq_some_iff, Option.ite_none_right_eq_some,
    Option.some.injEq]
  constructor
  · rintro ⟨m, hm, v, hv, hlt, rfl⟩
    exact ⟨m, v, hm, hv, hlt, rfl⟩
  · rintro ⟨m, v, hm, hv, hlt, rfl⟩
    exact ⟨m, hm, v, hv, hlt, rfl⟩

theorem Numeral.concat_iff {radix : Nat} {ds : Text} {d : Char} {n : Nat} :
    Numeral radix (ds ++ [d]) n ↔ ∃ m v, (ds = [] ∧ m = 0 ∨ Numeral radix ds m) ∧
      hexValue? d = some v ∧ v < radix ∧ m * radix + v = n := by
  constructor
  · intro h
    generalize ht : ds ++ [d] = t at h
    cases h with
    | digit hv hlt =>
      obtain ⟨rfl, hd⟩ := List.append_inj' (ht.trans (List.nil_append _).symm) rfl
      obtain rfl := List.singleton_inj.mp hd
      exact ⟨0, _, .inl ⟨rfl, rfl⟩, hv, hlt, by rw [Nat.zero_mul, Nat.zero_add]⟩
    | snoc hds hv hlt =>
      obtain ⟨rfl, hd⟩ := List.append_inj' ht rfl
      obtain rfl := List.singleton_inj.mp hd
      exact ⟨_, _, .inr hds, hv, hlt, rfl⟩
  · rintro ⟨m, v, ⟨rfl, rfl⟩ | hds, hv, hlt, rfl⟩
    · rw [Nat.zero_mul, Nat.zero_add]
      exact .digit hv hlt
    · exact .snoc hds hv hlt

theorem foldl_addDigit?_eq_some_iff (radix : Nat) (t : Text) (n : Nat) :
    t.foldl (addDigit? radix) (some 0) = some n ↔ t = [] ∧ n = 0 ∨ Numeral radix t n := by
  induction t using List.reverseRecOn generalizing n with
  | nil =>
    rw [List.foldl_nil, Option.some_inj, eq_comm (a := 0), or_iff_left fun h => h.ne_nil rfl,
      and_iff_right rfl]
  | append_singleton ds d ih =>
    rw [List.foldl_append, List.foldl_cons, List.foldl_nil, addDigit?_eq_some_iff,
      Numeral.concat_iff]
    simp only [ih, List.append_eq_nil_iff, List.cons_ne_self, and_false, false_and, false_or]

theorem digits?_eq_some_iff (radix : Nat) (t : Text) (n : Nat) :
    digits? radix t = some n ↔ Numeral radix t n := by
  have heq : digits? radix t = if t.isEmpty then none else t.foldl (addDigit? radix) (some 0) := rfl
  rw [heq]
  cases t with
  | nil => exact ⟨nofun, fun h => absurd rfl h.ne_nil⟩
  | cons d ds =>
    rw [if_neg (by simp), foldl_addDigit?_eq_some_iff]
    exact or_iff_right fun h => nomatch h.1

theorem startsWithSign_eq_false {t : Text} {radix n : Nat} (h : Numeral radix t n) :
    startsWithSign t = false := by
  obtain ⟨c, cs, rfl⟩ := List.exists_cons_of_ne_nil h.ne_nil
  obtain ⟨v, hv, -⟩ := h.exists_value List.mem_cons_self
  have hsign : c ≠ '+' ∧ c ≠ '-' := by
    constructor <;> rintro rfl <;> cases hv
  simp [startsWithSign, hsign.1, hsign.2]

theorem hasLeadingZero_eq_true_iff {t : Text} (h : startsWithSign t = false) :
    hasLeadingZero t = true ↔ ∃ d ds, t = '0' :: d :: ds ∧ (d :: ds).all Char.isDigit = true := by
  simp only [hasLeadingZero, h, Bool.false_eq_true, if_false]
  split
  · next d ds =>
    exact ⟨fun hall => ⟨d, ds, rfl, hall⟩, fun ⟨_, _, heq, hall⟩ => by cases heq; exact hall⟩
  · next hother =>
    exact ⟨nofun, fun ⟨d, ds, heq, _⟩ => (hother d ds heq).elim⟩

theorem hasLeadingZero_eq_false_iff {t : Text} {n : Nat} (h : Numeral 10 t n) :
    hasLeadingZero t = false ↔ (t.head? = some '0' → t = ['0']) := by
  have hall : ∀ c ∈ t, c.isDigit = true := by
    intro c hc
    obtain ⟨v, hv, hlt⟩ := h.exists_value hc
    exact isDigit_of_hexValue? hv hlt
  rw [← Bool.not_eq_true, hasLeadingZero_eq_true_iff (startsWithSign_eq_false h)]
  constructor
  · intro hlead hhead
    obtain ⟨c, cs, rfl⟩ := List.exists_cons_of_ne_nil h.ne_nil
    obtain rfl : c = '0' := Option.some.inj hhead
    cases cs with
    | nil => rfl
    | cons d ds =>
      refine (hlead ⟨d, ds, rfl, List.all_eq_true.mpr fun c hc => ?_⟩).elim
      exact hall c (List.mem_cons_of_mem _ hc)
  · rintro hshort ⟨d, ds, rfl, -⟩
    cases hshort rfl

theorem hasLeadingZero_plus (t : Text) (h : startsWithSign t = false) :
    hasLeadingZero ('+' :: t) = hasLeadingZero t := by
  unfold hasLeadingZero
  rw [h]
  rfl

theorem mem_radixMarks_iff {mark : Text} {radix : Nat} :
    (mark, radix) ∈ radixMarks ↔ mark = "0x".toList ∧ radix = 16 ∨
      mark = "0o".toList ∧ radix = 8 ∨ mark = "0b".toList ∧ radix = 2 := by
  simp only [radixMarks, List.mem_cons, List.not_mem_nil, or_false, Prod.mk.injEq]

theorem radixMark?_eq_some_iff (t : Text) (radix : Nat) (ds : Text) :
    radixMark? t = some (radix, ds) ↔ ∃ mark, (mark, radix) ∈ radixMarks ∧ t = mark ++ ds := by
  constructor
  · intro h
    obtain ⟨m, hm, hdrop⟩ := List.exists_of_findSome?_eq_some h
    obtain ⟨rest, hrest, heq⟩ := Option.map_eq_some_iff.mp hdrop
    obtain ⟨rfl, rfl⟩ := Prod.mk.inj heq
    exact ⟨m.1, hm, (Text.dropLead?_eq_some_iff _ _ _).mp hrest⟩
  · rintro ⟨mark, hmem, rfl⟩
    rcases mem_radixMarks_iff.mp hmem with ⟨rfl, rfl⟩ | ⟨rfl, rfl⟩ | ⟨rfl, rfl⟩ <;> rfl

theorem radixMark?_eq_none {t : Text} {n : Nat} (h : Numeral 10 t n) : radixMark? t = none := by
  rw [Option.eq_none_iff_forall_ne_some]
  rintro ⟨radix, ds⟩ hmark
  obtain ⟨mark, hmem, rfl⟩ := (radixMark?_eq_some_iff _ _ _).mp hmark
  obtain ⟨letter, hletter, hvalue⟩ :
      ∃ letter ∈ mark, ∀ v, hexValue? letter = some v → 10 ≤ v := by
    rcases mem_radixMarks_iff.mp hmem with ⟨rfl, -⟩ | ⟨rfl, -⟩ | ⟨rfl, -⟩
    · exact ⟨'x', by decide, by decide⟩
    · exact ⟨'o', by decide, by decide⟩
    · exact ⟨'b', by decide, by decide⟩
  obtain ⟨v, hv, hlt⟩ := h.exists_value (List.mem_append_left _ hletter)
  exact absurd (hvalue v hv) (Nat.not_le_of_lt hlt)

theorem magnitude_iff {t body : Text} {n : Nat} (h : t = body ∨ t = '+' :: body) :
    (match radixMark? body with
      | some (radix, ds) => digits? radix ds
      | none => if hasLeadingZero t then none else digits? 10 body) = some n ↔
    Magnitude body n := by
  cases hmark : radixMark? body with
  | some m =>
    obtain ⟨radix, ds⟩ := m
    dsimp only
    rw [digits?_eq_some_iff]
    constructor
    · intro hds
      obtain ⟨mark, hmem, rfl⟩ := (radixMark?_eq_some_iff _ _ _).mp hmark
      exact .marked hmem hds
    · rintro (⟨hds, -⟩ | ⟨hmem, hds⟩)
      · rw [radixMark?_eq_none hds] at hmark
        cases hmark
      · rw [(radixMark?_eq_some_iff _ _ _).mpr ⟨_, hmem, rfl⟩] at hmark
        obtain ⟨rfl, rfl⟩ := Prod.mk.inj (Option.some.inj hmark)
        exact hds
  | none =>
    dsimp only
    rw [Option.ite_none_left_eq_some, digits?_eq_some_iff, Bool.not_eq_true]
    have hzero : Numeral 10 body n → hasLeadingZero t = hasLeadingZero body := by
      intro hds
      rcases h with rfl | rfl
      · rfl
      · exact hasLeadingZero_plus body (startsWithSign_eq_false hds)
    constructor
    · rintro ⟨hlead, hds⟩
      rw [hzero hds] at hlead
      exact .decimal hds ((hasLeadingZero_eq_false_iff hds).mp hlead)
    · rintro (⟨hds, hlead⟩ | ⟨hmem, -⟩)
      · rw [hzero hds]
        exact ⟨(hasLeadingZero_eq_false_iff hds).mpr hlead, hds⟩
      · rw [(radixMark?_eq_some_iff _ _ _).mpr ⟨_, hmem, rfl⟩] at hmark
        cases hmark

theorem Magnitude.startsWithSign_eq_false {t : Text} {n : Nat} (h : Magnitude t n) :
    startsWithSign t = false := by
  cases h with
  | decimal hds _ => exact Yaml.startsWithSign_eq_false hds
  | marked hmem _ =>
    rcases mem_radixMarks_iff.mp hmem with ⟨rfl, -⟩ | ⟨rfl, -⟩ | ⟨rfl, -⟩ <;> rfl

theorem Spells.magnitude_of_plus {t : Text} {n : Nat} (h : Spells ('+' :: t) n) :
    Magnitude t n := by
  generalize hz : (n : Int) = z at h
  cases h with
  | bare hm => cases hm.startsWithSign_eq_false
  | plus hm => exact Int.ofNat.inj hz ▸ hm

theorem Spells.magnitude {t : Text} {n : Nat} (h : Spells t n) (ht : startsWithSign t = false) :
    Magnitude t n := by
  generalize hz : (n : Int) = z at h
  cases h with
  | bare hm => exact Int.ofNat.inj hz ▸ hm
  | plus _ => cases ht
  | minus _ => cases ht

/-- A number is read exactly where it is spelled as an integer in the range, without a minus
sign. -/
theorem unsigned?_eq_some_iff (bound : Nat) (t : Text) (n : Nat) :
    unsigned? bound t = some n ↔ Spells t n ∧ n < bound ∧ t.head? ≠ some '-' := by
  rw [unsigned?, Option.filter_eq_some_iff, decide_eq_true_iff, and_comm (a := n < bound),
    ← and_assoc]
  refine and_congr_left fun _ => ?_
  by_cases hplus : t.head? = some '+'
  · obtain ⟨body, rfl⟩ := List.head?_eq_some_iff.mp hplus
    exact (magnitude_iff (.inr rfl)).trans
      ⟨fun hm => ⟨.plus hm, nofun⟩, fun h => h.1.magnitude_of_plus⟩
  · have hbody : (Text.dropLead? ['+'] t).getD t = t := by
      cases hdrop : Text.dropLead? ['+'] t with
      | none => rfl
      | some rest =>
        obtain rfl := (Text.dropLead?_eq_some_iff _ _ _).mp hdrop
        exact absurd rfl hplus
    rw [hbody]
    refine (magnitude_iff (.inl rfl)).trans ?_
    constructor
    · intro hm
      refine ⟨.bare hm, fun hminus => ?_⟩
      have hsign := hm.startsWithSign_eq_false
      simp [startsWithSign, hminus] at hsign
    · rintro ⟨hspells, hminus⟩
      exact hspells.magnitude (by simp [startsWithSign, hplus, hminus])

end LayoutCheck.Yaml
