import LayoutCheck.Text
import Mathlib.Algebra.Group.Nat.Defs
import Mathlib.Tactic.SplitIfs

/-! # Texts and their bytes

Every character is read back from its bytes, whatever follows them, so decoding undoes encoding.
Strict decoding accepts the bytes of a text and nothing else: no longer form of a character, no half
of a surrogate pair, nothing beyond the last code point and no part that breaks off. A decoded text
has newlines only where its bytes have them. -/

namespace LayoutCheck

namespace Utf8

theorem ofNat_eq_newline {n : Nat} (h : Char.ofNat n = '\n') : n = 10 := by
  by_cases hn : n.isValidChar
  · rw [Char.ofNat, dif_pos hn] at h
    exact congrArg Char.toNat h
  · rw [Char.ofNat, dif_neg hn] at h
    exact absurd h (by decide)

theorem le_of_tailValue {n acc v : Nat} {bs : Bytes} (h : (tailValue n acc bs).1 = some v) :
    acc ≤ v := by
  fun_induction tailValue n acc bs with
  | case1 acc bs => exact Nat.le_of_eq (Option.some.inj h)
  | case2 => cases h
  | case3 n acc b bs hb ih =>
    have hv := ih h
    omega
  | case4 => cases h

theorem tailValue_suffix (n acc : Nat) (bs : Bytes) : (tailValue n acc bs).2 <:+ bs := by
  fun_induction tailValue n acc bs with
  | case1 => exact List.suffix_rfl
  | case2 => exact List.suffix_rfl
  | case3 n acc b bs hb ih => exact ih.trans (List.suffix_cons b bs)
  | case4 => exact List.suffix_rfl

theorem leadShape_payload {b lo hi : UInt8} {n : Nat} (h : leadShape b = (n + 1, lo, hi)) :
    0 < b.toNat % (if n = 0 then 32 else if n = 1 then 16 else 8) ∨ 0x90 ≤ lo := by
  unfold leadShape at h
  simp only [Bool.and_eq_true, decide_eq_true_eq, UInt8.le_iff_toNat_le, beq_iff_eq,
    ← UInt8.toNat_inj] at h
  split_ifs at h <;> obtain ⟨rfl, rfl, rfl⟩ := h
  all_goals first
    | exact Or.inr (by decide)
    | exact Or.inl (by simp at *; omega)

theorem step_eq_newline {b : UInt8} {bs : Bytes} (h : (step b bs).1 = some '\n') : b = 0x0A := by
  unfold step at h
  split at h
  · have hb := ofNat_eq_newline (Option.some.inj h)
    exact UInt8.toNat_inj.mp hb
  · split at h
    · cases h
    · cases h
    · next n lo hi c cs hshape =>
      split at h
      · next hc =>
        -- the value of a longer character is beyond that of a newline
        obtain ⟨v, hv, hchar⟩ := Option.map_eq_some_iff.mp h
        have hle := le_of_tailValue hv
        have hv10 := ofNat_eq_newline hchar
        simp only [Bool.and_eq_true, decide_eq_true_eq, UInt8.le_iff_toNat_le] at hc
        rcases leadShape_payload hshape with hlead | hlo
        · omega
        · have hlo' : 0x90 ≤ lo.toNat := UInt8.le_iff_toNat_le.mp hlo
          omega
      · cases h

theorem step_suffix (b : UInt8) (bs : Bytes) : (step b bs).2 <:+ bs := by
  unfold step
  split
  · exact List.suffix_rfl
  · split
    · exact List.suffix_rfl
    · exact List.suffix_rfl
    · split
      · exact (tailValue_suffix _ _ _).trans (List.suffix_cons _ _)
      · exact List.suffix_rfl

theorem newline_mem_of_units {bs : Bytes} (h : some '\n' ∈ units bs) : 0x0A ∈ bs := by
  fun_induction units bs with
  | case1 => cases h
  | case2 b bs ih =>
    rcases List.mem_cons.mp h with h | h
    · exact step_eq_newline h.symm ▸ List.mem_cons_self
    · exact List.mem_cons_of_mem _ ((step_suffix b bs).subset (ih h))

theorem newline_not_mem_decodeLossy {bs : Bytes} (h : 0x0A ∉ bs) : '\n' ∉ decodeLossy bs := by
  intro hmem
  obtain ⟨u, hu, heq⟩ := List.mem_map.mp hmem
  cases u with
  | none => exact absurd heq (by decide)
  | some c =>
    obtain rfl : c = '\n' := heq
    exact h (newline_mem_of_units hu)

end Utf8

namespace Path

/-- A path that is shown on one line. -/
def OneLine (p : Path) : Prop := 0x0A ∉ p.bytes

instance (p : Path) : Decidable p.OneLine := inferInstanceAs (Decidable (¬ _))

theorem OneLine.newline_not_mem_display {p : Path} (h : p.OneLine) : '\n' ∉ p.display :=
  Utf8.newline_not_mem_decodeLossy h

end Path

theorem Text.utf8_flatten (ts : List Text) : utf8 ts.flatten = (ts.map utf8).flatten := by
  induction ts with
  | nil => rfl
  | cons t ts ih =>
    rw [List.flatten_cons, List.map_cons, List.flatten_cons, ← ih]
    exact List.flatMap_append

namespace Utf8

def continuation (v : Nat) : UInt8 := UInt8.ofNat (v % 64 + 128)

theorem toNat_ofNat_of_lt {n : Nat} (h : n < 256) : (UInt8.ofNat n).toNat = n := by
  rw [UInt8.toNat_ofNat']
  exact Nat.mod_eq_of_lt h

theorem toNat_continuation (v : Nat) : (continuation v).toNat = v % 64 + 128 :=
  toNat_ofNat_of_lt (by omega)

theorem continuation_between_iff (lo hi : UInt8) (v : Nat) :
    (lo ≤ continuation v && continuation v ≤ hi) = true ↔
      lo.toNat ≤ v % 64 + 128 ∧ v % 64 + 128 ≤ hi.toNat := by
  simp only [Bool.and_eq_true, decide_eq_true_eq, UInt8.le_iff_toNat_le, toNat_continuation]

@[simp] theorem tailValue_zero (acc : Nat) (bs : Bytes) : tailValue 0 acc bs = (some acc, bs) := rfl

theorem tailValue_continuation (n acc v : Nat) (bs : Bytes) :
    tailValue (n + 1) acc (continuation v :: bs) = tailValue n (acc * 64 + v % 64) bs := by
  have hc : isContinuation (continuation v) = true :=
    (continuation_between_iff 0x80 0xBF v).mpr ⟨by simp, by simp; omega⟩
  rw [tailValue, if_pos hc, toNat_continuation, Nat.add_sub_cancel]

/-- A lead byte and the continuations it asks for are read as one value. -/
theorem step_of_lead {b lo hi : UInt8} {n lead v : Nat} (hb : 128 ≤ b.toNat)
    (hshape : leadShape b = (n + 1, lo, hi))
    (hlead : b.toNat % (if n = 0 then 32 else if n = 1 then 16 else 8) = lead)
    (hrange : lo.toNat ≤ v % 64 + 128 ∧ v % 64 + 128 ≤ hi.toNat) (bs : Bytes) :
    step b (continuation v :: bs) =
      let r := tailValue n (lead * 64 + v % 64) bs
      (r.1.map Char.ofNat, r.2) := by
  have hascii : ¬ b < 0x80 := by
    rw [UInt8.lt_iff_toNat_lt]
    exact Nat.not_lt.mpr hb
  unfold step
  rw [if_neg hascii, hshape]
  simp only [(continuation_between_iff lo hi v).mpr hrange, if_true, hlead, toNat_continuation,
    Nat.add_sub_cancel]

theorem leadShape_two {b : UInt8} (h : 0xC2 ≤ b.toNat ∧ b.toNat ≤ 0xDF) :
    leadShape b = (1, 0x80, 0xBF) := by
  have hb : (0xC2 ≤ b && b ≤ 0xDF) = true := by
    simpa [UInt8.le_iff_toNat_le] using h
  rw [leadShape, if_pos hb]

theorem leadShape_three {b : UInt8} (h : 0xE0 ≤ b.toNat ∧ b.toNat ≤ 0xEF) :
    leadShape b = (2, if b.toNat = 0xE0 then 0xA0 else 0x80,
      if b.toNat = 0xED then 0x9F else 0xBF) := by
  unfold leadShape
  simp only [Bool.and_eq_true, decide_eq_true_eq, UInt8.le_iff_toNat_le, beq_iff_eq,
    ← UInt8.toNat_inj, UInt8.reduceToNat]
  split_ifs <;> first | rfl | omega

theorem leadShape_four {b : UInt8} (h : 0xF0 ≤ b.toNat ∧ b.toNat ≤ 0xF4) :
    leadShape b = (3, if b.toNat = 0xF0 then 0x90 else 0x80,
      if b.toNat = 0xF4 then 0x8F else 0xBF) := by
  unfold leadShape
  simp only [Bool.and_eq_true, decide_eq_true_eq, UInt8.le_iff_toNat_le, beq_iff_eq,
    ← UInt8.toNat_inj, UInt8.reduceToNat]
  split_ifs <;> first | rfl | omega

/-! One lemma for each number of bytes: the value is put together again from its pieces. -/

theorem step_one_byte {v : Nat} (h : v < 0x80) (rest : Bytes) :
    step (UInt8.ofNat v) rest = (some (Char.ofNat v), rest) := by
  have hb : (UInt8.ofNat v).toNat = v := toNat_ofNat_of_lt (by omega)
  have hascii : UInt8.ofNat v < 0x80 := by
    rw [UInt8.lt_iff_toNat_lt, hb]
    exact h
  unfold step
  rw [if_pos hascii, hb]

theorem step_two_bytes {v : Nat} (hlo : 0x80 ≤ v) (hhi : v < 0x800) (rest : Bytes) :
    step (UInt8.ofNat (v / 64 % 32 + 192)) (continuation v :: rest) =
      (some (Char.ofNat v), rest) := by
  have hb : (UInt8.ofNat (v / 64 % 32 + 192)).toNat = v / 64 % 32 + 192 :=
    toNat_ofNat_of_lt (by omega)
  have hv : (v / 64 % 32 + 192) % 32 * 64 + v % 64 = v := by omega
  rw [step_of_lead (by omega) (leadShape_two (by omega)) rfl ⟨by simp, by simp; omega⟩]
  simp only [hb, if_true, hv, tailValue_zero, Option.map_some]

theorem step_three_bytes {v : Nat} (hlo : 0x800 ≤ v) (hhi : v < 0x10000)
    (hvalid : v < 0xD800 ∨ 0xDFFF < v) (rest : Bytes) :
    step (UInt8.ofNat (v / 4096 % 16 + 224)) (continuation (v / 64) :: continuation v :: rest) =
      (some (Char.ofNat v), rest) := by
  have hb : (UInt8.ofNat (v / 4096 % 16 + 224)).toNat = v / 4096 % 16 + 224 :=
    toNat_ofNat_of_lt (by omega)
  have hv : ((v / 4096 % 16 + 224) % 16 * 64 + v / 64 % 64) * 64 + v % 64 = v := by omega
  rw [step_of_lead (by omega) (leadShape_three (by omega)) rfl]
  · simp only [hb, Nat.one_ne_zero, if_false, if_true, tailValue_continuation, hv,
      tailValue_zero, Option.map_some]
  · rw [hb]
    split_ifs <;> simp only [UInt8.reduceToNat] <;> omega

theorem step_four_bytes {v : Nat} (hlo : 0x10000 ≤ v) (hhi : v < 0x110000) (rest : Bytes) :
    step (UInt8.ofNat (v / 262144 % 8 + 240))
        (continuation (v / 4096) :: continuation (v / 64) :: continuation v :: rest) =
      (some (Char.ofNat v), rest) := by
  have hb : (UInt8.ofNat (v / 262144 % 8 + 240)).toNat = v / 262144 % 8 + 240 :=
    toNat_ofNat_of_lt (by omega)
  have hv : (((v / 262144 % 8 + 240) % 8 * 64 + v / 4096 % 64) * 64 + v / 64 % 64) * 64
      + v % 64 = v := by omega
  rw [step_of_lead (by omega) (leadShape_four (by omega)) rfl]
  · simp only [hb, Nat.reduceEqDiff, if_false, tailValue_continuation, hv, tailValue_zero,
      Option.map_some]
  · rw [hb]
    split_ifs <;> simp only [UInt8.reduceToNat] <;> omega

theorem step_encodeChar (c : Char) (rest : Bytes) : ∃ b bs,
    String.utf8EncodeChar c = b :: bs ∧ step b (bs ++ rest) = (some c, rest) := by
  have hchar : Char.ofNat c.val.toNat = c := Char.ofNat_toNat c
  have hvalid : c.val.toNat < 0xD800 ∨ 0xDFFF < c.val.toNat ∧ c.val.toNat < 0x110000 := c.valid
  unfold String.utf8EncodeChar
  generalize c.val.toNat = v at hchar hvalid
  subst hchar
  dsimp only
  split_ifs with h1 h2 h3
  · exact ⟨_, [], rfl, step_one_byte (by omega) rest⟩
  · exact ⟨_, [continuation v], rfl, step_two_bytes (by omega) (by omega) rest⟩
  · exact ⟨_, [continuation (v / 64), continuation v], rfl,
      step_three_bytes (by omega) (by omega) (by omega) rest⟩
  · exact ⟨_, [continuation (v / 4096), continuation (v / 64), continuation v], rfl,
      step_four_bytes (by omega) (by omega) rest⟩

theorem units_utf8 (t : Text) : units t.utf8 = t.map some := by
  induction t with
  | nil => rw [show Text.utf8 [] = [] from rfl, units]; rfl
  | cons c t ih =>
    obtain ⟨b, bs, hc, hstep⟩ := step_encodeChar c (Text.utf8 t)
    have ht : Text.utf8 (c :: t) = b :: (bs ++ Text.utf8 t) := by
      rw [Text.utf8, List.flatMap_cons, hc]
      rfl
    rw [ht, units, hstep, ih]
    rfl

theorem decodeLossy_utf8 (t : Text) : decodeLossy t.utf8 = t := by
  rw [decodeLossy, units_utf8, List.map_map]
  exact t.map_id

def continuations : Nat → Nat → Bytes
  | 0, _ => []
  | n + 1, v => continuation (v / 64 ^ n) :: continuations n v

theorem eq_continuation {b : UInt8} {v : Nat} (hb : v % 64 + 128 = b.toNat) :
    b = continuation v :=
  UInt8.toNat_inj.mp (by rw [toNat_continuation, hb])

theorem tailValue_eq_some {n acc v : Nat} {bs rest : Bytes}
    (h : tailValue n acc bs = (some v, rest)) :
    bs = continuations n v ++ rest ∧ v / 64 ^ n = acc := by
  fun_induction tailValue n acc bs with
  | case1 acc bs =>
    obtain ⟨hv, rfl⟩ := Prod.mk.inj h
    obtain rfl := Option.some.inj hv
    exact ⟨rfl, by simp⟩
  | case2 => cases (Prod.mk.inj h).1
  | case3 n acc b bs hb ih =>
    obtain ⟨rfl, hacc⟩ := ih h
    simp only [isContinuation, Bool.and_eq_true, decide_eq_true_eq, UInt8.le_iff_toNat_le,
      UInt8.reduceToNat] at hb
    have hhead : b = continuation (v / 64 ^ n) := eq_continuation (by omega)
    refine ⟨by rw [continuations, List.cons_append, ← hhead], ?_⟩
    rw [Nat.pow_succ, ← Nat.div_div_eq_div_mul]
    omega
  | case4 => cases (Prod.mk.inj h).1

theorem toNat_char_ofNat {v : Nat} (h : v < 0xD800 ∨ 0xDFFF < v ∧ v < 0x110000) :
    (Char.ofNat v).val.toNat = v := by
  have hvalid : v.isValidChar := h
  rw [Char.ofNat, dif_pos hvalid]
  rfl

theorem encodeChar_one_byte {v : Nat} (h : v < 0x80) :
    String.utf8EncodeChar (Char.ofNat v) = [UInt8.ofNat v] := by
  unfold String.utf8EncodeChar
  rw [toNat_char_ofNat (by omega)]
  exact if_pos (by omega)

theorem encodeChar_two_bytes {v : Nat} (hlo : 0x80 ≤ v) (hhi : v < 0x800) :
    String.utf8EncodeChar (Char.ofNat v) =
      UInt8.ofNat (v / 64 % 32 + 192) :: continuations 1 v := by
  unfold String.utf8EncodeChar
  rw [toNat_char_ofNat (by omega)]
  dsimp only
  rw [if_neg (by omega), if_pos (by omega)]
  simp [continuations, continuation]

theorem encodeChar_three_bytes {v : Nat} (hlo : 0x800 ≤ v) (hhi : v < 0x10000)
    (hvalid : v < 0xD800 ∨ 0xDFFF < v) :
    String.utf8EncodeChar (Char.ofNat v) =
      UInt8.ofNat (v / 4096 % 16 + 224) :: continuations 2 v := by
  unfold String.utf8EncodeChar
  rw [toNat_char_ofNat (by omega)]
  dsimp only
  rw [if_neg (by omega), if_neg (by omega), if_pos (by omega)]
  simp [continuations, continuation]

theorem encodeChar_four_bytes {v : Nat} (hlo : 0x10000 ≤ v) (hhi : v < 0x110000) :
    String.utf8EncodeChar (Char.ofNat v) =
      UInt8.ofNat (v / 262144 % 8 + 240) :: continuations 3 v := by
  unfold String.utf8EncodeChar
  rw [toNat_char_ofNat (by omega)]
  dsimp only
  rw [if_neg (by omega), if_neg (by omega), if_neg (by omega)]
  simp [continuations, continuation]

theorem leadShape_range {b lo hi : UInt8} {n : Nat} (h : leadShape b = (n + 1, lo, hi)) :
    n = 0 ∧ 0xC2 ≤ b.toNat ∧ b.toNat ≤ 0xDF ∨ n = 1 ∧ 0xE0 ≤ b.toNat ∧ b.toNat ≤ 0xEF ∨
      n = 2 ∧ 0xF0 ≤ b.toNat ∧ b.toNat ≤ 0xF4 := by
  unfold leadShape at h
  simp only [Bool.and_eq_true, decide_eq_true_eq, UInt8.le_iff_toNat_le, beq_iff_eq,
    ← UInt8.toNat_inj, UInt8.reduceToNat] at h
  split_ifs at h <;> obtain ⟨rfl, rfl, rfl⟩ := h <;> omega

/-! One lemma for each number of bytes: a lead byte and a byte in its bounds leave one value. -/

theorem encodeChar_of_two {b c₁ : UInt8} {v : Nat} (hb : 0xC2 ≤ b.toNat ∧ b.toNat ≤ 0xDF)
    (hc₁ : 0x80 ≤ c₁.toNat ∧ c₁.toNat ≤ 0xBF) (hv : v = b.toNat % 32 * 64 + (c₁.toNat - 128)) :
    b :: c₁ :: continuations 0 v = String.utf8EncodeChar (Char.ofNat v) := by
  have hfirst : b = UInt8.ofNat (v / 64 % 32 + 192) :=
    UInt8.toNat_inj.mp (by rw [toNat_ofNat_of_lt (by omega)]; omega)
  have hsecond : c₁ = continuation v := eq_continuation (by omega)
  rw [encodeChar_two_bytes (by omega) (by omega), hfirst, hsecond]
  simp [continuations]

theorem encodeChar_of_three {b c₁ : UInt8} {v : Nat} (hb : 0xE0 ≤ b.toNat ∧ b.toNat ≤ 0xEF)
    (hlo : (if b.toNat = 0xE0 then 0xA0 else 0x80) ≤ c₁.toNat)
    (hhi : c₁.toNat ≤ if b.toNat = 0xED then 0x9F else 0xBF)
    (hv : v / 64 = b.toNat % 16 * 64 + (c₁.toNat - 128)) :
    b :: c₁ :: continuations 1 v = String.utf8EncodeChar (Char.ofNat v) := by
  have hlo' : 0x80 ≤ c₁.toNat ∧ (b.toNat = 0xE0 → 0xA0 ≤ c₁.toNat) := by split at hlo <;> omega
  have hhi' : c₁.toNat ≤ 0xBF ∧ (b.toNat = 0xED → c₁.toNat ≤ 0x9F) := by split at hhi <;> omega
  have hfirst : b = UInt8.ofNat (v / 4096 % 16 + 224) :=
    UInt8.toNat_inj.mp (by rw [toNat_ofNat_of_lt (by omega)]; omega)
  have hsecond : c₁ = continuation (v / 64) := eq_continuation (by omega)
  rw [encodeChar_three_bytes (by omega) (by omega) (by omega), hfirst, hsecond]
  simp [continuations]

theorem encodeChar_of_four {b c₁ : UInt8} {v : Nat} (hb : 0xF0 ≤ b.toNat ∧ b.toNat ≤ 0xF4)
    (hlo : (if b.toNat = 0xF0 then 0x90 else 0x80) ≤ c₁.toNat)
    (hhi : c₁.toNat ≤ if b.toNat = 0xF4 then 0x8F else 0xBF)
    (hv : v / 4096 = b.toNat % 8 * 64 + (c₁.toNat - 128)) :
    b :: c₁ :: continuations 2 v = String.utf8EncodeChar (Char.ofNat v) := by
  have hlo' : 0x80 ≤ c₁.toNat ∧ (b.toNat = 0xF0 → 0x90 ≤ c₁.toNat) := by split at hlo <;> omega
  have hhi' : c₁.toNat ≤ 0xBF ∧ (b.toNat = 0xF4 → c₁.toNat ≤ 0x8F) := by split at hhi <;> omega
  have hfirst : b = UInt8.ofNat (v / 262144 % 8 + 240) :=
    UInt8.toNat_inj.mp (by rw [toNat_ofNat_of_lt (by omega)]; omega)
  have hsecond : c₁ = continuation (v / 4096) := eq_continuation (by omega)
  rw [encodeChar_four_bytes (by omega) (by omega), hfirst, hsecond]
  simp [continuations]

theorem step_eq_some {b : UInt8} {bs rest : Bytes} {c : Char}
    (h : step b bs = (some c, rest)) : b :: bs = String.utf8EncodeChar c ++ rest := by
  unfold step at h
  split at h
  · next hascii =>
    obtain ⟨hc, rfl⟩ := Prod.mk.inj h
    obtain rfl := Option.some.inj hc
    rw [encodeChar_one_byte (UInt8.lt_iff_toNat_lt.mp hascii), UInt8.ofNat_toNat]
    rfl
  · split at h
    · cases (Prod.mk.inj h).1
    · cases (Prod.mk.inj h).1
    · next n lo hi c₁ cs hshape =>
      split at h
      · next hc₁ =>
        obtain ⟨hchar, hrest⟩ := Prod.mk.inj h
        obtain ⟨v, hv, rfl⟩ := Option.map_eq_some_iff.mp hchar
        obtain ⟨rfl, hvalue⟩ := tailValue_eq_some (Prod.ext hv hrest)
        simp only [Bool.and_eq_true, decide_eq_true_eq, UInt8.le_iff_toNat_le] at hc₁
        -- the lead byte tells the number of bytes and the bounds on the second
        rcases leadShape_range hshape with ⟨rfl, hb⟩ | ⟨rfl, hb⟩ | ⟨rfl, hb⟩
        · rw [leadShape_two hb] at hshape
          obtain ⟨-, rfl, rfl⟩ := hshape
          rw [← encodeChar_of_two hb hc₁ (by simpa using hvalue)]
          rfl
        · rw [leadShape_three hb] at hshape
          obtain ⟨-, rfl, rfl⟩ := hshape
          rw [apply_ite UInt8.toNat, apply_ite UInt8.toNat] at hc₁
          rw [← encodeChar_of_three hb hc₁.1 hc₁.2 (by simpa using hvalue)]
          rfl
        · rw [leadShape_four hb] at hshape
          obtain ⟨-, rfl, rfl⟩ := hshape
          rw [apply_ite UInt8.toNat, apply_ite UInt8.toNat] at hc₁
          rw [← encodeChar_of_four hb hc₁.1 hc₁.2 (by simpa using hvalue)]
          rfl
      · cases (Prod.mk.inj h).1

theorem eq_utf8_of_units {bs : Bytes} {t : Text} (h : units bs = t.map some) : bs = t.utf8 := by
  fun_induction units bs generalizing t with
  | case1 =>
    rw [List.map_eq_nil_iff.mp h.symm]
    rfl
  | case2 b bs ih =>
    cases t with
    | nil => cases h
    | cons c t =>
      obtain ⟨hc, ht⟩ := List.cons.inj h
      have hstep : b :: bs = String.utf8EncodeChar c ++ (step b bs).2 :=
        step_eq_some (Prod.ext hc rfl)
      exact hstep.trans (congrArg (String.utf8EncodeChar c ++ ·) (ih ht))

theorem mapM_id_eq_some_iff {us : List (Option Char)} {t : Text} :
    us.mapM id = some t ↔ us = t.map some := by
  induction us generalizing t with
  | nil => cases t <;> simp
  | cons u us ih =>
    rw [List.mapM_cons]
    cases u with
    | none => cases t <;> simp
    | some d =>
      cases t with
      | nil => simp [Option.bind_eq_some_iff]
      | cons c t =>
        rw [List.map_cons, List.cons.injEq, ← ih]
        cases us.mapM id <;> simp

/-- The bytes that are decoded are those of texts. -/
theorem decode?_eq_some_iff {bs : Bytes} {t : Text} : decode? bs = some t ↔ bs = t.utf8 := by
  rw [decode?, mapM_id_eq_some_iff]
  constructor
  · exact eq_utf8_of_units
  · rintro rfl
    exact units_utf8 t

end Utf8

end LayoutCheck
