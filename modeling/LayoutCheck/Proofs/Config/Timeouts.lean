import LayoutCheck.Proofs.Config.Layers
import Mathlib.Algebra.Group.Nat.Defs

/-! # Timeouts that are let through

A timeout is a number of seconds below two to the sixty-fourth, whether it comes from a switch or
from a configuration file, and settings that are valid have one that is not zero. -/

namespace LayoutCheck

theorem exists_of_bind_eq_ok {ε α β : Type} {x : Except ε α} {f : α → Except ε β} {b : β}
    (h : (x >>= f) = .ok b) : ∃ a, x = .ok a ∧ f a = .ok b := by
  cases x with
  | error e => cases h
  | ok a => exact ⟨a, rfl, h⟩

theorem exists_of_map_eq_ok {ε α β : Type} {x : Except ε α} {f : α → β} {b : β}
    (h : x.map f = .ok b) : ∃ a, x = .ok a ∧ f a = b := by
  cases x with
  | error e => cases h
  | ok a => exact ⟨a, rfl, Except.ok.inj h⟩

theorem timeoutOfText?_bounds {t : Text} {n : Nat} (h : timeoutOfText? t = some n) :
    1 ≤ n ∧ n < 2 ^ 64 := by
  unfold timeoutOfText? at h
  dsimp only at h
  split at h
  · cases h
  · split at h
    · next hn =>
      obtain rfl := Option.some.inj h
      exact hn
    · cases h

theorem timeoutOfText?_ofNat {n : Nat} (hpos : 1 ≤ n) (hn : n < 2 ^ 64) :
    timeoutOfText? (Text.ofNat n) = some n := by
  have hdigits : ∀ c ∈ Text.ofNat n, c.isDigit = true := fun c hc =>
    Nat.isDigit_of_mem_toDigits (by decide) (by decide) hc
  have hne : Text.ofNat n ≠ [] := Nat.toDigits_ne_nil
  have hplain : (Text.dropLead? ['+'] (Text.ofNat n)).getD (Text.ofNat n) = Text.ofNat n := by
    obtain ⟨c, cs, hcs⟩ := List.exists_cons_of_ne_nil hne
    have hc : '+' ≠ c := by
      rintro rfl
      exact absurd (hdigits '+' (hcs ▸ List.mem_cons_self)) (by decide)
    rw [hcs, Text.dropLead?, if_neg hc]
    rfl
  have hvalue : Nat.ofDigitChars 10 (Text.ofNat n) 0 = n := Nat.ofDigitChars_ten_toDigits
  have hall : (Text.ofNat n).all Char.isDigit = true := List.all_eq_true.mpr hdigits
  unfold timeoutOfText?
  simp only [hplain, hne, hall, hvalue, false_or, not_true_eq_false, if_false]
  exact if_pos ⟨hpos, hn⟩

theorem CheckOptions.timeoutSecs_ofCollected {c : Collected} {n : Nat}
    (h : (CheckOptions.ofCollected c).timeoutSecs = some n) : 1 ≤ n ∧ n < 2 ^ 64 := by
  obtain ⟨t, -, ht⟩ := Option.bind_eq_some_iff.mp h
  exact timeoutOfText?_bounds ht

namespace CommandLine

theorem ofCollected_eq_check {name : CommandName} {c : Collected} {o : CheckOptions}
    (h : Command.ofCollected name c = .ok (.check o)) : o = .ofCollected c := by
  unfold Command.ofCollected at h
  split at h
  · exact (Command.check.inj (Except.ok.inj h)).symm
  · cases h
  · cases h
  · cases h

theorem exists_collected_of_ofCommand {verbose : Nat} {name : CommandName}
    {arguments : List Text} {line : CommandLine} {o : CheckOptions}
    (h : ofCommand verbose name arguments = .ok line) (ho : line.command = .check o) :
    ∃ c, o = .ofCollected c := by
  obtain ⟨c, -, h⟩ := exists_of_bind_eq_ok h
  obtain ⟨c', -, h⟩ := exists_of_bind_eq_ok h
  obtain ⟨command, hcommand, h⟩ := exists_of_bind_eq_ok h
  obtain rfl := Except.ok.inj h
  obtain rfl : command = .check o := ho
  exact ⟨_, ofCollected_eq_check hcommand⟩

theorem exists_collected_of_read {c : Collected} {arguments : List Text} {line : CommandLine}
    {o : CheckOptions} (h : read c arguments = .ok line) (ho : line.command = .check o) :
    ∃ c', o = .ofCollected c' := by
  induction arguments generalizing c with
  | nil =>
    rw [read] at h
    split at h <;> cases h
  | cons argument rest ih =>
    rw [read] at h
    split at h
    · cases h
    · split at h
      · split at h
        · cases h
        · split at h
          · exact exists_collected_of_ofCommand h ho
          · cases h
      · obtain ⟨c', -, h⟩ := exists_of_bind_eq_ok h
        exact ih h

/-- Whatever is written on a command line, a timeout that it gives is in the range. -/
theorem timeoutSecs_bounds {arguments : List Text} {line : CommandLine} {o : CheckOptions}
    (h : parse arguments = .ok line) (ho : line.command = .check o) {n : Nat}
    (hn : o.timeoutSecs = some n) : 1 ≤ n ∧ n < 2 ^ 64 := by
  obtain ⟨c, rfl⟩ := exists_collected_of_read h ho
  exact CheckOptions.timeoutSecs_ofCollected hn

end CommandLine

namespace ConfigFile

theorem readSeconds_lt {s : Yaml.Scalar} {n : Nat} (h : readSeconds s = some n) :
    n < 2 ^ 64 := by
  unfold readSeconds Yaml.unsigned? at h
  split at h
  · exact of_decide_eq_true (Option.filter_eq_some_iff.mp h).2
  · cases h

theorem exists_read_of_optional {α : Type} {outer : Yaml.Mark} {within expected : Text}
    {value : Yaml.Located} {read : Yaml.Scalar → Option α} {a : α}
    (h : optional outer within expected value read = .ok (some a)) : ∃ s, read s = some a := by
  unfold optional at h
  split at h
  · next s _ =>
    split at h
    · cases h
    · cases h
    · split at h
      · next hread => exact ⟨s, hread.trans (Except.ok.inj h)⟩
      · cases h
  · cases h

def Given.Fits (p : Given) : Prop := ∀ n, p.timeoutSecs = some (some n) → n < 2 ^ 64

theorem Given.Fits.store {outer : Yaml.Mark} {p p' : Given} {key : ConfigKey} {within : Text}
    {value : Yaml.Located} (hp : p.Fits) (h : store outer p key within value = .ok p') :
    p'.Fits := by
  cases key
  case timeoutSecs =>
    obtain ⟨v, hv, rfl⟩ := exists_of_map_eq_ok h
    intro n hn
    obtain rfl : v = some n := Option.some.inj hn
    obtain ⟨s, hs⟩ := exists_read_of_optional hv
    exact readSeconds_lt hs
  -- any other key leaves the seconds as they are
  all_goals
    obtain ⟨v, -, rfl⟩ := exists_of_map_eq_ok h
    exact hp

theorem Given.Fits.entries {outer : Yaml.Mark} {p p' : Given} {items : List Yaml.Located}
    (hp : p.Fits) (h : entries outer p items = .ok p') : p'.Fits := by
  fun_induction ConfigFile.entries outer p items with
  | case1 => cases h
  | case2 p x hx =>
    obtain rfl := Except.ok.inj h
    exact hp
  | case3 p x hx =>
    obtain ⟨_, -, h⟩ := exists_of_bind_eq_ok h
    cases h
  | case4 p x value rest hx =>
    obtain rfl := Except.ok.inj h
    exact hp
  | case5 p x value rest hx ih =>
    obtain ⟨⟨key, within⟩, -, h⟩ := exists_of_bind_eq_ok h
    obtain ⟨q, hq, h⟩ := exists_of_bind_eq_ok h
    exact ih _ (hp.store hq) h

theorem timeoutSecs_ofItems {items : List Yaml.Located} {f : ConfigFile}
    (h : ofItems items = .ok f) {n : Nat} (hn : f.timeoutSecs = some n) : n < 2 ^ 64 := by
  unfold ofItems at h
  split at h
  · obtain rfl := Except.ok.inj h
    cases hn
  · split at h
    · obtain ⟨p, hp, rfl⟩ := exists_of_map_eq_ok h
      have hfits : p.Fits := Given.Fits.entries (fun _ hnone => by cases hnone) hp
      exact hfits n (Option.join_eq_some_iff.mp hn)
    · dsimp only at h
      split at h
      · split at h
        · obtain rfl := Except.ok.inj h
          cases hn
        · cases h
      · cases h

theorem timeoutSecs_parse {t : Text} {f : ConfigFile} (h : parse t = .ok f) {n : Nat}
    (hn : f.timeoutSecs = some n) : n < 2 ^ 64 := by
  unfold parse at h
  split at h
  · obtain rfl := Except.ok.inj h
    cases hn
  · unfold ofDocument at h
    dsimp only at h
    split at h
    · cases h
    · obtain ⟨g, hg, h⟩ := exists_of_bind_eq_ok h
      split at h
      · obtain rfl := Except.ok.inj h
        exact timeoutSecs_ofItems hg hn
      · cases h

theorem timeoutSecs_loadNamed {t : FileTree} {p : Option Path} {f : ConfigFile}
    (h : loadNamed t p = .ok f) {n : Nat} (hn : f.timeoutSecs = some n) : n < 2 ^ 64 := by
  cases p with
  | none =>
    obtain rfl := Except.ok.inj h
    cases hn
  | some p =>
    obtain ⟨_, written, _, -, hparse, -, rfl⟩ := (load_eq_ok_iff t p f).mp h
    exact timeoutSecs_parse hparse hn

end ConfigFile

/-- Valid settings of a check wait for a whole number of seconds, at least one and fewer than two
to the sixty-fourth. -/
theorem Settings.timeout_of_valid {t : FileTree} {onTerminal : Bool} {arguments : List Text}
    {line : CommandLine} {o : CheckOptions} {s : Settings}
    (hline : CommandLine.parse arguments = .ok line) (ho : line.command = .check o)
    (hs : resolve t onTerminal o = .ok s) (hvalid : s.validate t = .ok ()) :
    ∃ n, s.timeout = .ofSecs n ∧ 1 ≤ n ∧ n < 2 ^ 64 := by
  have hnonzero : s.timeout.isZero = false := by
    unfold validate at hvalid
    split at hvalid
    · cases hvalid
    · next h => simpa using h
  rw [resolve_eq] at hs
  obtain ⟨file, hfile, rfl⟩ := exists_of_map_eq_ok hs
  cases hgiven : o.timeoutSecs.or file.timeoutSecs with
  | none =>
    refine ⟨30, ?_, by decide, by decide⟩
    simp only [bySources, hgiven]
    rfl
  | some n =>
    have htimeout : (bySources onTerminal o file).timeout = .ofSecs n := by
      simp only [bySources, hgiven]
      rfl
    have hpos : n ≠ 0 := by
      rintro rfl
      rw [htimeout] at hnonzero
      cases hnonzero
    refine ⟨n, htimeout, Nat.one_le_iff_ne_zero.mpr hpos, ?_⟩
    rcases Option.or_eq_some_iff.mp hgiven with hn | ⟨-, hn⟩
    · exact (CommandLine.timeoutSecs_bounds hline ho hn).2
    · exact ConfigFile.timeoutSecs_loadNamed hfile hn

end LayoutCheck
