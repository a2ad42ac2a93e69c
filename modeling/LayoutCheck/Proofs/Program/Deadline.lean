import LayoutCheck.Proofs.Config.Timeouts
import LayoutCheck.Proofs.Program.ExitCode

/-! # Deadlines beyond the end of the clock

A deadline is a reading of the clock, and a reading ends where its seconds do. Timeouts are let
through up to twice that far. A check whose deadline has no reading breaks off as soon as it has
started a formatter; with any other it records an outcome for every file. -/

namespace LayoutCheck

namespace Instant

structure Valid (now : Instant) : Prop where
  secs_ge : -2 ^ 63 ≤ now.secs
  secs_lt : now.secs < 2 ^ 63
  nanos_lt : now.nanos < Duration.nanosPerSec

instance (now : Instant) : Decidable now.Valid :=
  decidable_of_iff (-2 ^ 63 ≤ now.secs ∧ now.secs < 2 ^ 63 ∧ now.nanos < Duration.nanosPerSec)
    ⟨fun ⟨hg, hl, hn⟩ => ⟨hg, hl, hn⟩, fun h => ⟨h.secs_ge, h.secs_lt, h.nanos_lt⟩⟩

def toNanos (now : Instant) : Int := now.secs * Duration.nanosPerSec + now.nanos

def endOfTime : Int := 2 ^ 63 * Duration.nanosPerSec

theorem add?_cases {now : Instant} {d : Duration} (hnow : now.Valid)
    (hd : d.nanos < Duration.nanosPerSec) :
    (now.add? d = none ∧ endOfTime ≤ now.toNanos + d.toNanos) ∨
      ∃ later, now.add? d = some later ∧ later.Valid ∧
        later.toNanos = now.toNanos + d.toNanos := by
  obtain ⟨hge, hlt, hnanos⟩ := hnow
  have hsum : now.toNanos + d.toNanos =
      (now.secs + d.secs) * Duration.nanosPerSec + (now.nanos + d.nanos) := by
    simp only [toNanos, Duration.toNanos]
    push_cast
    ring
  have hper : Duration.nanosPerSec = 1000000000 := rfl
  rw [hsum, endOfTime]
  unfold add?
  by_cases hsecs : now.secs + d.secs > maxSecs
  · refine Or.inl ⟨if_pos hsecs, ?_⟩
    have hpast : 2 ^ 63 ≤ now.secs + d.secs := hsecs
    rw [hper]
    omega
  have hin : now.secs + d.secs < 2 ^ 63 := not_le.mp hsecs
  rw [if_neg hsecs]
  by_cases hsmall : now.nanos + d.nanos < Duration.nanosPerSec
  · refine Or.inr ⟨_, if_pos hsmall, ⟨?_, hin, hsmall⟩, rfl⟩
    exact Int.le_trans hge (Int.le_add_of_nonneg_right (Int.natCast_nonneg _))
  rw [if_neg hsmall]
  -- a second is carried over
  by_cases hcarry : now.secs + d.secs + 1 > maxSecs
  · refine Or.inl ⟨if_pos hcarry, ?_⟩
    have hpast : 2 ^ 63 ≤ now.secs + d.secs + 1 := hcarry
    rw [hper] at hsmall ⊢
    omega
  · have hin' : now.secs + d.secs + 1 < 2 ^ 63 := not_le.mp hcarry
    refine Or.inr ⟨_, if_neg hcarry, ⟨?_, hin', ?_⟩, ?_⟩
    · dsimp only
      omega
    · dsimp only
      omega
    · rw [hper] at hsmall ⊢
      simp only [toNanos, hper]
      omega

theorem Valid.toNanos_lt {now : Instant} (h : now.Valid) : now.toNanos < endOfTime := by
  have hlt := h.secs_lt
  have hnanos := h.nanos_lt
  simp only [endOfTime, toNanos, Duration.nanosPerSec] at *
  omega

theorem add?_eq_none_iff {now : Instant} {d : Duration} (hnow : now.Valid)
    (hd : d.nanos < Duration.nanosPerSec) :
    now.add? d = none ↔ endOfTime ≤ now.toNanos + d.toNanos := by
  rcases add?_cases hnow hd with ⟨hnone, hpast⟩ | ⟨later, hsome, hvalid, hsum⟩
  · exact iff_of_true hnone hpast
  · have hlt := hvalid.toNanos_lt
    rw [hsome]
    exact iff_of_false (Option.some_ne_none later) (by omega)

/-- With a whole number of seconds the nanoseconds of the clock do not matter. -/
theorem add?_ofSecs_eq_none_iff {now : Instant} (hnow : now.Valid) (n : Nat) :
    now.add? (.ofSecs n) = none ↔ 2 ^ 63 ≤ now.secs + n := by
  have hnanos := hnow.nanos_lt
  rw [add?_eq_none_iff hnow (by change 0 < Duration.nanosPerSec; decide)]
  simp only [endOfTime, toNanos, Duration.toNanos, Duration.ofSecs, Duration.nanosPerSec] at *
  omega

end Instant

namespace ExternalFormatter

theorem format?_eq_none_iff (f : ExternalFormatter) (launch : Launch) (now : Instant)
    (path : Path) :
    f.format? launch now path = none ↔
      (∃ e, launch f.executable path = .ok e) ∧ now.add? f.timeout = none := by
  unfold format?
  cases launch f.executable path with
  | error cause => simp
  | ok e => simp

end ExternalFormatter

namespace Host

variable {h : Host} {o : CheckOptions} {s : Settings} {files : List Path}

/-- A file for which a check starts the formatter. -/
def Starts (h : Host) (s : Settings) (p : Path) : Prop :=
  (∃ text, h.tree.readText p = .ok text) ∧ ∃ e, h.launch s.executable p = .ok e

/-- The clock has no reading for the deadline of a file. -/
def NoDeadline (h : Host) (s : Settings) (p : Path) : Prop :=
  (h.clock p).add? s.timeout = none

def formatterOf (h : Host) (s : Settings) : Formatter := s.formatter.formatter h.launch h.clock

theorem breaksOn_iff (h : Host) (s : Settings) (p : Path) :
    s.formatter.breaksOn h.tree.readText h.launch h.clock p = true ↔
      h.Starts s p ∧ h.NoDeadline s p := by
  unfold ExternalFormatter.breaksOn Starts NoDeadline
  cases h.tree.readText p with
  | error cause => simp
  | ok text =>
    rw [Option.isNone_iff_eq_none, ExternalFormatter.format?_eq_none_iff]
    simp [Settings.formatter]

theorem formatsBy_formatterOf (hp : h.Prepared o s files)
    (hends : ∀ p ∈ files, h.Starts s p → ¬ h.NoDeadline s p) :
    h.FormatsBy o (h.formatterOf s) := by
  intro s' files' hp' p hmem text hread
  obtain ⟨rfl, rfl⟩ := hp'.unique hp
  cases hformat : s'.formatter.format? h.launch (h.clock p) p with
  | none =>
    obtain ⟨hlaunch, hend⟩ := (ExternalFormatter.format?_eq_none_iff ..).mp hformat
    exact absurd hend (hends p hmem ⟨⟨text, hread⟩, hlaunch⟩)
  | some x =>
    rw [formatterOf, ExternalFormatter.formatter, hformat]
    rfl

theorem check_of_noDeadline (hp : h.Prepared o s files)
    (hends : ∃ p ∈ files, h.Starts s p ∧ h.NoDeadline s p) :
    ∃ done at_ left, files = done ++ at_ :: left ∧
      (∀ p ∈ done, ¬ (h.Starts s p ∧ h.NoDeadline s p)) ∧
      (h.Starts s at_ ∧ h.NoDeadline s at_) ∧
      h.check o = brokenOff h.tree (h.formatterOf s) s done at_ := by
  let breaks := s.formatter.breaksOn h.tree.readText h.launch h.clock
  have hbreaks (p : Path) : breaks p = true ↔ h.Starts s p ∧ h.NoDeadline s p := h.breaksOn_iff s p
  have hsplit : files.takeWhile (!breaks ·) ++ files.dropWhile (!breaks ·) = files :=
    List.takeWhile_append_dropWhile
  cases hrest : files.dropWhile (!breaks ·) with
  | nil =>
    obtain ⟨p, hmem, hend⟩ := hends
    have hnot := List.dropWhile_eq_nil_iff.mp hrest p hmem
    rw [(hbreaks p).mpr hend] at hnot
    cases hnot
  | cons at_ left =>
    rw [hrest] at hsplit
    refine ⟨_, at_, left, hsplit.symm, ?_, ?_, ?_⟩
    · intro p hp hend
      have hnot := List.mem_takeWhile_imp hp
      rw [(hbreaks p).mpr hend] at hnot
      cases hnot
    · have hhead := List.head_dropWhile_not (!breaks ·) (l := files) (by simp [hrest])
      simp only [hrest, List.head_cons, Bool.not_eq_false'] at hhead
      exact (hbreaks at_).mp hhead
    · rw [check, prepareCheck_of_prepared hp]
      dsimp only
      rw [hrest]
      rfl

end Host

open Host

/-- A check that has a deadline for each file it starts a formatter for records an outcome for each
of its files. Any other breaks off at the first file for which it starts one without a deadline, with
exit code 101 and without an outcome for that file. The timeouts that are let through reach twice as
far as a clock does. -/
theorem deadlines_decide_checks {h : Host} {arguments : List Text} {line : CommandLine}
    {o : CheckOptions} {s : Settings} {files : List Path}
    (hline : CommandLine.parse arguments = .ok line) (ho : line.command = .check o)
    (hclock : ∀ p ∈ files, (h.clock p).Valid) (hp : h.Prepared o s files) :
    (∀ n, timeoutOfText? (Text.ofNat n) = some n ↔ 1 ≤ n ∧ n < 2 ^ 64) ∧
      ∃ n, s.timeout = .ofSecs n ∧ 1 ≤ n ∧ n < 2 ^ 64 ∧
        (∀ (now : Instant) path, now.Valid → (s.formatter.format? h.launch now path = none ↔
          (∃ e, h.launch s.executable path = .ok e) ∧ 2 ^ 63 ≤ now.secs + n)) ∧
        ((∀ p ∈ files, h.Starts s p → (h.clock p).secs + n < 2 ^ 63) →
          h.FormatsBy o (h.formatterOf s) ∧
            h.run arguments = finishCheck h.tree (h.formatterOf s) o s files ∧
            (checkRun h.tree (h.formatterOf s) s files).batch.files.map (·.path) = files) ∧
        ((∃ p ∈ files, h.Starts s p ∧ 2 ^ 63 ≤ (h.clock p).secs + n) →
          (h.run arguments).exitCode = 101 ∧
            ∃ done at_ left, files = done ++ at_ :: left ∧
              (∀ p ∈ done, h.Starts s p → (h.clock p).secs + n < 2 ^ 63) ∧
              h.Starts s at_ ∧ 2 ^ 63 ≤ (h.clock at_).secs + n ∧ (h.run arguments).shown =
                (checkRun h.tree (h.formatterOf s) s done).shown ++ [testingEmission at_]) := by
  have hrun : h.run arguments = h.check o := by rw [h.run_of_parse hline, ho]
  have hrange (n : Nat) : timeoutOfText? (Text.ofNat n) = some n ↔ 1 ≤ n ∧ n < 2 ^ 64 :=
    ⟨timeoutOfText?_bounds, fun hn => timeoutOfText?_ofNat hn.1 hn.2⟩
  obtain ⟨n, htimeout, hpos, hlt⟩ :=
    Settings.timeout_of_valid hline ho hp.resolved hp.valid
  have hend : ∀ p ∈ files, (h.NoDeadline s p ↔ 2 ^ 63 ≤ (h.clock p).secs + n) := by
    intro p hmem
    rw [NoDeadline, htimeout, Instant.add?_ofSecs_eq_none_iff (hclock p hmem)]
  refine ⟨hrange, n, htimeout, hpos, hlt, ?_, ?_, ?_⟩
  · intro now path hnow
    have htimeout' : s.formatter.timeout = .ofSecs n := htimeout
    rw [ExternalFormatter.format?_eq_none_iff, htimeout', Instant.add?_ofSecs_eq_none_iff hnow]
    exact Iff.rfl
  · intro hfine
    have hends : ∀ p ∈ files, h.Starts s p → ¬ h.NoDeadline s p := by
      intro p hmem hstart hnone
      exact absurd ((hend p hmem).mp hnone) (not_le.mpr (hfine p hmem hstart))
    have hformats := formatsBy_formatterOf hp hends
    refine ⟨hformats, hrun.trans (check_of_prepared hformats hp), ?_⟩
    rw [checkRun, files_runBatch, List.map_map]
    exact files.map_id
  · rintro ⟨p, hmem, hstart, hpast⟩
    obtain ⟨done, at_, left, rfl, hdone, ⟨hstarts, hnone⟩, hcheck⟩ :=
      check_of_noDeadline hp ⟨p, hmem, hstart, (hend p hmem).mpr hpast⟩
    rw [hrun, hcheck]
    refine ⟨rfl, done, at_, left, rfl, ?_, hstarts, ?_, rfl⟩
    · intro q hq hstartq
      have hmemq : q ∈ done ++ at_ :: left := List.mem_append_left _ hq
      exact not_le.mp fun hpastq => hdone q hq ⟨hstartq, (hend q hmemq).mpr hpastq⟩
    · exact (hend at_ (by simp)).mp hnone

/-- A host with the fixture `d/a.prp` and the formatter `f`, which changes nothing. -/
def faithfulHost : Host where
  tree :=
    { root := .directory [([0x66], .file [] true),
        ([0x64], .directory [([0x61, 0x2E, 0x70, 0x72, 0x70], .file [0x61] false)])]
      workingDir := [] }
  onTerminal := false
  clock := fun _ => ⟨1000000, 0⟩
  launch := fun _ _ => .ok ⟨.exited 0, [0x61], [], some 0, some 0⟩

def patientOptions (n : Nat) : CheckOptions :=
  ⟨none, some ⟨[0x66]⟩, some ⟨[0x64]⟩, none, some n, false, false, none⟩

def patientSettings (n : Nat) : Settings :=
  { Settings.default false with
    executable := ⟨[0x66]⟩, fixtureDir := ⟨[0x64]⟩, timeout := .ofSecs n }

def faithfulFixture : Path := ⟨[0x64, 0x2F, 0x61, 0x2E, 0x70, 0x72, 0x70]⟩

theorem prepared_faithfulHost {n : Nat} (hn : n ≠ 0) :
    faithfulHost.Prepared (patientOptions n) (patientSettings n) [faithfulFixture] where
  resolved := rfl
  valid := by
    have hzero : (Duration.ofSecs n).isZero = false := by
      simp [Duration.isZero, Duration.ofSecs, hn]
    have hexists : faithfulHost.tree.exists? ⟨[0x66]⟩ = true := by cbv
    have hdir : faithfulHost.tree.isDirectory ⟨[0x64]⟩ = true := by cbv
    simp [Settings.validate, patientSettings, hzero, hexists, hdir]
  discovered := by cbv

theorem starts_faithfulFixture (n : Nat) :
    faithfulHost.Starts (patientSettings n) faithfulFixture :=
  ⟨⟨['a'], by cbv⟩, _, rfl⟩

/-- At a million seconds on the clock this timeout is the last whose deadline has a reading. -/
theorem deadlines_decide_checks_last_second :
    let arguments := ["check", "--formatter=f", "--fixtures", "d", "--timeout-secs",
      "9223372036853775807"].map String.toList
    CommandLine.parse arguments = .ok ⟨0, .check (patientOptions (2 ^ 63 - 1000001))⟩ ∧
      (∀ p ∈ [faithfulFixture], (faithfulHost.clock p).Valid) ∧
      faithfulHost.Prepared (patientOptions (2 ^ 63 - 1000001))
        (patientSettings (2 ^ 63 - 1000001)) [faithfulFixture] ∧
      (faithfulHost.run arguments).exitCode ≠ 101 := by
  intro arguments
  have hline : CommandLine.parse arguments =
      .ok ⟨0, .check (patientOptions (2 ^ 63 - 1000001))⟩ := by rfl
  have hclock : ∀ p ∈ [faithfulFixture], (faithfulHost.clock p).Valid := by
    intro p _
    change Instant.Valid ⟨1000000, 0⟩
    decide
  have hprepared := prepared_faithfulHost (n := 2 ^ 63 - 1000001) (by decide)
  obtain ⟨-, n, htimeout, -, -, -, hrecords, -⟩ :=
    deadlines_decide_checks hline rfl hclock hprepared
  obtain rfl : n = 2 ^ 63 - 1000001 := (congrArg Duration.secs htimeout).symm
  have hin : (1000000 : Int) + (2 ^ 63 - 1000001 : Nat) < 2 ^ 63 := by decide
  obtain ⟨-, hrun, -⟩ := hrecords fun _ _ _ => hin
  refine ⟨hline, hclock, hprepared, ?_⟩
  have hle : (faithfulHost.run arguments).exitCode ≤ 1 := by
    rw [hrun]
    exact finishCheck_exitCode_le_one
  omega

/-- The longest timeout that is let through breaks a check of a file that would pass. -/
theorem longest_timeout_breaks_check :
    let arguments := ["check", "--formatter=f", "--fixtures", "d", "--timeout-secs",
      "18446744073709551615"].map String.toList
    let s := patientSettings (2 ^ 64 - 1)
    CommandLine.parse arguments = .ok ⟨0, .check (patientOptions (2 ^ 64 - 1))⟩ ∧
      (faithfulHost.clock faithfulFixture).Valid ∧ s.validate faithfulHost.tree = .ok () ∧
      (faithfulHost.clock faithfulFixture).add? s.timeout = none ∧
      s.formatter.format? faithfulHost.launch (faithfulHost.clock faithfulFixture)
        faithfulFixture = none ∧
      (faithfulHost.run arguments).exitCode = 101 := by
  intro arguments s
  have hline : CommandLine.parse arguments = .ok ⟨0, .check (patientOptions (2 ^ 64 - 1))⟩ := by rfl
  have hprepared := prepared_faithfulHost (n := 2 ^ 64 - 1) (by decide)
  have hend : (faithfulHost.clock faithfulFixture).add? s.timeout = none := by decide
  have hstart : faithfulHost.Starts s faithfulFixture := starts_faithfulFixture _
  obtain ⟨done, at_, left, -, -, -, hcheck⟩ :=
    check_of_noDeadline hprepared ⟨_, List.mem_singleton_self _, hstart, hend⟩
  refine ⟨hline, by decide, hprepared.valid, hend, ?_, ?_⟩
  · exact (ExternalFormatter.format?_eq_none_iff ..).mpr ⟨hstart.2, hend⟩
  · rw [run_of_parse _ hline]
    dsimp only
    rw [hcheck]
    rfl

end LayoutCheck
