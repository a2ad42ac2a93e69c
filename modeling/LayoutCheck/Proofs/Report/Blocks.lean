import LayoutCheck.Report
import Mathlib.Data.List.Basic
import Mathlib.Data.List.Forall2

/-! # Batches file by file

A batch is its files one after the other. What is recorded and shown for a file depends on that file
alone; no outcome and no failing sink keeps a later file from being checked. The counters are kept
while the batch runs; its exit code, its summary and the closing lines are made afterwards, and all
of them tell the same of its records. -/

namespace LayoutCheck

namespace Emission

@[simp] theorem plainText_nil : plainText [] = [] := rfl

@[simp] theorem plainText_cons (e : Emission) (es : List Emission) :
    plainText (e :: es) = e.text ++ plainText es := rfl

@[simp] theorem plainText_append (es fs : List Emission) :
    plainText (es ++ fs) = plainText es ++ plainText fs := by
  simp [plainText]

theorem plainText_flatMap {α : Type*} (f : α → List Emission) (as : List α) :
    plainText (as.flatMap f) = as.flatMap fun a => plainText (f a) := by
  simp [plainText, List.flatMap_assoc]

@[simp] theorem say_text (t : Text) : (say t).text = t := rfl

@[simp] theorem plainText_line (t : Text) (tone : Tone) : plainText (line t tone) = t ++ ['\n'] := by
  simp [line]

end Emission

def Text.Ended (t : Text) : Prop := t = [] ∨ t.getLast? = some '\n'

namespace Text

theorem getLast?_append_ended {s t : Text} (hs : s.getLast? = some '\n') (ht : Ended t) :
    (s ++ t).getLast? = some '\n' := by
  rcases ht with rfl | ht
  · rw [List.append_nil]
    exact hs
  · rw [List.getLast?_append, ht]
    rfl

theorem Ended.append {s t : Text} (hs : Ended s) (ht : Ended t) : Ended (s ++ t) := by
  rcases hs with rfl | hs
  · exact ht
  · exact Or.inr (getLast?_append_ended hs ht)

theorem ended_flatMap {α : Type*} {f : α → Text} {as : List α} (h : ∀ a ∈ as, Ended (f a)) :
    Ended (as.flatMap f) := by
  induction as with
  | nil => exact Or.inl rfl
  | cons a as ih =>
    have ha := h a List.mem_cons_self
    exact ha.append (ih fun b hb => h b (List.mem_cons_of_mem _ hb))

end Text

open Emission Text

theorem getLast?_line (t : Text) (tone : Tone) :
    (plainText (line t tone)).getLast? = some '\n' := by
  rw [plainText_line]
  exact List.getLast?_concat

theorem ended_line (t : Text) (tone : Tone) : Ended (plainText (line t tone)) :=
  Or.inr (getLast?_line t tone)

theorem Hunk.ended_emissions (h : Hunk) : Ended (plainText h.emissions) := by
  rw [Hunk.emissions, plainText_append, plainText_flatMap]
  exact (ended_line _ _).append (ended_flatMap fun e _ => ended_line _ _)

theorem Diff.ended_emissions (d : Diff) : Ended (plainText d.emissions) := by
  unfold Diff.emissions
  split
  · exact Or.inl rfl
  · rw [plainText_append, plainText_append, plainText_flatMap]
    exact ((ended_line _ _).append (ended_line _ _)).append
      (ended_flatMap fun h _ => h.ended_emissions)

theorem Fault.getLast?_emissions (f : Fault) : (plainText f.emissions).getLast? = some '\n' := by
  unfold Fault.emissions
  rw [plainText_append]
  apply getLast?_append_ended (getLast?_line _ _)
  split
  · exact Or.inl rfl
  · next text _ =>
    split
    · next hlast => exact Or.inr (by simpa using hlast)
    · exact Or.inr (by simp)

theorem Outcome.getLast?_emissions (options : ReportOptions) (o : Outcome) :
    (plainText (o.emissions options)).getLast? = some '\n' := by
  cases o with
  | errored f => exact f.getLast?_emissions
  | checked v =>
    cases v with
    | equivalent => exact getLast?_line _ _
    | divergent why =>
      rw [Outcome.emissions, plainText_append, plainText_append]
      refine getLast?_append_ended (getLast?_append_ended (getLast?_line _ _) ?_)
        why.diff.ended_emissions
      split
      · rw [plainText_append]
        exact (ended_line _ _).append (ended_line _ _)
      · exact Or.inl rfl

def reportFile (read : Reader) (format : Formatter) (path : Path) : FileReport :=
  ⟨path, checkFile read format path⟩

namespace FileReport

def emissions (options : ReportOptions) (r : FileReport) : List Emission :=
  testingEmission r.path :: r.outcome.emissions options

theorem getLast?_emissions (options : ReportOptions) (r : FileReport) :
    (plainText (r.emissions options)).getLast? = some '\n' := by
  rw [emissions, plainText_cons, List.getLast?_append, r.outcome.getLast?_emissions]
  rfl

end FileReport

@[simp] theorem Batch.files_record (b : Batch) (r : FileReport) :
    (b.record r).files = b.files ++ [r] := by
  unfold Batch.record
  split <;> rfl

namespace BatchRun

variable (read : Reader) (format : Formatter) (options : ReportOptions)

theorem files_step (run : BatchRun) (p : Path) :
    (run.step read format options p).batch.files =
      run.batch.files ++ [reportFile read format p] :=
  Batch.files_record _ _

theorem shown_step (run : BatchRun) (p : Path) :
    (run.step read format options p).shown =
      run.shown ++ (reportFile read format p).emissions options := rfl

theorem files_foldl_step (run : BatchRun) (ps : List Path) :
    (ps.foldl (step read format options) run).batch.files =
      run.batch.files ++ ps.map (reportFile read format) := by
  -- on the paths, for every run that they may find
  induction ps generalizing run with
  | nil => simp
  | cons p ps ih =>
    rw [List.foldl_cons, ih, files_step, List.map_cons, List.append_assoc, List.singleton_append]

theorem shown_foldl_step (run : BatchRun) (ps : List Path) :
    (ps.foldl (step read format options) run).shown =
      run.shown ++ ps.flatMap fun p => (reportFile read format p).emissions options := by
  induction ps generalizing run with
  | nil => simp
  | cons p ps ih =>
    rw [List.foldl_cons, ih, shown_step, List.flatMap_cons, List.append_assoc]

end BatchRun

section Alone

variable (read : Reader) (format : Formatter) (options : ReportOptions)

theorem files_runBatch (ps : List Path) :
    (runBatch read format options ps).batch.files = ps.map (reportFile read format) :=
  BatchRun.files_foldl_step read format options .start ps

theorem shown_runBatch (ps : List Path) :
    (runBatch read format options ps).shown =
      ps.flatMap fun p => (reportFile read format p).emissions options :=
  BatchRun.shown_foldl_step read format options .start ps

theorem ended_runBatch (ps : List Path) :
    Ended (plainText (runBatch read format options ps).shown) := by
  rw [shown_runBatch, plainText_flatMap]
  exact ended_flatMap fun p _ => Or.inr ((reportFile read format p).getLast?_emissions options)

end Alone

structure SinkRun (σ : Type*) where
  batch : Batch
  sink : σ

namespace SinkRun

def step {σ : Type*} (emit : σ → Emission → σ) (read : Reader) (format : Formatter)
    (options : ReportOptions) (run : SinkRun σ) (path : Path) : SinkRun σ :=
  let opened := emit run.sink (testingEmission path)
  let outcome := checkFile read format path
  { batch := run.batch.record ⟨path, outcome⟩
    sink := (outcome.emissions options).foldl emit opened }

end SinkRun

def runBatchOn {σ : Type*} (emit : σ → Emission → σ) (sink : σ) (read : Reader)
    (format : Formatter) (options : ReportOptions) (paths : List Path) : SinkRun σ :=
  paths.foldl (SinkRun.step emit read format options) ⟨.empty, sink⟩

section OnSink

variable {σ : Type*} (emit : σ → Emission → σ) (sink : σ)
variable (read : Reader) (format : Formatter) (options : ReportOptions)

def BatchRun.givenTo (run : BatchRun) : SinkRun σ := ⟨run.batch, run.shown.foldl emit sink⟩

theorem SinkRun.step_givenTo (run : BatchRun) (p : Path) :
    SinkRun.step emit read format options (run.givenTo emit sink) p =
      (run.step read format options p).givenTo emit sink := by
  simp [SinkRun.step, BatchRun.givenTo, BatchRun.step]

/-- A sink sees what a batch shows and has no say in it. -/
theorem runBatchOn_eq (ps : List Path) :
    runBatchOn emit sink read format options ps =
      (runBatch read format options ps).givenTo emit sink := by
  change ps.foldl (SinkRun.step emit read format options) (BatchRun.start.givenTo emit sink) = _
  exact List.foldl_hom (BatchRun.givenTo emit sink) fun run p =>
    SinkRun.step_givenTo emit sink read format options run p

end OnSink

def collect (buffer : Text) (e : Emission) : Text := buffer ++ e.text

theorem foldl_collect (buffer : Text) (es : List Emission) :
    es.foldl collect buffer = buffer ++ plainText es := by
  induction es generalizing buffer with
  | nil => simp
  | cons e es ih => rw [List.foldl_cons, ih, collect, plainText_cons, List.append_assoc]

theorem collected_runBatch (read : Reader) (format : Formatter) (options : ReportOptions)
    (ps : List Path) :
    (runBatchOn collect [] read format options ps).sink =
      plainText (runBatch read format options ps).shown := by
  rw [runBatchOn_eq]
  exact foldl_collect [] _

/-- Each file is recorded and shown on its own, in order and on any sink; each header starts a
line; and batches run one after the other make up one batch. -/
theorem batch_is_its_files {σ : Type*} (emit : σ → Emission → σ) (sink : σ) (read : Reader)
    (format : Formatter) (options : ReportOptions) (xs ys : List Path) (p : Path) :
    let report := reportFile read format
    let block := fun p => (report p).emissions options
    let alone := runBatch read format options
    let onSink := fun s ps => runBatchOn emit s read format options ps
    ((onSink sink xs).batch = (alone xs).batch ∧ (alone xs).batch.files = xs.map report) ∧
      ((onSink sink xs).sink = (alone xs).shown.foldl emit sink ∧
        (alone xs).shown = xs.flatMap block) ∧
      (∀ r : FileReport, (plainText (r.emissions options)).getLast? = some '\n') ∧
      (Ended (plainText (alone xs).shown) ∧
        (alone (xs ++ p :: ys)).shown =
          (alone xs).shown ++ testingEmission p ::
            ((report p).outcome.emissions options ++ (alone ys).shown)) ∧
      ((alone (xs ++ ys)).batch.files = (alone xs).batch.files ++ (alone ys).batch.files ∧
        (alone (xs ++ ys)).shown = (alone xs).shown ++ (alone ys).shown ∧
        (onSink sink (xs ++ ys)).sink = (onSink (onSink sink xs).sink ys).sink) := by
  intro report block alone onSink
  have hfiles (ps : List Path) : (alone ps).batch.files = ps.map report :=
    files_runBatch read format options ps
  have hshown (ps : List Path) : (alone ps).shown = ps.flatMap block :=
    shown_runBatch read format options ps
  have hsink (s : σ) (ps : List Path) : (onSink s ps).sink = (alone ps).shown.foldl emit s :=
    congrArg SinkRun.sink (runBatchOn_eq emit s read format options ps)
  refine ⟨⟨?_, hfiles xs⟩, ⟨hsink sink xs, hshown xs⟩, ?_, ⟨?_, ?_⟩, ?_, ?_, ?_⟩
  · exact congrArg SinkRun.batch (runBatchOn_eq emit sink read format options xs)
  · intro r
    exact r.getLast?_emissions options
  · exact ended_runBatch read format options xs
  · rw [hshown, hshown, hshown, List.flatMap_append, List.flatMap_cons]
    rfl
  · rw [hfiles, hfiles, hfiles, List.map_append]
  · rw [hshown, hshown, hshown, List.flatMap_append]
  · rw [hsink, hsink, hsink, hshown, hshown, hshown, List.flatMap_append, List.foldl_append]

open Emission

theorem FileReport.passed_iff (r : FileReport) :
    r.passed = true ↔ r.outcome = .checked .equivalent := by
  obtain ⟨path, outcome⟩ := r
  cases outcome with
  | errored f => simp [passed, Outcome.passed]
  | checked v => cases v <;> simp [passed, Outcome.passed]

namespace Batch

structure Tallied (b : Batch) : Prop where
  passed : b.passed = b.files.countP fun r => r.outcome = .checked .equivalent
  failed : b.failed = b.files.countP fun r => r.outcome ≠ .checked .equivalent

theorem tallied_empty : Tallied empty := ⟨rfl, rfl⟩

theorem Tallied.record {b : Batch} (h : b.Tallied) (r : FileReport) : (b.record r).Tallied := by
  by_cases hr : r.passed = true
  · have hout := r.passed_iff.mp hr
    constructor
    · simp [Batch.record, hr, hout, h.passed]
    · simp [Batch.record, hr, hout, h.failed]
  · have hout := mt r.passed_iff.mpr hr
    constructor
    · simp [Batch.record, hr, hout, h.passed]
    · simp [Batch.record, hr, hout, h.failed]

theorem Tallied.foldl_record {b : Batch} (h : b.Tallied) (rs : List FileReport) :
    (rs.foldl Batch.record b).Tallied := by
  induction rs generalizing b with
  | nil => exact h
  | cons r rs ih => exact ih (h.record r)

theorem files_foldl_record (b : Batch) (rs : List FileReport) :
    (rs.foldl record b).files = b.files ++ rs := by
  induction rs generalizing b with
  | nil => simp
  | cons r rs ih => rw [List.foldl_cons, ih, files_record, List.append_assoc,
      List.singleton_append]

theorem Tallied.isPass_iff {b : Batch} (h : b.Tallied) :
    b.isPass = true ↔ ∀ r ∈ b.files, r.outcome = .checked .equivalent := by
  rw [isPass, h.failed, beq_iff_eq, List.countP_eq_zero]
  simp

theorem exitCode_eq_zero_iff (b : Batch) : b.exitCode = 0 ↔ b.isPass = true := by
  unfold exitCode
  split
  · next h => exact iff_of_true rfl h
  · next h => exact iff_of_false Nat.one_ne_zero h

theorem exitCode_le_one (b : Batch) : b.exitCode ≤ 1 := by
  unfold exitCode
  split
  · exact Nat.zero_le 1
  · exact Nat.le_refl 1

theorem batch_runBatch (read : Reader) (format : Formatter) (options : ReportOptions)
    (ps : List Path) :
    (runBatch read format options ps).batch =
      (ps.map (reportFile read format)).foldl record .empty := by
  rw [List.foldl_map]
  exact (List.foldl_hom BatchRun.batch fun _ _ => rfl).symm

theorem exitCode_record_empty (r : FileReport) :
    (empty.record r).exitCode = if r.passed then 0 else 1 := by
  unfold record
  split <;> rfl

theorem exitCode_runBatch_eq_zero_iff (read : Reader) (format : Formatter)
    (options : ReportOptions) (ps : List Path) :
    (runBatch read format options ps).batch.exitCode = 0 ↔
      ∀ p ∈ ps, checkFile read format p = .checked .equivalent := by
  rw [exitCode_eq_zero_iff, batch_runBatch, (tallied_empty.foldl_record _).isPass_iff,
    files_foldl_record]
  exact List.forall_mem_map

end Batch

namespace SummaryEntry

end SummaryEntry

end LayoutCheck
