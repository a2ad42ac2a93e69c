import LayoutCheck.Program
import LayoutCheck.Proofs.Config.Layers
import LayoutCheck.Proofs.Host.Fixtures
import LayoutCheck.Proofs.Host.Writing
import LayoutCheck.Proofs.Report.Blocks
import LayoutCheck.Proofs.Report.Terminal
import Mathlib

/-! # Exit codes

A check exits with zero exactly if everything went well from its configuration to its summary.
Only faults of the configuration end it early, and no fault of a file is one of them. A
comparison ends like a batch of one file. -/

namespace LayoutCheck

/-- Whatever goes wrong in `x` ends a check, or else none of it does. -/
def FaultsAre {α : Type} (fatal : Bool) (x : Except Fault α) : Prop :=
  ∀ fault, x = .error fault → fault.isFatal = fatal

theorem faultsAre_ok {α : Type} {fatal : Bool} (a : α) : FaultsAre fatal (.ok a) := by
  intro fault h
  cases h

theorem faultsAre_error {α : Type} {fatal : Bool} {fault : Fault} (h : fault.isFatal = fatal) :
    FaultsAre fatal (.error fault : Except Fault α) := by
  intro fault' h'
  rw [← Except.error.inj h', h]

theorem FaultsAre.map {α β : Type} {fatal : Bool} {x : Except Fault α} (h : FaultsAre fatal x)
    (f : α → β) : FaultsAre fatal (x.map f) := by
  cases x with
  | ok a => exact faultsAre_ok (f a)
  | error fault => exact faultsAre_error (h fault rfl)

theorem faultsAre_load (t : FileTree) (p : Path) : FaultsAre true (ConfigFile.load t p) := by
  unfold ConfigFile.load
  split
  · exact faultsAre_error rfl
  · split
    · exact faultsAre_error rfl
    · exact faultsAre_ok _

theorem faultsAre_resolve (t : FileTree) (onTerminal : Bool) (o : CheckOptions) :
    FaultsAre true (Settings.resolve t onTerminal o) := by
  rw [Settings.resolve_eq]
  apply FaultsAre.map
  cases o.config with
  | none => exact faultsAre_ok _
  | some p => exact faultsAre_load t p

theorem faultsAre_validate (t : FileTree) (s : Settings) : FaultsAre true (s.validate t) := by
  unfold Settings.validate
  split
  · exact faultsAre_error rfl
  · split
    · exact faultsAre_error rfl
    · split
      · exact faultsAre_error rfl
      · exact faultsAre_ok _

theorem faultsAre_discover (t : FileTree) (root : Path) (extension : Text) :
    FaultsAre true (discover t root extension) := by
  unfold discover
  split
  · split
    · exact faultsAre_ok _
    · exact faultsAre_error rfl
  · exact faultsAre_error rfl

theorem faultsAre_writeSummary (t : FileTree) (batch : Batch) (target : Option Path) :
    FaultsAre true (writeSummary t batch target) := by
  unfold writeSummary
  split
  · exact faultsAre_ok _
  · split
    · exact faultsAre_error rfl
    · split
      · exact faultsAre_ok _
      · exact faultsAre_error rfl

theorem faultsAre_result (timeout : Duration) (p : Execution) :
    FaultsAre false (ExternalFormatter.result timeout p) := by
  unfold ExternalFormatter.result
  split
  · exact faultsAre_error rfl
  · split
    · split
      · exact faultsAre_ok _
      · exact faultsAre_error rfl
    · exact faultsAre_error rfl

theorem faultsAre_format? {f : ExternalFormatter} {launch : Launch} {now : Instant} {path : Path}
    {x : Except Fault Text} (h : f.format? launch now path = some x) : FaultsAre false x := by
  unfold ExternalFormatter.format? at h
  split at h
  · rw [← Option.some.inj h]
    exact faultsAre_error rfl
  · obtain ⟨_, -, hresult⟩ := Option.map_eq_some_iff.mp h
    rw [← hresult]
    exact faultsAre_result _ _

theorem format?_of_launched {f : ExternalFormatter} {launch : Launch} {now deadline : Instant}
    {path : Path} {e : Execution} (hl : launch f.executable path = .ok e)
    (hd : now.add? f.timeout = some deadline) :
    f.format? launch now path = some (ExternalFormatter.result f.timeout e) := by
  rw [ExternalFormatter.format?, hl, hd]
  rfl

namespace Host

structure Prepared (h : Host) (o : CheckOptions) (s : Settings) (files : List Path) : Prop where
  resolved : Settings.resolve h.tree h.onTerminal o = .ok s
  valid : s.validate h.tree = .ok ()
  discovered : discover h.tree s.fixtureDir s.extension = .ok files

inductive Refused (h : Host) (o : CheckOptions) (fault : Fault) : Prop where
  | unresolved : Settings.resolve h.tree h.onTerminal o = .error fault → Refused h o fault
  | invalid {s : Settings} : Settings.resolve h.tree h.onTerminal o = .ok s →
      s.validate h.tree = .error fault → Refused h o fault
  | undiscovered {s : Settings} : Settings.resolve h.tree h.onTerminal o = .ok s →
      s.validate h.tree = .ok () →
      discover h.tree s.fixtureDir s.extension = .error fault → Refused h o fault

/-- On each fixture that can be read the formatter of the settings comes to what `format` says;
so its deadline can be represented. -/
def FormatsBy (h : Host) (o : CheckOptions) (format : Formatter) : Prop :=
  ∀ s files, h.Prepared o s files → ∀ p ∈ files, ∀ text, h.tree.readText p = .ok text →
    s.formatter.format? h.launch (h.clock p) p = some (format p)

variable {h : Host} {o : CheckOptions}

theorem prepareCheck_eq (t : FileTree) (onTerminal : Bool) (o : CheckOptions) :
    prepareCheck t onTerminal o =
      (Settings.resolve t onTerminal o).bind fun s =>
        (s.validate t).bind fun _ =>
          (discover t s.fixtureDir s.extension).bind fun files => .ok (s, files) := rfl

theorem prepareCheck_of_prepared {s : Settings} {files : List Path} (hp : h.Prepared o s files) :
    prepareCheck h.tree h.onTerminal o = .ok (s, files) := by
  simp only [prepareCheck_eq, hp.resolved, hp.valid, hp.discovered, Except.bind]

theorem prepareCheck_of_refused {fault : Fault} (hr : h.Refused o fault) :
    prepareCheck h.tree h.onTerminal o = .error fault := by
  cases hr with
  | unresolved hs => simp only [prepareCheck_eq, hs, Except.bind]
  | invalid hs hv => simp only [prepareCheck_eq, hs, hv, Except.bind]
  | undiscovered hs hv hd => simp only [prepareCheck_eq, hs, hv, hd, Except.bind]

theorem prepared_or_refused (h : Host) (o : CheckOptions) :
    (∃ s files, h.Prepared o s files) ∨ ∃ fault, h.Refused o fault := by
  cases hs : Settings.resolve h.tree h.onTerminal o with
  | error fault => exact Or.inr ⟨fault, .unresolved hs⟩
  | ok s =>
    cases hv : s.validate h.tree with
    | error fault => exact Or.inr ⟨fault, .invalid hs hv⟩
    | ok u =>
      cases hd : discover h.tree s.fixtureDir s.extension with
      | error fault => exact Or.inr ⟨fault, .undiscovered hs hv hd⟩
      | ok files => exact Or.inl ⟨s, files, hs, hv, hd⟩

theorem Refused.isFatal {fault : Fault} (hr : h.Refused o fault) : fault.isFatal = true := by
  cases hr with
  | unresolved hs => exact faultsAre_resolve _ _ _ fault hs
  | invalid _ hv => exact faultsAre_validate _ _ fault hv
  | undiscovered _ _ hd => exact faultsAre_discover _ _ _ fault hd

theorem check_of_refused {fault : Fault} (hr : h.Refused o fault) :
    h.check o = .failed h.tree fault := by
  rw [check, prepareCheck_of_refused hr]

theorem Prepared.unique {s s' : Settings} {files files' : List Path} (hp : h.Prepared o s files)
    (hp' : h.Prepared o s' files') : s = s' ∧ files = files' :=
  Prod.mk.inj (Except.ok.inj ((prepareCheck_of_prepared hp).symm.trans
    (prepareCheck_of_prepared hp')))

end Host

theorem runBatch_congr {read : Reader} {format format' : Formatter} (options : ReportOptions)
    {ps : List Path} (h : ∀ p ∈ ps, checkFile read format p = checkFile read format' p) :
    runBatch read format options ps = runBatch read format' options ps := by
  apply List.foldl_ext
  intro run p hp
  rw [BatchRun.step, BatchRun.step, h p hp]

theorem checkFile_congr {read : Reader} {format format' : Formatter} {p : Path}
    (h : ∀ text, read p = .ok text → format p = format' p) :
    checkFile read format p = checkFile read format' p := by
  unfold checkFile
  cases hread : read p with
  | error cause => rfl
  | ok text => rw [h text hread]

theorem finishCheck_congr {tree : FileTree} {format format' : Formatter} (o : CheckOptions)
    (s : Settings) {files : List Path}
    (h : ∀ p ∈ files, checkFile tree.readText format p = checkFile tree.readText format' p) :
    finishCheck tree format o s files = finishCheck tree format' o s files := by
  unfold finishCheck
  rw [runBatch_congr _ h]

theorem not_isFatal_of_checkFile {read : Reader} {format : Formatter} {p : Path} {fault : Fault}
    (hformat : ∀ text, read p = .ok text → FaultsAre false (format p))
    (h : checkFile read format p = .errored fault) : fault.isFatal = false := by
  unfold checkFile at h
  split at h
  · obtain rfl := Outcome.errored.inj h
    rfl
  · next text hread =>
    split at h
    · cases h
    · next f hf =>
      obtain rfl := Outcome.errored.inj h
      exact hformat text hread f hf

namespace Host

variable {h : Host} {o : CheckOptions} {format : Formatter} {s : Settings} {files : List Path}

theorem check_of_prepared (hf : h.FormatsBy o format) (hp : h.Prepared o s files) :
    h.check o = finishCheck h.tree format o s files := by
  have hresult : ∀ p ∈ files, ∀ text, h.tree.readText p = .ok text →
      s.formatter.format? h.launch (h.clock p) p = some (format p) := hf s files hp
  have hnone : files.dropWhile
      (fun p => !s.formatter.breaksOn h.tree.readText h.launch h.clock p) = [] := by
    rw [List.dropWhile_eq_nil_iff]
    intro p hp
    unfold ExternalFormatter.breaksOn
    cases hread : h.tree.readText p with
    | error cause => rfl
    | ok text =>
      rw [hresult p hp text hread]
      rfl
  rw [check, prepareCheck_of_prepared hp]
  simp only [hnone]
  apply finishCheck_congr
  intro p hp
  apply checkFile_congr
  intro text hread
  rw [ExternalFormatter.formatter, hresult p hp text hread]
  rfl

end Host

section Finish

def checkRun (tree : FileTree) (format : Formatter) (s : Settings) (files : List Path) : BatchRun :=
  runBatch tree.readText format ⟨s.showCanonical⟩ files

variable {tree : FileTree} {format : Formatter} {o : CheckOptions} {s : Settings}
  {files : List Path}

theorem finishCheck_of_written {after : FileTree}
    (hw : writeSummary tree (checkRun tree format s files).batch o.jsonSummary = .ok after) :
    let run := checkRun tree format s files
    finishCheck tree format o s files =
      ⟨run.shown ++ run.batch.summaryEmissions ++
          [.say (summaryOn after run.batch .output o.jsonSummary)],
        s.useColors, summaryOn after run.batch .errors o.jsonSummary, run.batch.exitCode, after⟩ := by
  unfold checkRun at hw ⊢
  dsimp only [finishCheck]
  rw [hw]

theorem finishCheck_of_unwritten {fault : Fault}
    (hw : writeSummary tree (checkRun tree format s files).batch o.jsonSummary = .error fault) :
    let run := checkRun tree format s files
    finishCheck tree format o s files =
      ⟨run.shown ++ run.batch.summaryEmissions, s.useColors, fault.diagnostic, 1, tree⟩ := by
  unfold checkRun at hw ⊢
  dsimp only [finishCheck]
  rw [hw]

theorem finishCheck_exitCode_eq_zero_iff :
    (finishCheck tree format o s files).exitCode = 0 ↔
      (∀ p ∈ files, checkFile tree.readText format p = .checked .equivalent) ∧
        writeSummary tree (checkRun tree format s files).batch o.jsonSummary =
          .ok (finishCheck tree format o s files).tree := by
  rw [← Batch.exitCode_runBatch_eq_zero_iff tree.readText format ⟨s.showCanonical⟩ files]
  cases hw : writeSummary tree (checkRun tree format s files).batch o.jsonSummary with
  | ok after =>
    rw [finishCheck_of_written hw]
    exact (and_iff_left rfl).symm
  | error fault =>
    rw [finishCheck_of_unwritten hw]
    simp

theorem finishCheck_exitCode_le_one : (finishCheck tree format o s files).exitCode ≤ 1 := by
  cases hw : writeSummary tree (checkRun tree format s files).batch o.jsonSummary with
  | ok after =>
    rw [finishCheck_of_written hw]
    exact Batch.exitCode_le_one _
  | error fault => rw [finishCheck_of_unwritten hw]

theorem finishCheck_shown :
    ∃ rest, (finishCheck tree format o s files).shown = (checkRun tree format s files).shown ++
      (checkRun tree format s files).batch.summaryEmissions ++ rest := by
  cases hw : writeSummary tree (checkRun tree format s files).batch o.jsonSummary with
  | ok after => exact ⟨_, by rw [finishCheck_of_written hw]⟩
  | error fault => exact ⟨[], by rw [finishCheck_of_unwritten hw, List.append_nil]⟩

theorem Summary.fileText_ne_nil (s : Summary) : s.fileText ≠ [] :=
  List.append_ne_nil_of_right_ne_nil _ (List.cons_ne_nil _ _)

theorem FileTree.readText_of_contents {t : FileTree} {p : Path} {text : Text}
    (hp : hasNul p = false) (h : t.contents p = .ok text.utf8) : t.readText p = .ok text := by
  simp [readText, hp, h, Utf8.decode?_eq_some_iff.mpr rfl]

/-- The summary of a run is where it was asked for: its path reads as the text of the summary, or
leads to a device that has taken that text. -/
def SummaryKept (tree : FileTree) (run : BatchRun) (e : ProgramEnd) : Option Path → Prop
  | none => e.tree = tree
  | some p => e.tree.readText p = .ok run.batch.summary.fileText ∨
      ∃ d, tree.node p = .ok (.device d) ∧ d ≠ .full ∧ e.tree = tree ∧
        (d = .output → e.shown = run.shown ++ run.batch.summaryEmissions ++
          [.say run.batch.summary.fileText]) ∧
        (d = .errors → e.diagnostic = run.batch.summary.fileText)

def Unkept (tree : FileTree) (p : Path) : Prop := FileTree.hasNul p = true ∨ tree.Unwritable p

theorem written_of_writeSummary {batch : Batch} {p : Path} {after : FileTree}
    (hw : writeSummary tree batch (some p) = .ok after) :
    FileTree.hasNul p = false ∧ tree.write p batch.summary.fileText.utf8 = .ok after := by
  unfold writeSummary at hw
  dsimp only at hw
  split at hw
  · cases hw
  · next hp =>
    split at hw
    · next hwrite =>
      obtain rfl := Except.ok.inj hw
      exact ⟨Bool.eq_false_iff.mpr hp, hwrite⟩
    · cases hw

theorem unkept_of_writeSummary {batch : Batch} {target : Option Path} {fault : Fault}
    (hw : writeSummary tree batch target = .error fault) :
    ∃ p, target = some p ∧ Unkept tree p := by
  cases target with
  | none => cases hw
  | some p =>
    unfold writeSummary at hw
    dsimp only at hw
    split at hw
    · next hp => exact ⟨p, rfl, Or.inl hp⟩
    · split at hw
      · cases hw
      · next hwrite => exact ⟨p, rfl, Or.inr (FileTree.unwritable_of_write hwrite)⟩

theorem finishCheck_kept {after : FileTree}
    (hw : writeSummary tree (checkRun tree format s files).batch o.jsonSummary = .ok after) :
    SummaryKept tree (checkRun tree format s files) (finishCheck tree format o s files)
      o.jsonSummary := by
  rw [finishCheck_of_written hw]
  generalize (checkRun tree format s files) = run at hw
  cases htarget : o.jsonSummary with
  | none =>
    rw [htarget] at hw
    exact (Except.ok.inj hw).symm
  | some p =>
    rw [htarget] at hw
    obtain ⟨hp, hwrite⟩ := written_of_writeSummary hw
    rcases FileTree.contents_of_write hwrite with hcontents | ⟨d, hd, hfull, rfl⟩
    · exact Or.inl (FileTree.readText_of_contents hp hcontents)
    · have hshown (stream : Device) (h : d = stream) :
          summaryOn after run.batch stream (some p) = run.batch.summary.fileText := by
        simp [summaryOn, hd, h]
      refine Or.inr ⟨d, hd, ?_, rfl, fun h => ?_, hshown .errors⟩
      · -- a full device takes only the empty text, and no summary is empty
        intro h
        have hread := Utf8.decode?_eq_some_iff.mpr (hfull h).symm
        have hempty : Utf8.decode? [] = some [] := Utf8.decode?_eq_some_iff.mpr rfl
        exact Summary.fileText_ne_nil _ (Option.some.inj (hread.symm.trans hempty))
      · rw [hshown .output h]

end Finish

namespace Host

/-- How a check ends whose formatter comes to `format`. -/
structure CheckEnds (h : Host) (o : CheckOptions) (format : Formatter) (e : ProgramEnd) :
    Prop where
  zero : e.exitCode = 0 ↔ ∃ s files, h.Prepared o s files ∧
    (∀ p ∈ files, checkFile h.tree.readText format p = .checked .equivalent) ∧
    writeSummary h.tree (checkRun h.tree format s files).batch o.jsonSummary = .ok e.tree
  one : e.exitCode ≠ 0 → e.exitCode = 1
  refused : ∀ fault, h.Refused o fault →
    e.exitCode = 1 ∧ e.output = [] ∧ e.tree = h.tree ∧ fault.isFatal = true
  complete : ∀ s files, h.Prepared o s files →
    let run := checkRun h.tree format s files
    (∃ rest, e.shown = run.shown ++ run.batch.summaryEmissions ++ rest) ∧
      (∀ r ∈ run.batch.files, ∀ fault, r.outcome = .errored fault → fault.isFatal = false) ∧
      ∀ fault, writeSummary h.tree run.batch o.jsonSummary = .error fault →
        e.exitCode = 1 ∧ fault.isFatal = true
  kept : ∀ s files, h.Prepared o s files →
    let run := checkRun h.tree format s files
    (∀ after, writeSummary h.tree run.batch o.jsonSummary = .ok after →
      e.tree = after ∧ SummaryKept h.tree run e o.jsonSummary) ∧
      ∀ fault, writeSummary h.tree run.batch o.jsonSummary = .error fault →
        e.tree = h.tree ∧ ∃ p, o.jsonSummary = some p ∧ Unkept h.tree p

theorem checkEnds_check {h : Host} {o : CheckOptions} {format : Formatter}
    (hf : h.FormatsBy o format) : h.CheckEnds o format (h.check o) := by
  constructor
  · constructor
    · intro hzero
      rcases h.prepared_or_refused o with ⟨s, files, hp⟩ | ⟨fault, hr⟩
      · rw [check_of_prepared hf hp] at hzero ⊢
        exact ⟨s, files, hp, finishCheck_exitCode_eq_zero_iff.mp hzero⟩
      · rw [check_of_refused hr] at hzero
        cases hzero
    · rintro ⟨s, files, hp, hall⟩
      rw [check_of_prepared hf hp] at hall ⊢
      exact finishCheck_exitCode_eq_zero_iff.mpr hall
  · intro hne
    rcases h.prepared_or_refused o with ⟨s, files, hp⟩ | ⟨fault, hr⟩
    · rw [check_of_prepared hf hp] at hne ⊢
      exact Nat.le_antisymm finishCheck_exitCode_le_one (Nat.one_le_iff_ne_zero.mpr hne)
    · rw [check_of_refused hr]
      rfl
  · intro fault hr
    rw [check_of_refused hr]
    exact ⟨rfl, rfl, rfl, hr.isFatal⟩
  · intro s files hp run
    rw [check_of_prepared hf hp]
    refine ⟨finishCheck_shown, ?_, ?_⟩
    · intro r hr fault hfault
      rw [show run.batch.files = _ from files_runBatch _ _ _ _] at hr
      obtain ⟨p, hmem, rfl⟩ := List.mem_map.mp hr
      exact not_isFatal_of_checkFile
        (fun text hread => faultsAre_format? (hf s files hp p hmem text hread)) hfault
    · intro fault hw
      rw [finishCheck_of_unwritten hw]
      exact ⟨rfl, faultsAre_writeSummary _ _ _ fault hw⟩
  · intro s files hp run
    rw [check_of_prepared hf hp]
    constructor
    · intro after hw
      refine ⟨?_, finishCheck_kept hw⟩
      rw [finishCheck_of_written hw]
    · intro fault hw
      refine ⟨?_, unkept_of_writeSummary hw⟩
      rw [finishCheck_of_unwritten hw]

end Host

theorem ProgramEnd.output_of_uncolored {e : ProgramEnd} (h : e.colored = false) :
    e.output = (Emission.plainText e.shown).utf8 := by
  rw [output, Stream.emitAll_unlimited rfl, h, Stream.output_plain]
  rfl

namespace Host

/-- How a comparison of two texts ends: like the batch of the first file alone with a formatter
that gives the second text. -/
structure CompareEnds (h : Host) (o : CompareOptions) (formatted : Text) (e : ProgramEnd) :
    Prop where
  zero : e.exitCode = 0 ↔ (runBatch h.tree.readText (fun _ => .ok formatted) ⟨o.showCanonical⟩
    [o.source]).batch.exitCode = 0
  shown : ∃ body,
    (runBatch h.tree.readText (fun _ => .ok formatted) ⟨o.showCanonical⟩ [o.source]).shown =
      testingEmission o.source :: body ∧
    e.shown = comparingEmission o :: body ∧
    (e.colored = false → e.output =
      ((comparingEmission o).text ++ Emission.plainText body).utf8)

theorem compareEnds_compare {h : Host} {o : CompareOptions} {source formatted : Text}
    (hs : h.tree.readText o.source = .ok source)
    (hf : h.tree.readText o.formatted = .ok formatted) :
    h.CompareEnds o formatted (h.compare o) := by
  have hcheck : checkFile h.tree.readText (fun _ => .ok formatted) o.source =
      .checked (evaluate source formatted) := by
    simp only [checkFile, hs]
  have hreport : reportFile h.tree.readText (fun _ => .ok formatted) o.source =
      ⟨o.source, .checked (evaluate source formatted)⟩ := by
    rw [reportFile, hcheck]
  have hcompare : h.compare o =
      ⟨comparingEmission o :: (Outcome.checked (evaluate source formatted)).emissions
          ⟨o.showCanonical⟩, h.onTerminal && !o.noColor, [],
        if (Outcome.checked (evaluate source formatted)).passed then 0 else 1, h.tree⟩ := by
    simp only [compare, readSource, hs, hf]
  constructor
  · rw [Batch.batch_runBatch, List.map_singleton, hreport, List.foldl_cons, List.foldl_nil,
      Batch.exitCode_record_empty, hcompare]
    exact Iff.rfl
  · refine ⟨(Outcome.checked (evaluate source formatted)).emissions ⟨o.showCanonical⟩, ?_, ?_, ?_⟩
    · rw [shown_runBatch, List.flatMap_singleton, hreport]
      rfl
    · rw [hcompare]
    · intro hcolored
      rw [ProgramEnd.output_of_uncolored hcolored, hcompare, Emission.plainText_cons]

theorem run_of_parse (h : Host) {arguments : List Text} {line : CommandLine}
    (hline : CommandLine.parse arguments = .ok line) :
    h.run arguments = match line.command with
      | .check o => h.check o
      | .canonicalize file => h.canonicalForm file
      | .compare o => h.compare o := by
  obtain ⟨_, command⟩ := line
  cases command <;> simp only [run, hline]

end Host

open Host

/-- A check exits with zero exactly if its settings, its fixtures, every file and the summary are
fine, and with one otherwise; nothing is shown if it does not get to its files, and it gets through
all of them else. A summary that counts as written can be read at its path, or a device has taken
it. A comparison exits and shows like a batch of its first file. -/
theorem exit_codes_tell_truth (h : Host) {arguments : List Text} {line : CommandLine}
    (hline : CommandLine.parse arguments = .ok line) :
    (∀ o format, line.command = .check o → h.FormatsBy o format →
        h.CheckEnds o format (h.run arguments)) ∧
      ∀ o source formatted, line.command = .compare o →
        h.tree.readText o.source = .ok source → h.tree.readText o.formatted = .ok formatted →
          h.CompareEnds o formatted (h.run arguments) := by
  have hrun := h.run_of_parse hline
  constructor
  · intro o format ho hf
    rw [hrun, ho]
    exact checkEnds_check hf
  · intro o source formatted ho hs hf
    rw [hrun, ho]
    exact compareEnds_compare hs hf

/-- A host with the fixture `d/a.prp` and the formatter `f`, which keeps its first line only. -/
def droppingHost : Host where
  tree :=
    { root := .directory [([0x66], .file [] true),
        ([0x64], .directory [([0x61, 0x2E, 0x70, 0x72, 0x70], .file [0x61, 0x0A, 0x62] false)])]
      workingDir := [] }
  onTerminal := false
  clock := fun _ => ⟨0, 0⟩
  launch := fun _ _ => .ok ⟨.exited 0, [0x61, 0x0A], [], some 0, some 0⟩

/-- The same host, which does not list the directory of the fixture. -/
def closedHost : Host :=
  { droppingHost with
    tree := { droppingHost.tree with
      unlistable := fun names => if names = [[0x64]] then some .noPermission else none } }

def droppingOptions : CheckOptions :=
  ⟨none, some ⟨[0x66]⟩, some ⟨[0x64]⟩, none, none, false, false, some ⟨[0x73]⟩⟩

def droppingSettings : Settings :=
  { Settings.default false with executable := ⟨[0x66]⟩, fixtureDir := ⟨[0x64]⟩ }

def droppedFixture : Path := ⟨[0x64, 0x2F, 0x61, 0x2E, 0x70, 0x72, 0x70]⟩

theorem prepared_droppingHost :
    droppingHost.Prepared droppingOptions droppingSettings [droppedFixture] where
  resolved := rfl
  valid := by cbv
  discovered := by cbv

theorem formatsBy_droppingHost :
    droppingHost.FormatsBy droppingOptions fun _ => .ok ['a', '\n'] := by
  intro s files hp p _ text _
  obtain ⟨rfl, -⟩ := hp.unique prepared_droppingHost
  have hdeadline : (droppingHost.clock p).add? droppingSettings.timeout = some ⟨30, 0⟩ := by rfl
  have hresult : ExternalFormatter.result droppingSettings.timeout
      ⟨.exited 0, [0x61, 0x0A], [], some 0, some 0⟩ = .ok ['a', '\n'] := by cbv
  rw [format?_of_launched (e := ⟨.exited 0, [0x61, 0x0A], [], some 0, some 0⟩) rfl hdeadline]
  exact congrArg some hresult

theorem locate_summary_droppingHost :
    droppingHost.tree.locate .making ⟨[0x73]⟩ = .ok ⟨[[0x73]], none⟩ := by cbv

theorem node_summary_droppingHost : droppingHost.tree.node ⟨[0x73]⟩ = .error .noEntry := by cbv

theorem not_unkept_droppingHost : ¬ Unkept droppingHost.tree ⟨[0x73]⟩ := by
  rintro (hnul | hplace | hplace | hplace | hplace)
  · revert hnul
    decide
  all_goals
    rw [locate_summary_droppingHost] at hplace
    cases hplace

theorem refused_closedHost :
    closedHost.Refused droppingOptions (.unlisted ⟨[0x64]⟩ .noPermission) := by
  have hvalid : droppingSettings.validate closedHost.tree = .ok () := by cbv
  have hdir : closedHost.tree.isDirectory ⟨[0x64]⟩ = true := by cbv
  have hentries : closedHost.tree.entries ⟨[0x64]⟩ = .error .noPermission := by cbv
  exact .undiscovered (s := droppingSettings) rfl hvalid
    (FileTree.discover_of_unlistable hdir hentries _)

theorem formatsBy_of_refused {h : Host} {o : CheckOptions} {fault : Fault} (hr : h.Refused o fault)
    (format : Formatter) : h.FormatsBy o format := by
  intro s files hp
  have hfound := prepareCheck_of_prepared hp
  rw [prepareCheck_of_refused hr] at hfound
  cases hfound

/-- A check that drops a line exits with one and leaves its summary to be read. In a directory that
is not listed it does not get to a file. -/
theorem exit_codes_tell_truth_dropped_line :
    let arguments := ["check", "--formatter=f", "--fixtures", "d", "--json-summary", "s"].map
      String.toList
    let format : Formatter := fun _ => .ok ['a', '\n']
    CommandLine.parse arguments = .ok ⟨0, .check droppingOptions⟩ ∧
      droppingHost.FormatsBy droppingOptions format ∧
      (droppingHost.run arguments).exitCode = 1 ∧
      (droppingHost.run arguments).tree.readText ⟨[0x73]⟩ =
        .ok (checkRun droppingHost.tree format droppingSettings
          [droppedFixture]).batch.summary.fileText ∧
      closedHost.Refused droppingOptions (.unlisted ⟨[0x64]⟩ .noPermission) ∧
      (closedHost.run arguments).exitCode = 1 ∧ (closedHost.run arguments).output = [] := by
  intro arguments format
  have hline : CommandLine.parse arguments = .ok ⟨0, .check droppingOptions⟩ := by rfl
  have hends := (exit_codes_tell_truth droppingHost hline).1 _ _ rfl formatsBy_droppingHost
  have hclosed := ((exit_codes_tell_truth closedHost hline).1 _ _ rfl
    (formatsBy_of_refused refused_closedHost format)).refused _ refused_closedHost
  refine ⟨hline, formatsBy_droppingHost, hends.one fun hzero => ?_, ?_, refused_closedHost,
    hclosed.1, hclosed.2.1⟩
  · obtain ⟨s, files, hp, hall, -⟩ := hends.zero.mp hzero
    obtain ⟨-, rfl⟩ := hp.unique prepared_droppingHost
    have hread : droppingHost.tree.readText droppedFixture = .ok ['a', '\n', 'b'] := by cbv
    have houtcome := hall droppedFixture List.mem_cons_self
    simp only [checkFile, hread] at houtcome
    have hdivergent : ¬ Equivalent ['a', '\n', 'b'] ['a', '\n'] := by decide
    rw [evaluate, if_neg hdivergent] at houtcome
    cases houtcome
  · obtain ⟨hkept, hlost⟩ := hends.kept _ _ prepared_droppingHost
    cases hw : writeSummary droppingHost.tree
        (checkRun droppingHost.tree format droppingSettings [droppedFixture]).batch
        droppingOptions.jsonSummary with
    | error fault =>
      obtain ⟨-, p, hp, hunkept⟩ := hlost fault hw
      obtain rfl := Option.some.inj hp
      exact absurd hunkept not_unkept_droppingHost
    | ok after =>
      rcases (hkept after hw).2 with hread | ⟨d, hd, -⟩
      · exact hread
      · rw [node_summary_droppingHost] at hd
        cases hd

end LayoutCheck
