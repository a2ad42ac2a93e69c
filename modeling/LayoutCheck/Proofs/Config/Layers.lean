import LayoutCheck.Config
import LayoutCheck.Proofs.Text.Lines
import Mathlib.Data.List.Basic

/-! # Settings in layers

Layers go on top of each other, and a layer leaves alone what it gives no value for. So each setting
is the one that was given last, whatever the layers are and however many. Relative paths of a file
are meant from its directory, and whatever can be read as a file lies in one. An extension loses the
blanks around it, then the dots in front: no dot there and no blank at the end is ever kept. -/

namespace LayoutCheck

namespace Path

theorem mem_pieces_of_trimEnd {bs : Bytes} (h : trimEnd bs = [slash]) :
    ∀ piece ∈ bs.reverse.splitOn slash, piece = [] ∨ piece = [dot] := by
  fun_induction trimEnd bs with
  | case1 => cases h
  | case2 b =>
    obtain rfl := (List.cons.inj h).1
    decide
  | case3 b c r hb ih =>
    intro piece hp
    rw [List.reverse_cons, beq_iff_eq.mp hb, List.splitOn_append_cons_self,
      List.mem_append] at hp
    rcases hp with hp | hp
    · exact ih h piece hp
    · exact Or.inl (List.mem_singleton.mp hp)
  | case4 b c r hb hdot ih =>
    obtain ⟨hbdot, hcslash⟩ := Bool.and_eq_true_iff.mp hdot
    have hpieces := ih h
    rw [List.reverse_cons, beq_iff_eq.mp hcslash, List.splitOn_append_cons_self] at hpieces
    intro piece hp
    rw [List.reverse_cons, List.reverse_cons, beq_iff_eq.mp hbdot, beq_iff_eq.mp hcslash,
      List.append_assoc, List.singleton_append, List.splitOn_append_cons_self,
      List.mem_append] at hp
    rcases hp with hp | hp
    · exact hpieces piece (List.mem_append_left _ hp)
    · exact Or.inr (List.mem_singleton.mp hp)
  | case5 => cases h

theorem ends_of_trimEnd {bs : Bytes} (h : trimEnd bs = [slash]) :
    bs.head? = some slash ∨ ∃ r, bs = dot :: slash :: r := by
  fun_induction trimEnd bs with
  | case1 => cases h
  | case2 b => exact Or.inl (congrArg List.head? h)
  | case3 b c r hb => exact Or.inl (congrArg some (beq_iff_eq.mp hb))
  | case4 b c r hb hdot =>
    obtain ⟨hbdot, hcslash⟩ := Bool.and_eq_true_iff.mp hdot
    exact Or.inr ⟨r, by rw [beq_iff_eq.mp hbdot, beq_iff_eq.mp hcslash]⟩
  | case5 => cases h

theorem trimEnd_ne_nil {bs : Bytes} (h : bs ≠ []) : trimEnd bs ≠ [] := by
  fun_induction trimEnd bs with
  | case1 => exact h
  | case2 => exact h
  | case3 b c r hb ih => exact ih (List.cons_ne_nil c r)
  | case4 b c r hb hdot ih => exact ih (List.cons_ne_nil c r)
  | case5 => exact h

theorem trimEnd_of_parent_eq_none {p : Path} (hp : p.bytes ≠ []) (h : p.parent = none) :
    trimEnd p.bytes.reverse = [slash] := by
  have hne : trimEnd p.bytes.reverse ≠ [] := trimEnd_ne_nil (mt List.reverse_eq_nil_iff.mp hp)
  unfold parent at h
  split at h
  · next htrim => exact absurd htrim hne
  · next b r htrim =>
    split at h
    · next hroot =>
      obtain ⟨hr, hb⟩ := Bool.and_eq_true_iff.mp hroot
      rw [htrim, of_decide_eq_true hr, beq_iff_eq.mp hb]
    · cases h

end Path

namespace FileTree

open LayoutCheck.Path

def Stays (n : Name) : Prop := n = selfName ∨ n = emptyName

theorem stays_of_mem_steps {p : Path} (h : trimEnd p.bytes.reverse = [slash]) :
    ∀ n ∈ steps p, Stays n := by
  intro n hn
  rw [steps, List.mem_append] at hn
  rcases hn with hn | hn
  · obtain ⟨hpiece, hne⟩ := List.mem_filter.mp hn
    rw [← List.reverse_reverse p.bytes] at hpiece
    rcases mem_pieces_of_trimEnd h n hpiece with rfl | hdot
    · cases hne
    · exact Or.inl hdot
  · split at hn
    · exact Or.inr (List.mem_singleton.mp hn)
    · cases hn

theorem steps_ne_nil {p : Path} (h : trimEnd p.bytes.reverse = [slash]) : steps p ≠ [] := by
  intro hnil
  obtain ⟨hparts, hend⟩ := List.append_eq_nil_iff.mp hnil
  rcases ends_of_trimEnd h with hslash | ⟨r, hr⟩
  · have hasks : p.asksDirectory = true := by
      rw [asksDirectory, ← List.head?_reverse, hslash]
      rfl
    rw [hasks] at hend
    cases hend
  · have hbytes : p.bytes = r.reverse ++ slash :: [dot] := by
      rw [← List.reverse_reverse p.bytes, hr]
      simp
    have hmem : [dot] ∈ p.components := by
      refine List.mem_filter.mpr ⟨?_, rfl⟩
      rw [hbytes, List.splitOn_append_cons_self]
      exact List.mem_append_right _ (List.mem_singleton.mpr rfl)
    rw [hparts] at hmem
    cases hmem

theorem walk_of_stays (t : FileTree) (purpose : Purpose) (links : Nat) (here : List Name)
    {todo : List Name} (hne : todo ≠ []) (h : ∀ n ∈ todo, Stays n) {place : Place}
    (hw : t.walk purpose links here todo = .ok place) :
    ∃ entries, place.node = some (.directory entries) := by
  induction todo with
  | nil => exact absurd rfl hne
  | cons n rest ih =>
    rw [walk] at hw
    split at hw
    · cases hw
    · next entries hget =>
      have hstays : n = selfName ∨ n = emptyName := h n List.mem_cons_self
      rw [if_pos hstays] at hw
      by_cases hrest : rest = []
      · rw [hrest, walk] at hw
        obtain rfl := Except.ok.inj hw
        exact ⟨entries, hget⟩
      · exact ih hrest (fun m hm => h m (List.mem_cons_of_mem n hm)) hw
    · cases hw

theorem locate_of_parent_eq_none {t : FileTree} {p : Path} (h : p.parent = none) {place : Place}
    (hl : t.locate .target p = .ok place) : ∃ entries, place.node = some (.directory entries) := by
  have htrim := trimEnd_of_parent_eq_none (bytes_ne_nil_of_locate hl) h
  have hwalk := locate_eq_walk hl
  rw [hwalk] at hl
  exact t.walk_of_stays .target _ _ (steps_ne_nil htrim) (stays_of_mem_steps htrim) hl

theorem contents_of_parent_eq_none (t : FileTree) {p : Path} (h : p.parent = none) :
    ∃ e, t.contents p = .error e := by
  cases hl : t.locate .target p with
  | error e => exact ⟨e, by rw [contents, node, hl]; rfl⟩
  | ok place =>
    obtain ⟨entries, hnode⟩ := locate_of_parent_eq_none h hl
    have hfound : t.node p = .ok (.directory entries) := by
      obtain ⟨names, found⟩ := place
      obtain rfl : found = some (.directory entries) := hnode
      exact node_of_locate hl
    exact ⟨.isDirectory, by rw [contents, hfound]; rfl⟩

theorem exists_parent_of_readText {t : FileTree} {p : Path} {text : Text}
    (h : t.readText p = .ok text) : ∃ base, p.parent = some base := by
  cases hparent : p.parent with
  | some base => exact ⟨base, rfl⟩
  | none =>
    obtain ⟨e, he⟩ := contents_of_parent_eq_none t hparent
    unfold readText at h
    rw [he] at h
    split at h
    · cases h
    · cases h

end FileTree

structure Overlay where
  executable : Option Path
  fixtureDir : Option Path
  extension : Option Text
  timeout : Option Duration
  showCanonical : Option Bool
  deriving DecidableEq, Repr

structure Overlay.Disjoint (a b : Overlay) : Prop where
  executable : a.executable = none ∨ b.executable = none
  fixtureDir : a.fixtureDir = none ∨ b.fixtureDir = none
  extension : a.extension = none ∨ b.extension = none
  timeout : a.timeout = none ∨ b.timeout = none
  showCanonical : a.showCanonical = none ∨ b.showCanonical = none

/-- One step in the making of settings. -/
inductive Layer where
  | executable (p : Path)
  | fixtureDir (p : Path)
  | extension (t : Text)
  | timeout (d : Duration)
  | file (f : ConfigFile)
  deriving DecidableEq, Repr

namespace Layer

def apply (s : Settings) : Layer → Settings
  | executable p => s.withExecutable p
  | fixtureDir p => s.withFixtureDir p
  | extension t => s.withExtension t
  | timeout d => s.withTimeout d
  | file f => s.applyFile f

/-- Extensions count in their normal form, the seconds of a file as durations. -/
def gives : Layer → Overlay
  | executable p => ⟨some p, none, none, none, none⟩
  | fixtureDir p => ⟨none, some p, none, none, none⟩
  | extension t => ⟨none, none, some (normalizeExtension t), none, none⟩
  | timeout d => ⟨none, none, none, some d, none⟩
  | file f => ⟨f.executable, f.fixtureDir, f.extension.map normalizeExtension,
      f.timeoutSecs.map Duration.ofSecs, f.showCanonical⟩

theorem apply_eq (s : Settings) (l : Layer) :
    l.apply s =
      { executable := l.gives.executable.getD s.executable
        fixtureDir := l.gives.fixtureDir.getD s.fixtureDir
        extension := l.gives.extension.getD s.extension
        timeout := l.gives.timeout.getD s.timeout
        useColors := s.useColors
        showCanonical := l.gives.showCanonical.getD s.showCanonical } := by
  cases l <;> rfl

def last {α : Type*} (value : Overlay → Option α) (layers : List Layer) : Option α :=
  layers.reverse.findSome? fun l => value l.gives

theorem last_cons {α : Type*} (value : Overlay → Option α) (l : Layer) (layers : List Layer) :
    last value (l :: layers) = (last value layers).or (value l.gives) := by
  simp [last, List.findSome?_append]

theorem foldl_apply {α : Type*} (setting : Settings → α) {value : Overlay → Option α}
    (hstep : ∀ s l, setting (apply s l) = (value l.gives).getD (setting s)) (layers : List Layer)
    (s : Settings) : setting (layers.foldl apply s) = (last value layers).getD (setting s) := by
  induction layers generalizing s with
  | nil => rfl
  | cons l layers ih =>
    rw [List.foldl_cons, ih, hstep, last_cons]
    cases last value layers <;> rfl

theorem useColors_foldl_apply (layers : List Layer) (s : Settings) :
    (layers.foldl apply s).useColors = s.useColors := by
  induction layers generalizing s with
  | nil => rfl
  | cons l layers ih => rw [List.foldl_cons, ih, apply_eq]

theorem foldl_apply_eq (layers : List Layer) (s : Settings) :
    layers.foldl apply s =
      { executable := (last (·.executable) layers).getD s.executable
        fixtureDir := (last (·.fixtureDir) layers).getD s.fixtureDir
        extension := (last (·.extension) layers).getD s.extension
        timeout := (last (·.timeout) layers).getD s.timeout
        useColors := s.useColors
        showCanonical := (last (·.showCanonical) layers).getD s.showCanonical } := by
  rw [← foldl_apply Settings.executable (fun s l => by rw [apply_eq]),
    ← foldl_apply Settings.fixtureDir (fun s l => by rw [apply_eq]),
    ← foldl_apply Settings.extension (fun s l => by rw [apply_eq]),
    ← foldl_apply Settings.timeout (fun s l => by rw [apply_eq]),
    ← foldl_apply Settings.showCanonical (fun s l => by rw [apply_eq]),
    ← useColors_foldl_apply layers s]

theorem getD_comm_of_none {α : Type*} {a b : Option α} (h : a = none ∨ b = none) (x : α) :
    a.getD (b.getD x) = b.getD (a.getD x) := by
  rcases h with rfl | rfl <;> rfl

theorem apply_comm {a b : Layer} (h : a.gives.Disjoint b.gives) (s : Settings) :
    a.apply (b.apply s) = b.apply (a.apply s) := by
  rw [apply_eq (apply s b) a, apply_eq (apply s a) b, apply_eq s a, apply_eq s b]
  simp only [getD_comm_of_none h.executable, getD_comm_of_none h.fixtureDir,
    getD_comm_of_none h.extension, getD_comm_of_none h.timeout,
    getD_comm_of_none h.showCanonical]

end Layer

namespace ConfigFile

/-- Two files as one; where both have a value the upper one counts. -/
def overlaidBy (lower upper : ConfigFile) : ConfigFile where
  executable := upper.executable.or lower.executable
  fixtureDir := upper.fixtureDir.or lower.fixtureDir
  extension := upper.extension.or lower.extension
  timeoutSecs := upper.timeoutSecs.or lower.timeoutSecs
  showCanonical := upper.showCanonical.or lower.showCanonical

/-- A path of a file in a directory: a relative one goes below the directory. -/
def placeIn (base p : Path) : Path := if p.isAbsolute then p else base.join p

theorem join_eq_placeIn (base : Path) : base.join = placeIn base := by
  funext p
  unfold placeIn
  split
  · next h => exact if_pos h
  · rfl

theorem load_eq_ok_iff (t : FileTree) (p : Path) (file : ConfigFile) :
    load t p = .ok file ↔ ∃ text written base, t.readText p = .ok text ∧
      parse text = .ok written ∧ p.parent = some base ∧
      file = { written with
        executable := written.executable.map (placeIn base)
        fixtureDir := written.fixtureDir.map (placeIn base) } := by
  unfold load
  cases hread : t.readText p with
  | error cause => simp
  | ok text =>
    obtain ⟨base, hbase⟩ := FileTree.exists_parent_of_readText hread
    cases hparse : parse text with
    | error refusal => simp [hparse]
    | ok written => simp [hparse, resolveFrom, hbase, join_eq_placeIn, eq_comm]

def loadNamed (t : FileTree) : Option Path → Except Fault ConfigFile
  | none => .ok empty
  | some p => load t p

end ConfigFile

namespace Settings

theorem applyFile_applyFile (s : Settings) (lower upper : ConfigFile) :
    (s.applyFile lower).applyFile upper = s.applyFile (lower.overlaidBy upper) := by
  simp [applyFile, ConfigFile.overlaidBy, Option.getD_or, Option.map_or]

/-- Each setting by its sources: a switch, else a value of the file, else the default. -/
def bySources (onTerminal : Bool) (o : CheckOptions) (file : ConfigFile) : Settings where
  executable := (o.formatter.or file.executable).getD (default onTerminal).executable
  fixtureDir := (o.fixtures.or file.fixtureDir).getD (default onTerminal).fixtureDir
  extension :=
    ((o.extension.or file.extension).map normalizeExtension).getD (default onTerminal).extension
  timeout :=
    ((o.timeoutSecs.or file.timeoutSecs).map Duration.ofSecs).getD (default onTerminal).timeout
  useColors := (default onTerminal).useColors && !o.noColor
  showCanonical := o.showCanonical || file.showCanonical.getD false

theorem applyOptions_applyFile (onTerminal : Bool) (o : CheckOptions) (file : ConfigFile) :
    ((default onTerminal).applyFile file).applyOptions o = bySources onTerminal o file := by
  simp [applyOptions, applyFile, bySources, default, Option.getD_or, Option.map_or, Bool.or_comm]

theorem resolve_eq (t : FileTree) (onTerminal : Bool) (o : CheckOptions) :
    resolve t onTerminal o = (ConfigFile.loadNamed t o.config).map (bySources onTerminal o) := by
  unfold resolve
  cases o.config with
  | none => exact congrArg Except.ok (applyOptions_applyFile onTerminal o .empty)
  | some p =>
    rw [ofConfig, ConfigFile.loadNamed]
    cases ConfigFile.load t p with
    | error fault => rfl
    | ok file => exact congrArg Except.ok (applyOptions_applyFile onTerminal o file)

/-- Each setting is the one that was given last. Layers that give different settings can change
places, and two files are one. The settings of a check come from its switches, else from the file
they name, else from the defaults; a file that cannot be loaded is the fault of the whole. -/
theorem last_layer_wins (onTerminal : Bool) :
    (∀ layers : List Layer,
      layers.foldl Layer.apply (default onTerminal) =
        { executable := (Layer.last (·.executable) layers).getD (default onTerminal).executable
          fixtureDir := (Layer.last (·.fixtureDir) layers).getD (default onTerminal).fixtureDir
          extension := (Layer.last (·.extension) layers).getD (default onTerminal).extension
          timeout := (Layer.last (·.timeout) layers).getD (default onTerminal).timeout
          useColors := (default onTerminal).useColors
          showCanonical :=
            (Layer.last (·.showCanonical) layers).getD (default onTerminal).showCanonical }) ∧
      ((∀ s a b, a.gives.Disjoint b.gives → Layer.apply (Layer.apply s a) b =
          Layer.apply (Layer.apply s b) a) ∧
        ∀ s lower upper, (applyFile s lower).applyFile upper =
          s.applyFile (lower.overlaidBy upper)) ∧
      (∀ t o, resolve t onTerminal o =
        (ConfigFile.loadNamed t o.config).map (bySources onTerminal o)) ∧
      ∀ t p file, ConfigFile.load t p = .ok file ↔
        ∃ text written base, t.readText p = .ok text ∧ ConfigFile.parse text = .ok written ∧
          p.parent = some base ∧
          file = { written with
            executable := written.executable.map (ConfigFile.placeIn base)
            fixtureDir := written.fixtureDir.map (ConfigFile.placeIn base) } :=
  ⟨fun layers => Layer.foldl_apply_eq layers _,
    ⟨fun s _ _ h => (Layer.apply_comm h s).symm, applyFile_applyFile⟩,
    fun t o => resolve_eq t onTerminal o, ConfigFile.load_eq_ok_iff⟩

theorem last_layer_wins_apart :
    let extension := Layer.extension ".prp".toList
    let file := Layer.file ⟨none, none, none, some 5, some true⟩
    extension.gives.Disjoint file.gives ∧
      file.apply (extension.apply (default false)) =
        extension.apply (file.apply (default false)) := by
  intro extension file
  have hapart : extension.gives.Disjoint file.gives :=
    ⟨Or.inl rfl, Or.inl rfl, Or.inr rfl, Or.inl rfl, Or.inl rfl⟩
  exact ⟨hapart, (last_layer_wins false).2.1.1 _ _ _ hapart⟩

end Settings

open Text

structure NormalExtension (t : Text) : Prop where
  no_dot : t.head? ≠ some '.'
  no_blank_before : t.startsBlank = false
  no_blank_behind : t.endsBlank = false

instance (t : Text) : Decidable (NormalExtension t) :=
  decidable_of_iff (t.head? ≠ some '.' ∧ t.startsBlank = false ∧ t.endsBlank = false)
    ⟨fun ⟨hd, hs, he⟩ => ⟨hd, hs, he⟩, fun h => ⟨h.no_dot, h.no_blank_before, h.no_blank_behind⟩⟩

/-- Between the blanks around it, the text has dots in front of a blank. -/
def BlankBehindDots (t : Text) : Prop :=
  ∃ n c r, t.trim = List.replicate (n + 1) '.' ++ c :: r ∧ isBlank c = true

def isDot (c : Char) : Bool := c == '.'

theorem normalizeExtension_eq (t : Text) : normalizeExtension t = t.trim.dropWhile isDot := rfl

theorem head?_normalizeExtension (t : Text) : (normalizeExtension t).head? ≠ some '.' := by
  intro h
  have hhead := head?_dropWhile_any isDot t.trim
  rw [← normalizeExtension_eq, h] at hhead
  cases hhead

theorem endsBlank_normalizeExtension (t : Text) : (normalizeExtension t).endsBlank = false :=
  endsBlank_of_suffix (List.dropWhile_suffix isDot) (endsBlank_trim t)

theorem takeWhile_isDot (t : Text) :
    t.takeWhile isDot = List.replicate (t.takeWhile isDot).length '.' :=
  List.eq_replicate_iff.mpr ⟨rfl, fun c hc => by simpa [isDot] using List.mem_takeWhile_imp hc⟩

theorem dropWhile_isDot_of_blank {c : Char} (h : isBlank c = true) (r : Text) :
    (c :: r).dropWhile isDot = c :: r := by
  have hdot : isDot c = false := by
    by_contra hc
    obtain rfl : c = '.' := by simpa [isDot] using hc
    exact absurd h (by decide)
  simp [hdot]

theorem startsBlank_normalizeExtension_iff (t : Text) :
    (normalizeExtension t).startsBlank = true ↔ BlankBehindDots t := by
  rw [normalizeExtension_eq]
  constructor
  · intro h
    have hsplit : t.trim.takeWhile isDot ++ t.trim.dropWhile isDot = t.trim :=
      List.takeWhile_append_dropWhile
    cases hrest : t.trim.dropWhile isDot with
    | nil => rw [hrest] at h; cases h
    | cons c r =>
      rw [hrest] at h hsplit
      cases hdots : (t.trim.takeWhile isDot).length with
      | zero =>
        rw [List.length_eq_zero_iff.mp hdots, List.nil_append] at hsplit
        have hstart := startsBlank_trim t
        rw [← hsplit, h] at hstart
        cases hstart
      | succ n =>
        refine ⟨n, c, r, ?_, h⟩
        rw [← hdots, ← takeWhile_isDot, hsplit]
  · rintro ⟨n, c, r, htrim, hc⟩
    have hdots : ∀ d ∈ List.replicate (n + 1) '.', isDot d = true := fun d hd => by
      rw [List.eq_of_mem_replicate hd]
      rfl
    rw [htrim, List.dropWhile_append_of_pos hdots, dropWhile_isDot_of_blank hc]
    exact hc

theorem dropWhile_trimLeft_eq_self_iff {t : Text} (h : t.head? ≠ some '.') :
    t.trimLeft.dropWhile isDot = t ↔ t.startsBlank = false := by
  constructor
  · intro heq
    have hdrop : t.trimLeft.dropWhile isDot <:+ t.trimLeft := List.dropWhile_suffix isDot
    rw [heq] at hdrop
    exact trimLeft_eq_self_iff.mp
      ((trimLeft_suffix t).eq_of_length (Nat.le_antisymm (trimLeft_suffix t).length_le
        hdrop.length_le))
  · intro hstart
    rw [trimLeft_eq_self_iff.mpr hstart, Text.dropWhile_eq_self_iff]
    cases t with
    | nil => rfl
    | cons c t => simpa [isDot] using h

theorem normalizeExtension_normalizeExtension_iff (t : Text) :
    normalizeExtension (normalizeExtension t) = normalizeExtension t ↔ ¬ BlankBehindDots t := by
  have hend := trimRight_eq_self_iff.mpr (endsBlank_normalizeExtension t)
  rw [normalizeExtension_eq (normalizeExtension t), trim, trimRight_trimLeft, hend,
    dropWhile_trimLeft_eq_self_iff (head?_normalizeExtension t),
    ← startsBlank_normalizeExtension_iff, Bool.not_eq_true]

theorem normalizeExtension_dot (t : Text) :
    normalizeExtension ('.' :: t) = t.trimRight.dropWhile isDot := by
  have hdot : isBlank '.' = false := by decide
  rw [normalizeExtension_eq, trim, trimLeft_cons_of_not_blank hdot,
    trimRight_cons_of_not_blank hdot]
  rfl

theorem normalizeExtension_dot_iff (t : Text) :
    normalizeExtension ('.' :: t) = normalizeExtension t ↔
      t.startsBlank = false ∨ t.all isBlank = true := by
  rw [normalizeExtension_dot, normalizeExtension_eq, trim, trimRight_trimLeft,
    ← startsBlank_trimRight_iff]
  constructor
  · intro heq
    by_contra hstart
    rw [Bool.not_eq_false] at hstart
    obtain ⟨c, r, hr⟩ : ∃ c r, t.trimRight = c :: r := by
      cases hr : t.trimRight with
      | nil => rw [hr] at hstart; cases hstart
      | cons c r => exact ⟨c, r, rfl⟩
    rw [hr] at heq hstart
    have hself : (trimLeft (c :: r)).dropWhile isDot = c :: r :=
      heq.symm.trans (dropWhile_isDot_of_blank hstart r)
    have hhead : (c :: r).head? ≠ some '.' := by
      intro hc
      obtain rfl := Option.some.inj hc
      exact absurd hstart (show ¬isBlank '.' = true by decide)
    rw [(dropWhile_trimLeft_eq_self_iff hhead).mp hself] at hstart
    cases hstart
  · intro hstart
    rw [trimLeft_eq_self_iff.mpr hstart]

def Layer.writtenExtension? : Layer → Option Text
  | extension t => some t
  | file f => f.extension
  | _ => none

def Layer.lastExtension? (layers : List Layer) : Option Text :=
  layers.reverse.findSome? writtenExtension?

theorem Layer.gives_extension (l : Layer) :
    l.gives.extension = l.writtenExtension?.map normalizeExtension := by
  cases l <;> rfl

theorem Layer.last_extension (layers : List Layer) :
    last (·.extension) layers = (lastExtension? layers).map normalizeExtension := by
  rw [last, lastExtension?, List.map_findSome?]
  exact congrArg (fun f => layers.reverse.findSome? f) (funext gives_extension)

theorem Settings.extension_foldl_apply (onTerminal : Bool) (layers : List Layer) :
    (layers.foldl Layer.apply (default onTerminal)).extension =
      ((Layer.lastExtension? layers).map normalizeExtension).getD "prp".toList := by
  rw [Layer.foldl_apply_eq, Layer.last_extension]
  rfl

/-- Whatever the layers are, the extension in the settings starts with no dot and ends with no
blank, and it starts with a blank exactly when the last one written has dots in front of a blank.
Such an extension is not yet in its normal form; and a dot more in front makes a difference for a
text that starts with a blank and has more than blanks. -/
theorem Settings.extension_kept (onTerminal : Bool) :
    (∀ layers, let kept := (layers.foldl Layer.apply (default onTerminal)).extension
      kept.head? ≠ some '.' ∧ kept.endsBlank = false ∧
        (kept.startsBlank = true ↔
          ∃ t, Layer.lastExtension? layers = some t ∧ BlankBehindDots t)) ∧
      ∀ t, (normalizeExtension (normalizeExtension t) = normalizeExtension t ↔
          ¬ BlankBehindDots t) ∧
        (normalizeExtension ('.' :: t) = normalizeExtension t ↔
          t.startsBlank = false ∨ t.all isBlank = true) := by
  refine ⟨?_, fun t => ⟨normalizeExtension_normalizeExtension_iff t, normalizeExtension_dot_iff t⟩⟩
  intro layers kept
  have hkept : kept = ((Layer.lastExtension? layers).map normalizeExtension).getD "prp".toList :=
    extension_foldl_apply onTerminal layers
  cases hlast : Layer.lastExtension? layers with
  | none =>
    obtain hkept : kept = "prp".toList := by rw [hkept, hlast]; rfl
    rw [hkept]
    exact ⟨by decide, by decide, by simp [startsBlank]; decide⟩
  | some t =>
    obtain hkept : kept = normalizeExtension t := by rw [hkept, hlast]; rfl
    rw [hkept]
    refine ⟨head?_normalizeExtension t, endsBlank_normalizeExtension t, ?_⟩
    rw [startsBlank_normalizeExtension_iff]
    simp

/-- Behind its dot this extension starts with a blank. That blank is kept, it would go if the
extension were given again, and without the dot it is not kept in the first place. -/
theorem Settings.blank_behind_dot_kept :
    let kept := ([Layer.extension ". prp".toList].foldl Layer.apply (default false)).extension
    ¬ NormalExtension kept ∧ normalizeExtension kept ≠ kept ∧
      normalizeExtension ('.' :: " prp".toList) ≠ normalizeExtension " prp".toList := by
  decide

end LayoutCheck
