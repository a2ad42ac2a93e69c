import LayoutCheck.Program
import LayoutCheck.Proofs.Text.Utf8
import Mathlib

/-! # Which fixtures are found

Of the entries of a directory those are found that are regular files, links followed, and whose
names are texts with the right end. They come in byte order, whatever the order of the entries. -/

namespace LayoutCheck

theorem nameLe_iff (a b : Name) : nameLe a b = true ↔ a ≤ b := by
  fun_induction nameLe a b with
  | case1 => simp
  | case2 => simp
  | case3 a as b bs ih => simp [List.cons_le_cons_iff, ih]

theorem nameLe_trans (a b c : Name) (hab : nameLe a b = true) (hbc : nameLe b c = true) :
    nameLe a c = true := by
  rw [nameLe_iff] at *
  exact List.le_trans hab hbc

theorem nameLe_total (a b : Name) : (nameLe a b || nameLe b a) = true := by
  rw [Bool.or_eq_true, nameLe_iff, nameLe_iff]
  exact List.le_total a b

theorem endsWith_iff (s t : Text) : Text.endsWith s t = true ↔ s <:+ t :=
  List.isSuffixOf_iff_suffix

def HasSuffix (extension : Text) (n : Name) : Prop :=
  ∃ t, Text.utf8 t = n ∧ '.' :: extension <:+ t

theorem hasExtension_iff (extension : Text) (n : Name) :
    hasExtension extension n = true ↔ HasSuffix extension n := by
  unfold hasExtension
  cases ht : Utf8.decode? n with
  | none =>
    simp only [Bool.false_eq_true, false_iff]
    rintro ⟨t, rfl, -⟩
    rw [Utf8.decode?_eq_some_iff.mpr rfl] at ht
    cases ht
  | some t =>
    obtain rfl := Utf8.decode?_eq_some_iff.mp ht
    rw [endsWith_iff]
    constructor
    · exact fun hsuffix => ⟨t, rfl, hsuffix⟩
    · rintro ⟨u, hu, hsuffix⟩
      rw [Utf8.decode?_eq_some_iff.mpr hu.symm] at ht
      exact Option.some.inj ht ▸ hsuffix

section Listings

variable (extension : Text)

theorem mem_selectFixtures_iff (entries : Listing) (n : Name) :
    n ∈ selectFixtures extension entries ↔
      (n, some .regular) ∈ entries ∧ HasSuffix extension n := by
  rw [selectFixtures, (List.mergeSort_perm _ _).mem_iff, List.mem_map, ← hasExtension_iff]
  constructor
  · rintro ⟨⟨m, kind⟩, hmem, rfl⟩
    obtain ⟨hentry, hfixture⟩ := List.mem_filter.mp hmem
    obtain ⟨hkind, hname⟩ := Bool.and_eq_true_iff.mp hfixture
    obtain rfl : kind = some .regular := beq_iff_eq.mp hkind
    exact ⟨hentry, hname⟩
  · rintro ⟨hentry, hname⟩
    exact ⟨(n, some .regular), List.mem_filter.mpr ⟨hentry, by simp [isFixture, hname]⟩, rfl⟩

theorem nodup_selectFixtures {entries : Listing} (h : (entries.map Prod.fst).Nodup) :
    (selectFixtures extension entries).Nodup := by
  rw [selectFixtures, (List.mergeSort_perm _ _).nodup_iff]
  exact h.sublist (List.filter_sublist.map _)

theorem pairwise_selectFixtures (entries : Listing) :
    (selectFixtures extension entries).Pairwise fun a b => nameLe a b = true :=
  List.pairwise_mergeSort nameLe_trans nameLe_total _

theorem selectFixtures_increasing {entries : Listing} (h : (entries.map Prod.fst).Nodup) :
    (selectFixtures extension entries).Pairwise (· < ·) := by
  refine ((pairwise_selectFixtures extension entries).and
    (nodup_selectFixtures extension h)).imp ?_
  rintro a b ⟨hle, hne⟩
  exact Std.lt_of_le_of_ne ((nameLe_iff a b).mp hle) hne

theorem selectFixtures_perm {entries entries' : Listing} (h : entries.Perm entries') :
    selectFixtures extension entries = selectFixtures extension entries' := by
  have hnames := (h.filter (isFixture extension)).map Prod.fst
  refine List.Perm.eq_of_pairwise ?_ (pairwise_selectFixtures extension entries)
    (pairwise_selectFixtures extension entries') ?_
  · intro a b _ _ hab hba
    exact List.le_antisymm ((nameLe_iff a b).mp hab) ((nameLe_iff b a).mp hba)
  · exact (List.mergeSort_perm _ _).trans (hnames.trans (List.mergeSort_perm _ _).symm)

end Listings

namespace FileTree

/-- The path leads to a directory that is listed with these entries, each under a name of its own. -/
structure HasEntries (t : FileTree) (root : Path) (entries : List (Name × Node)) : Prop where
  noNul : hasNul root = false
  listed : t.entries root = .ok entries
  distinct : (entries.map Prod.fst).Nodup

theorem node_of_entries {t : FileTree} {root : Path} {entries : List (Name × Node)}
    (h : t.entries root = .ok entries) : t.node root = .ok (.directory entries) := by
  unfold FileTree.entries at h
  cases hl : t.locate .target root with
  | error e =>
    rw [hl] at h
    cases h
  | ok place =>
    obtain ⟨names, found⟩ := place
    rw [hl] at h
    simp only [bind, Except.bind] at h
    split at h
    · obtain rfl := Except.ok.inj h
      exact node_of_locate hl
    all_goals cases h

inductive IsFile (t : FileTree) (root : Path) : Name × Node → Prop where
  | itself {n : Name} {node : Node} : node.kind = .regular → IsFile t root (n, node)
  | behindLink {n : Name} {target : Path} :
      t.kind? (root.join ⟨n⟩) = some .regular → IsFile t root (n, .link target)

theorem entryKind?_eq_regular_iff (t : FileTree) (root : Path) (n : Name) (node : Node) :
    t.entryKind? root n node = some .regular ↔ t.IsFile root (n, node) := by
  constructor
  · intro h
    cases node with
    | link target => exact .behindLink h
    | file content exec => exact .itself rfl
    | program which => exact .itself rfl
    | directory entries => cases h
    | device which => cases h
  · rintro (hkind | hkind)
    · cases node with
      | link target => cases hkind
      | _ => exact congrArg some hkind
    · exact hkind

variable {t : FileTree} {root : Path} {entries : List (Name × Node)}

theorem HasEntries.isDirectory (h : t.HasEntries root entries) : t.isDirectory root = true := by
  rw [FileTree.isDirectory, kind?, h.noNul, node_of_entries h.listed]
  rfl

theorem mem_inspect_iff (t : FileTree) (root : Path) (entries : List (Name × Node)) (n : Name) :
    (n, some .regular) ∈ t.inspect root entries ↔
      ∃ node, (n, node) ∈ entries ∧ t.IsFile root (n, node) := by
  rw [inspect, List.mem_map]
  constructor
  · rintro ⟨⟨m, node⟩, hmem, heq⟩
    obtain ⟨rfl, hkind⟩ := Prod.mk.inj heq
    exact ⟨node, hmem, (entryKind?_eq_regular_iff t root m node).mp hkind⟩
  · rintro ⟨node, hmem, hfile⟩
    exact ⟨(n, node), hmem, Prod.ext rfl ((entryKind?_eq_regular_iff t root n node).mpr hfile)⟩

theorem HasEntries.discover (h : t.HasEntries root entries) (extension : Text) :
    LayoutCheck.discover t root extension =
      .ok ((selectFixtures extension (t.inspect root entries)).map fun n => root.join ⟨n⟩) := by
  rw [LayoutCheck.discover, h.isDirectory, h.listed]
  rfl

theorem discover_of_unlistable {e : Errno} (hdir : t.isDirectory root = true)
    (h : t.entries root = .error e) (extension : Text) :
    LayoutCheck.discover t root extension = .error (.unlisted root e) := by
  rw [LayoutCheck.discover, hdir, h]
  rfl

end FileTree

/-- In a directory those fixtures are found whose names are texts with the right end and whose
entries are regular files, links followed; and nothing that is there makes it fail. They come in
strictly increasing byte order of their names, and are the same in whatever order the entries are
listed. -/
theorem discover_exact {t : FileTree} {root : Path} {entries : List (Name × Node)}
    (h : t.HasEntries root entries) (extension : Text) : ∃ names : List Name,
      discover t root extension = .ok (names.map fun n => root.join ⟨n⟩) ∧
        names.Pairwise (· < ·) ∧
        (∀ n, n ∈ names ↔ ∃ node, (n, node) ∈ entries ∧ t.IsFile root (n, node) ∧
          ∃ text, Text.utf8 text = n ∧ '.' :: extension <:+ text) ∧
        ∀ listing : Listing, listing.Perm (t.inspect root entries) →
          discover t root extension =
            .ok ((selectFixtures extension listing).map fun n => root.join ⟨n⟩) := by
  refine ⟨selectFixtures extension (t.inspect root entries), h.discover extension, ?_, ?_, ?_⟩
  · apply selectFixtures_increasing
    rw [FileTree.inspect, List.map_map]
    exact h.distinct
  · intro n
    rw [mem_selectFixtures_iff, FileTree.mem_inspect_iff]
    constructor
    · rintro ⟨⟨node, hmem, hfile⟩, hsuffix⟩
      exact ⟨node, hmem, hfile, hsuffix⟩
    · rintro ⟨node, hmem, hfile, hsuffix⟩
      exact ⟨⟨node, hmem, hfile⟩, hsuffix⟩
  · intro listing hperm
    rw [h.discover, selectFixtures_perm extension hperm]

def letterFixture (x : UInt8) : Name := [x, 0x2E, 0x70, 0x72, 0x70]

/-- A file, a link to it, a link to itself, a link to nothing and a directory, all of them with
names of fixtures. -/
def mixedEntries : List (Name × Node) :=
  [(letterFixture 0x62, .file [] false),
    (letterFixture 0x61, .link ⟨letterFixture 0x62⟩),
    (letterFixture 0x63, .link ⟨letterFixture 0x63⟩),
    (letterFixture 0x64, .link ⟨[0x6E]⟩),
    (letterFixture 0x65, .directory [])]

def mixedTree : FileTree where
  root := .directory [([0x66], .directory mixedEntries)]
  workingDir := []

theorem hasEntries_mixedTree : mixedTree.HasEntries ⟨[0x66]⟩ mixedEntries where
  noNul := by decide
  listed := by cbv
  distinct := by decide

theorem not_isFile_of_kind?_eq_none {t : FileTree} {root : Path} {n : Name} {target : Path}
    (h : t.kind? (root.join ⟨n⟩) = none) : ¬ t.IsFile root (n, .link target) := by
  rintro (hkind | hkind)
  · cases hkind
  · exact nomatch h.symm.trans hkind

set_option maxRecDepth 4096 in
theorem discover_exact_links : mixedTree.HasEntries ⟨[0x66]⟩ mixedEntries ∧
    ∃ names : List Name,
      discover mixedTree ⟨[0x66]⟩ "prp".toList =
        .ok (names.map fun n => Path.join ⟨[0x66]⟩ ⟨n⟩) ∧
      letterFixture 0x61 ∈ names ∧ letterFixture 0x63 ∉ names ∧ letterFixture 0x64 ∉ names := by
  obtain ⟨names, hfound, -, hmem, -⟩ := discover_exact hasEntries_mixedTree "prp".toList
  refine ⟨hasEntries_mixedTree, names, hfound, ?_, ?_, ?_⟩
  · refine (hmem _).mpr ⟨.link ⟨letterFixture 0x62⟩, ?_, .behindLink (by cbv), "a.prp".toList, ?_⟩
    · exact List.mem_cons_of_mem _ List.mem_cons_self
    · decide
  · intro hlisted
    obtain ⟨node, hentry, hfile, -⟩ := (hmem _).mp hlisted
    obtain rfl : node = .link ⟨letterFixture 0x63⟩ := by
      simpa [mixedEntries, letterFixture] using hentry
    exact not_isFile_of_kind?_eq_none (by cbv) hfile
  · intro hlisted
    obtain ⟨node, hentry, hfile, -⟩ := (hmem _).mp hlisted
    obtain rfl : node = .link ⟨[0x6E]⟩ := by
      simpa [mixedEntries, letterFixture] using hentry
    exact not_isFile_of_kind?_eq_none (by cbv) hfile

end LayoutCheck
