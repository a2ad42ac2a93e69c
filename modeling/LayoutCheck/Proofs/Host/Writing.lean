import LayoutCheck.Config
import LayoutCheck.Proofs.Text.Utf8

/-! # What is written can be read

A walk looks at nodes only to tell directories and links from the rest. A file that is put where a
walk has ended does not change what the walk meets before, so the same path leads to it. -/

namespace LayoutCheck

/-- What a walk tells of a node. -/
inductive Sign where
  | directory
  | link (target : Path)
  | leaf
  deriving DecidableEq

namespace Node

def sign : Node → Sign
  | directory _ => .directory
  | link target => .link target
  | _ => .leaf

theorem eq_directory_of_sign {node : Node} (h : node.sign = .directory) :
    ∃ entries, node = .directory entries := by
  cases node with
  | directory entries => exact ⟨entries, rfl⟩
  | _ => cases h

theorem eq_link_of_sign {node : Node} {target : Path} (h : node.sign = .link target) :
    node = .link target := by
  cases node with
  | link p =>
    obtain rfl := Sign.link.inj h
    rfl
  | _ => cases h

theorem child?_of_leaf {node : Node} (h : node.sign = .leaf) (n : Name) : node.child? n = none := by
  cases node with
  | directory entries => cases h
  | _ => rfl

theorem lookup_cons_ite (m k : Name) (y : Node) (rest : List (Name × Node)) :
    List.lookup m ((k, y) :: rest) = if m = k then some y else rest.lookup m := by
  by_cases hm : m = k
  · subst hm
    simp
  · simp [List.lookup_cons, beq_false_of_ne hm, hm]

theorem lookup_setEntry (n m : Name) (x : Node) (entries : List (Name × Node)) :
    (setEntry n x entries).lookup m = if m = n then some x else entries.lookup m := by
  induction entries with
  | nil => exact lookup_cons_ite m n x []
  | cons e rest ih =>
    obtain ⟨k, y⟩ := e
    by_cases hk : k = n
    · subst hk
      rw [setEntry, if_pos rfl, lookup_cons_ite, lookup_cons_ite]
      split <;> rfl
    · rw [setEntry, if_neg hk, lookup_cons_ite, lookup_cons_ite, ih]
      by_cases hm : m = k
      · subst hm
        simp [hk]
      · simp [hm]

theorem get?_append (node : Node) (a b : List Name) :
    node.get? (a ++ b) = (node.get? a).bind (·.get? b) := by
  induction a generalizing node with
  | nil => rfl
  | cons n ns ih =>
    cases hchild : node.child? n with
    | none => simp [get?, hchild]
    | some below => simp [get?, hchild, ih]

theorem get?_put_self (node x : Node) (names : List Name) :
    (node.put x names).get? names = some x := by
  induction names generalizing node with
  | nil => rfl
  | cons n ns ih =>
    cases node with
    | directory entries => simp [put, get?, child?, lookup_setEntry, ih]
    | _ => simp [put, get?, child?, ih]

/-- There is room for a file at the end of the names: nothing or a file is there, and there are
directories all the way. -/
def Takes (node : Node) : List Name → Prop
  | [] => node.sign = .leaf
  | n :: ns => node.sign = .directory ∧
      match node.child? n with
      | some below => below.Takes ns
      | none => ns = []

theorem takes_of_get? {node x : Node} {names : List Name} (h : node.get? names = some x)
    (hx : x.sign = .leaf) : node.Takes names := by
  induction names generalizing node with
  | nil =>
    obtain rfl := Option.some.inj h
    exact hx
  | cons n ns ih =>
    obtain ⟨below, hchild, hbelow⟩ := Option.bind_eq_some_iff.mp h
    cases node with
    | directory entries =>
      refine ⟨rfl, ?_⟩
      rw [hchild]
      exact ih hbelow
    | _ => cases hchild

theorem takes_concat {node : Node} {here : List Name} {n : Name} {entries : List (Name × Node)}
    (h : node.get? here = some (.directory entries)) (hn : node.get? (here ++ [n]) = none) :
    node.Takes (here ++ [n]) := by
  induction here generalizing node with
  | nil =>
    obtain rfl := Option.some.inj h
    have hchild : child? (.directory entries) n = none := by simpa [get?] using hn
    refine ⟨rfl, ?_⟩
    rw [hchild]
  | cons m ms ih =>
    obtain ⟨below, hchild, hbelow⟩ := Option.bind_eq_some_iff.mp h
    have hnone : below.get? (ms ++ [n]) = none := by simpa [get?, hchild] using hn
    cases node with
    | directory es =>
      refine ⟨rfl, ?_⟩
      rw [List.append_eq, hchild]
      exact ih hbelow hnone
    | _ => cases hchild

/-- All that is found in the first tree has its like in the second. -/
def Follows (r r' : Node) : Prop :=
  ∀ names x, r.get? names = some x → ∃ x', r'.get? names = some x' ∧ x'.sign = x.sign

theorem Follows.refl (r : Node) : r.Follows r := fun _ x h => ⟨x, h, rfl⟩

theorem follows_put {node x : Node} {names : List Name} (ht : node.Takes names)
    (hx : x.sign = .leaf) : node.Follows (node.put x names) := by
  intro q y hy
  induction names generalizing node q with
  | nil =>
    cases q with
    | nil =>
      obtain rfl := Option.some.inj hy
      exact ⟨x, rfl, hx.trans ht.symm⟩
    | cons m ms =>
      rw [get?, child?_of_leaf ht] at hy
      cases hy
  | cons n ns ih =>
    obtain ⟨hdir, hbelow⟩ := ht
    obtain ⟨entries, rfl⟩ := eq_directory_of_sign hdir
    cases q with
    | nil =>
      obtain rfl := Option.some.inj hy
      exact ⟨_, rfl, rfl⟩
    | cons m ms =>
      obtain ⟨child, hchild, hget⟩ := Option.bind_eq_some_iff.mp hy
      by_cases hm : m = n
      · subst hm
        rw [hchild] at hbelow
        obtain ⟨y', hy', hsign⟩ := ih hbelow ms hget
        refine ⟨y', ?_, hsign⟩
        simpa [put, get?, child?, lookup_setEntry, show entries.lookup m = some child from hchild]
          using hy'
      · refine ⟨y, ?_, rfl⟩
        simpa [put, get?, child?, lookup_setEntry, hm] using hy

end Node

namespace FileTree

structure IsEntryName (n : Name) : Prop where
  moves : ¬ (n = selfName ∨ n = emptyName)
  down : n ≠ parentName
  short : ¬ n.length > maxNameLength

/-- A walk that follows every link: how many it may still follow, where it is and what it has to
do, and the place where it ends. -/
inductive Reaches (t : FileTree) : Nat → List Name → List Name → Place → Prop where
  | arrived (links : Nat) (here : List Name) : Reaches t links here [] ⟨here, t.root.get? here⟩
  | stays {links : Nat} {here rest : List Name} {n : Name} {place : Place}
      {entries : List (Name × Node)} :
      t.root.get? here = some (.directory entries) → n = selfName ∨ n = emptyName →
        Reaches t links here rest place → Reaches t links here (n :: rest) place
  | leaves {links : Nat} {here rest : List Name} {place : Place}
      {entries : List (Name × Node)} :
      t.root.get? here = some (.directory entries) →
        Reaches t links here.dropLast rest place → Reaches t links here (parentName :: rest) place
  | misses {links : Nat} {here : List Name} {n : Name} {entries : List (Name × Node)} :
      t.root.get? here = some (.directory entries) → IsEntryName n →
        t.root.get? (here ++ [n]) = none → Reaches t links here [n] ⟨here ++ [n], none⟩
  | follows {links : Nat} {here rest : List Name} {n : Name} {place : Place}
      {entries : List (Name × Node)} {target : Path} :
      t.root.get? here = some (.directory entries) → IsEntryName n →
        t.root.get? (here ++ [n]) = some (.link target) →
          Reaches t links (if target.isAbsolute then [] else here) (steps target ++ rest) place →
            Reaches t (links + 1) here (n :: rest) place
  | enters {links : Nat} {here rest : List Name} {n : Name} {place : Place}
      {entries : List (Name × Node)} {x : Node} :
      t.root.get? here = some (.directory entries) → IsEntryName n →
        t.root.get? (here ++ [n]) = some x → (∀ target, x ≠ .link target) →
          Reaches t links (here ++ [n]) rest place → Reaches t links here (n :: rest) place

variable {t t' : FileTree} {links : Nat} {here todo : List Name} {place : Place}

theorem reaches_of_walk (hw : t.walk .making links here todo = .ok place) :
    t.Reaches links here todo place := by
  generalize hpurpose : Purpose.making = purpose at hw
  fun_induction walk t purpose links here todo with
  | case1 links here =>
    obtain rfl := Except.ok.inj hw
    exact .arrived links here
  | case2 => cases hw
  | case3 _ _ _ _ _ hdir hstays ih => exact .stays hdir hstays (ih hw)
  | case4 _ _ _ _ hdir _ ih => exact .leaves hdir (ih hw)
  | case5 => cases hw
  | case6 => cases hw
  | case7 _ _ _ _ hdir hmoves hdown hshort _ hnone =>
    obtain rfl := Except.ok.inj hw
    exact .misses hdir ⟨hmoves, hdown, hshort⟩ hnone
  | case8 => cases hw
  | case9 _ _ _ _ _ _ _ _ _ _ _ _ _ hlink =>
    rw [hlink.2] at hpurpose
    cases hpurpose
  | case10 => cases hw
  | case11 _ _ _ _ hdir hmoves hdown _ hshort _ target hlink _ links base ih =>
    exact .follows hdir ⟨hmoves, hdown, hshort⟩ hlink (ih hw)
  | case12 _ _ _ _ _ hdir hmoves hdown _ hshort _ x hother hget ih =>
    exact .enters hdir ⟨hmoves, hdown, hshort⟩ hget (fun target h => hother target h) (ih hw)
  | case13 => cases hw

theorem Reaches.node (hr : t.Reaches links here todo place) :
    place.node = t.root.get? place.names := by
  induction hr with
  | arrived => rfl
  | stays _ _ _ ih => exact ih
  | leaves _ _ ih => exact ih
  | misses _ _ hnone => exact hnone.symm
  | follows _ _ _ _ ih => exact ih
  | enters _ _ _ _ _ ih => exact ih

theorem Reaches.takes (hr : t.Reaches links here todo place) (hhere : (t.root.get? here).isSome)
    (hleaf : ∀ x, place.node = some x → x.sign = .leaf) : t.root.Takes place.names := by
  induction hr with
  | arrived links here =>
    obtain ⟨x, hx⟩ := Option.isSome_iff_exists.mp hhere
    exact Node.takes_of_get? hx (hleaf x hx)
  | stays _ _ _ ih => exact ih hhere hleaf
  | @leaves links here rest place entries hdir _ ih =>
    refine ih ?_ hleaf
    rcases List.eq_nil_or_concat here with rfl | ⟨above, n, rfl⟩
    · rfl
    · rw [List.concat_eq_append, Node.get?_append] at hdir
      obtain ⟨x, hx, -⟩ := Option.bind_eq_some_iff.mp hdir
      simp [hx]
  | misses hdir _ hnone => exact Node.takes_concat hdir hnone
  | @follows links here rest n place entries target hdir _ _ _ ih =>
    refine ih ?_ hleaf
    split
    · rfl
    · exact hhere
  | enters _ _ hget _ _ ih => exact ih (by simp [hget]) hleaf

section Entry

variable {n : Name} {entries : List (Name × Node)} (rest : List Name)
  (hdir : t.root.get? here = some (.directory entries)) (hname : IsEntryName n)

include hdir hname

theorem walk_of_link {target : Path} (hlink : t.root.get? (here ++ [n]) = some (.link target)) :
    t.walk .target (links + 1) here (n :: rest) =
      t.walk .target links (if target.isAbsolute then [] else here) (steps target ++ rest) := by
  have hmaking : ¬ (Purpose.target = .making ∧ rest = [emptyName]) := fun h => nomatch h.1
  have hstop : ¬ (rest = [] ∧ Purpose.target = .link) := fun h => nomatch h.2
  rw [walk]
  simp only [hdir, if_neg hname.moves, if_neg hname.down, if_neg hname.short, if_neg hmaking,
    hlink, if_neg hstop]

theorem walk_of_entry {x : Node} (hget : t.root.get? (here ++ [n]) = some x)
    (hx : ∀ target, x ≠ .link target) :
    t.walk .target links here (n :: rest) = t.walk .target links (here ++ [n]) rest := by
  have hmaking : ¬ (Purpose.target = .making ∧ rest = [emptyName]) := fun h => nomatch h.1
  cases x with
  | link target => exact absurd rfl (hx target)
  | _ =>
    rw [walk]
    simp only [hdir, if_neg hname.moves, if_neg hname.down, if_neg hname.short, if_neg hmaking, hget]

end Entry

theorem Reaches.walk (hr : t.Reaches links here todo place) (hf : t.root.Follows t'.root)
    {x : Node} (hx : t'.root.get? place.names = some x) (hleaf : x.sign = .leaf) :
    t'.walk .target links here todo = .ok ⟨place.names, some x⟩ := by
  have hdirectory {names : List Name} {entries : List (Name × Node)}
      (h : t.root.get? names = some (.directory entries)) :
      ∃ entries', t'.root.get? names = some (.directory entries') := by
    obtain ⟨y, hy, hsign⟩ := hf names _ h
    obtain ⟨entries', rfl⟩ := Node.eq_directory_of_sign hsign
    exact ⟨entries', hy⟩
  induction hr with
  | arrived links here => rw [FileTree.walk, hx]
  | stays hdir hstays _ ih =>
    obtain ⟨entries', hdir'⟩ := hdirectory hdir
    rw [FileTree.walk]
    simp only [hdir', if_pos hstays, ih hx]
  | leaves hdir _ ih =>
    obtain ⟨entries', hdir'⟩ := hdirectory hdir
    have hmoves : ¬ (parentName = selfName ∨ parentName = emptyName) := by decide
    rw [FileTree.walk]
    simp only [hdir', if_neg hmoves, if_true, ih hx]
  | misses hdir hname hnone =>
    -- what was missing is the file, so the walk now goes one name further
    obtain ⟨entries', hdir'⟩ := hdirectory hdir
    have hother : ∀ target, x ≠ .link target := by
      rintro target rfl
      cases hleaf
    rw [walk_of_entry _ hdir' hname hx hother, FileTree.walk, hx]
  | follows hdir hname hlink _ ih =>
    obtain ⟨entries', hdir'⟩ := hdirectory hdir
    obtain ⟨y, hy, hsign⟩ := hf _ _ hlink
    obtain rfl := Node.eq_link_of_sign hsign
    rw [walk_of_link _ hdir' hname hy]
    exact ih hx
  | enters hdir hname hget hother _ ih =>
    obtain ⟨entries', hdir'⟩ := hdirectory hdir
    obtain ⟨y, hy, hsign⟩ := hf _ _ hget
    have hother' : ∀ target, y ≠ .link target := by
      rintro target rfl
      exact hother target (Node.eq_link_of_sign hsign.symm)
    rw [walk_of_entry _ hdir' hname hy hother']
    exact ih hx

/-- Every walk for a file to be made, from a start that need not be in the tree. -/
theorem walk_put (hw : t.walk .making links here todo = .ok place)
    (hnode : ∀ y, place.node = some y → y.sign = .leaf) {x : Node} (hleaf : x.sign = .leaf) :
    (t.put place.names x).walk .target links here todo = .ok ⟨place.names, some x⟩ := by
  have hx : (t.put place.names x).root.get? place.names = some x := Node.get?_put_self _ _ _
  have hr := reaches_of_walk hw
  cases todo with
  | nil =>
    -- the start may be missing: it ends the walk before anything was looked up
    cases hr
    rw [walk, hx]
  | cons n rest =>
    have hhere : (t.root.get? here).isSome := by
      cases hr <;> simp [*]
    exact hr.walk (Node.follows_put (hr.takes hhere hnode) hleaf) hx hleaf

theorem locate_put {p : Path} (hl : t.locate .making p = .ok place)
    (hnode : ∀ y, place.node = some y → y.sign = .leaf) {x : Node} (hleaf : x.sign = .leaf) :
    (t.put place.names x).locate .target p = .ok ⟨place.names, some x⟩ := by
  have hwalk := locate_eq_walk hl
  rw [hwalk] at hl ⊢
  exact walk_put hl hnode hleaf

theorem locate_of_making {p : Path} {y : Node} {names : List Name}
    (hl : t.locate .making p = .ok ⟨names, some y⟩) (hleaf : y.sign = .leaf) :
    t.locate .target p = .ok ⟨names, some y⟩ := by
  have hwalk := locate_eq_walk hl
  rw [hwalk] at hl ⊢
  have hr := reaches_of_walk hl
  exact hr.walk (Node.Follows.refl _) hr.node.symm hleaf

theorem contents_put {p : Path} (hl : t.locate .making p = .ok place)
    (hnode : ∀ y, place.node = some y → y.sign = .leaf) (content : Bytes) (exec : Bool) :
    (t.put place.names (.file content exec)).contents p = .ok content := by
  rw [contents, node_of_locate (locate_put hl hnode rfl)]
  rfl

/-- Content that has been written is at its path, or a device has taken it. -/
theorem contents_of_write {p : Path} {content : Bytes} (hw : t.write p content = .ok t') :
    t'.contents p = .ok content ∨
      ∃ d, t.node p = .ok (.device d) ∧ (d = .full → content = []) ∧ t' = t := by
  unfold write at hw
  cases hl : t.locate .making p with
  | error e =>
    rw [hl] at hw
    cases hw
  | ok place =>
    obtain ⟨names, found⟩ := place
    rw [hl] at hw
    have hleaf {y : Node} (h : y.sign = .leaf) : ∀ z, some y = some z → z.sign = .leaf :=
      fun z hz => Option.some.inj hz ▸ h
    cases found with
    | none =>
      obtain rfl := Except.ok.inj hw
      exact Or.inl (contents_put hl (fun _ h => nomatch h) content false)
    | some y =>
      cases y with
      | file old exec =>
        obtain rfl := Except.ok.inj hw
        exact Or.inl (contents_put hl (hleaf rfl) content exec)
      | program which =>
        obtain rfl := Except.ok.inj hw
        exact Or.inl (contents_put hl (hleaf rfl) content true)
      | device d =>
        have hd : t.node p = .ok (.device d) := node_of_locate (locate_of_making hl rfl)
        cases d with
        | full =>
          by_cases hempty : content = []
          · rw [if_pos hempty] at hw
            exact Or.inr ⟨_, hd, fun _ => hempty, (Except.ok.inj hw).symm⟩
          · rw [if_neg hempty] at hw
            cases hw
        | _ => exact Or.inr ⟨_, hd, (fun h => nomatch h), (Except.ok.inj hw).symm⟩
      | directory entries => cases hw
      | link target => cases hw

/-- Why no content can be written to a path. -/
inductive Unwritable (t : FileTree) (p : Path) : Prop where
  | unreached {e : Errno} : t.locate .making p = .error e → Unwritable t p
  | directory {names : List Name} {entries : List (Name × Node)} :
      t.locate .making p = .ok ⟨names, some (.directory entries)⟩ → Unwritable t p
  | link {names : List Name} {target : Path} :
      t.locate .making p = .ok ⟨names, some (.link target)⟩ → Unwritable t p
  | full {names : List Name} :
      t.locate .making p = .ok ⟨names, some (.device .full)⟩ → Unwritable t p

theorem unwritable_of_write {p : Path} {content : Bytes} {e : Errno}
    (hw : t.write p content = .error e) : t.Unwritable p := by
  unfold write at hw
  cases hl : t.locate .making p with
  | error e => exact .unreached hl
  | ok place =>
    obtain ⟨names, found⟩ := place
    rw [hl] at hw
    cases found with
    | none => cases hw
    | some y =>
      cases y with
      | file old exec => cases hw
      | program which => cases hw
      | directory entries => exact .directory hl
      | link target => exact .link hl
      | device d =>
        cases d with
        | full => exact .full hl
        | _ => cases hw

end FileTree

end LayoutCheck
