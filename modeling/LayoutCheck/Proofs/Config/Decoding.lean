import LayoutCheck.Proofs.Config.Timeouts
import LayoutCheck.Proofs.Yaml.Integer
import LayoutCheck.Proofs.Yaml.Mapping

/-! # How configuration files are decoded

What a node means as the value of a key, and that reading it finds just that. The entries of a
mapping are taken one after the other. They give a configuration when every key is known, none is
given twice and every value suits its key; in which order they stand does not matter. -/

namespace LayoutCheck

open Yaml ConfigFile

namespace ConfigKey

abbrev Value : ConfigKey → Type
  | executable => Path
  | fixtureDir => Path
  | extension => Text
  | timeoutSecs => Nat
  | showCanonical => Bool

def flagForms : Bool → List Text
  | true => ["true", "True", "TRUE"].map String.toList
  | false => ["false", "False", "FALSE"].map String.toList

/-- What a scalar means as the value of a key: any scalar is a path or an extension, a plain integer
in the range of a word and without a minus sign is a number of seconds, a plain form of true or
false is a flag. -/
def Means : (k : ConfigKey) → Scalar → k.Value → Prop
  | executable, s, p => p = .ofText s.text
  | fixtureDir, s, p => p = .ofText s.text
  | extension, s, e => e = s.text
  | timeoutSecs, s, n =>
    s.style = .plain ∧ Spells s.text n ∧ n < 2 ^ 64 ∧ s.text.head? ≠ some '-'
  | showCanonical, s, b => s.style = .plain ∧ s.text ∈ flagForms b

/-- The value that a node gives to a key, or none where it says that there is no value. -/
inductive Decodes (k : ConfigKey) : Yaml.Node → Option k.Value → Prop where
  | absent {s : Scalar} : s.IsNull → Decodes k (.scalar s) none
  | value {s : Scalar} {v : k.Value} : ¬ s.IsNull → k.Means s v → Decodes k (.scalar s) (some v)

theorem ofName?_eq_some_iff (t : Text) (k : ConfigKey) :
    ofName? t = some k ↔ k.name = t := by
  constructor
  · intro h
    have hfound := List.find?_some h
    exact beq_iff_eq.mp hfound
  · rintro rfl
    cases k <;> rfl

theorem name_injective {k k' : ConfigKey} (h : k.name = k'.name) : k = k' := by
  have hk := (ofName?_eq_some_iff k'.name k).mpr h
  rw [(ofName?_eq_some_iff k'.name k').mpr rfl] at hk
  exact (Option.some.inj hk).symm

theorem flagForms_disjoint : ∀ t ∈ flagForms false, t ∉ flagForms true := by
  decide

theorem boolean?_eq_some_iff (t : Text) (b : Bool) :
    boolean? t = some b ↔ t ∈ flagForms b := by
  unfold boolean?
  simp only [any_toList_beq_iff]
  change (if t ∈ flagForms true then some true
    else if t ∈ flagForms false then some false else none) = some b ↔ _
  by_cases htrue : t ∈ flagForms true
  · rw [if_pos htrue]
    cases b with
    | true => exact iff_of_true rfl htrue
    | false => exact iff_of_false nofun fun h => flagForms_disjoint t h htrue
  · rw [if_neg htrue, Option.ite_none_right_eq_some]
    cases b with
    | true => exact iff_of_false (fun h => nomatch h.2) htrue
    | false => exact and_iff_left rfl

def readAs : (k : ConfigKey) → Scalar → Option k.Value
  | .executable => readPath
  | .fixtureDir => readPath
  | .extension => readText
  | .timeoutSecs => readSeconds
  | .showCanonical => readFlag

theorem readAs_eq_some_iff {k : ConfigKey} {s : Scalar} (h : s.tag = none) (v : k.Value) :
    readAs k s = some v ↔ k.Means s v := by
  cases k with
  | executable => exact Option.some_inj.trans eq_comm
  | fixtureDir => exact Option.some_inj.trans eq_comm
  | extension => exact Option.some_inj.trans eq_comm
  | timeoutSecs =>
    show readSeconds s = some v ↔ _
    rw [readSeconds, s.readsAs_eq h, Option.ite_none_right_eq_some, beq_iff_eq,
      unsigned?_eq_some_iff]
    rfl
  | showCanonical =>
    show readFlag s = some v ↔ _
    rw [readFlag, s.readsAs_eq h, Option.ite_none_right_eq_some, beq_iff_eq, boolean?_eq_some_iff]
    rfl

theorem Decodes.unique {k : ConfigKey} {n : Yaml.Node} {o o' : Option k.Value} (h : k.Decodes n o)
    (hn : n.IsUntagged) (h' : k.Decodes n o') : o = o' := by
  cases h with
  | absent hnull =>
    cases h' with
    | absent _ => rfl
    | value hsome _ => exact absurd hnull hsome
  | value hsome hv =>
    cases h' with
    | absent hnull => exact absurd hnull hsome
    | value _ hv' =>
      exact ((readAs_eq_some_iff hn _).mpr hv).symm.trans ((readAs_eq_some_iff hn _).mpr hv')

theorem optional_eq_ok_iff {k : ConfigKey} {outer : Mark} {within : Text} {value : Located}
    {n : Yaml.Node} (hn : n.IsUntagged) (hvalue : value.item = n.opening) (o : Option k.Value) :
    ConfigFile.optional outer within k.expected value (readAs k) = .ok o ↔ k.Decodes n o := by
  unfold ConfigFile.optional
  cases n with
  | scalar s =>
    by_cases hnull : s.IsNull
    · have habsent : s.isAbsent? = some true := by
        rw [s.isAbsent?_eq hn, decide_eq_true hnull]
      simp only [hvalue, Node.opening, habsent]
      constructor
      · intro h
        obtain rfl := Except.ok.inj h
        exact .absent hnull
      · rintro (_ | ⟨hsome, -⟩)
        · rfl
        · exact absurd hnull hsome
    · have habsent : s.isAbsent? = some false := by
        rw [s.isAbsent?_eq hn, decide_eq_false hnull]
      simp only [hvalue, Node.opening, habsent]
      constructor
      · intro h
        split at h
        · next v hread =>
          obtain rfl := Except.ok.inj h
          exact .value hnull ((readAs_eq_some_iff hn v).mp hread)
        · cases h
      · rintro (hyes | ⟨-, hv⟩)
        · exact absurd hyes hnull
        · rw [(readAs_eq_some_iff hn _).mpr hv]
  | sequence children =>
    rw [hvalue]
    exact ⟨nofun, nofun⟩
  | mapping entries =>
    rw [hvalue]
    exact ⟨nofun, nofun⟩

end ConfigKey

namespace ConfigFile

def get (f : ConfigFile) : (k : ConfigKey) → Option k.Value
  | .executable => f.executable
  | .fixtureDir => f.fixtureDir
  | .extension => f.extension
  | .timeoutSecs => f.timeoutSecs
  | .showCanonical => f.showCanonical

theorem ext_get {f g : ConfigFile} (h : ∀ k, f.get k = g.get k) : f = g := by
  obtain ⟨_, _, _, _, _⟩ := f
  obtain ⟨_, _, _, _, _⟩ := g
  obtain rfl := h .executable
  obtain rfl := h .fixtureDir
  obtain rfl := h .extension
  obtain rfl := h .timeoutSecs
  obtain rfl := h .showCanonical
  rfl

/-- Every key is known, none is given twice, and every value suits its key. -/
structure Accepts (entries : List (Scalar × Yaml.Node)) : Prop where
  known : ∀ e ∈ entries, ∃ k : ConfigKey, k.name = e.1.text
  distinct : (entries.map fun e => e.1.text).Nodup
  suitable : ∀ e ∈ entries, ∀ k : ConfigKey, k.name = e.1.text → ∃ o, k.Decodes e.2 o

/-- A configuration says what the entries say, and nothing about keys without an entry. -/
structure Reflects (entries : List (Scalar × Yaml.Node)) (f : ConfigFile) : Prop where
  given : ∀ e ∈ entries, ∀ k : ConfigKey, k.name = e.1.text → k.Decodes e.2 (f.get k)
  missing : ∀ k : ConfigKey, (∀ e ∈ entries, k.name ≠ e.1.text) → f.get k = none

namespace Given

def slot (p : Given) : (k : ConfigKey) → Option (Option k.Value)
  | .executable => p.executable
  | .fixtureDir => p.fixtureDir
  | .extension => p.extension
  | .timeoutSecs => p.timeoutSecs
  | .showCanonical => p.showCanonical

def put (p : Given) : (k : ConfigKey) → Option k.Value → Given
  | .executable, v => { p with executable := some v }
  | .fixtureDir, v => { p with fixtureDir := some v }
  | .extension, v => { p with extension := some v }
  | .timeoutSecs, v => { p with timeoutSecs := some v }
  | .showCanonical, v => { p with showCanonical := some v }

variable (p : Given) (k : ConfigKey)

theorem has_eq : p.has k = (p.slot k).isSome := by
  cases k <;> rfl

theorem get_finish : p.finish.get k = (p.slot k).join := by
  cases k <;> rfl

@[simp] theorem slot_put_self (o : Option k.Value) : (p.put k o).slot k = some o := by
  cases k <;> rfl

theorem slot_put_of_ne (o : Option k.Value) {k' : ConfigKey} (h : k' ≠ k) :
    (p.put k o).slot k' = p.slot k' := by
  cases k <;> cases k' <;> first | rfl | exact absurd rfl h

theorem slot_put_eq_none_iff (o : Option k.Value) (k' : ConfigKey) :
    (p.put k o).slot k' = none ↔ k' ≠ k ∧ p.slot k' = none := by
  by_cases hk : k' = k
  · subst hk
    simp
  · rw [p.slot_put_of_ne k o hk, and_iff_right hk]

@[simp] theorem slot_empty : empty.slot k = none := by
  cases k <;> rfl

end Given

theorem store_eq (outer : Mark) (p : Given) (k : ConfigKey) (within : Text) (value : Located) :
    store outer p k within value =
      (optional outer within k.expected value k.readAs).map (p.put k) := by
  cases k <;> rfl

/-- Entries that are taken one after the other, each for a key that has not been given. -/
inductive Takes : Given → List (Scalar × Yaml.Node) → Given → Prop where
  | nil (p : Given) : Takes p [] p
  | cons {p q : Given} {e : Scalar × Yaml.Node} {rest : List (Scalar × Yaml.Node)} {k : ConfigKey}
      {o : Option k.Value} : k.name = e.1.text → p.slot k = none → k.Decodes e.2 o →
      Takes (p.put k o) rest q → Takes p (e :: rest) q

theorem keyOf_eq_ok_iff {outer : Mark} {p : Given} {x : Located} {s : Scalar}
    (hx : x.item = .scalar s) (k : ConfigKey) (within : Text) :
    keyOf outer p x = .ok (k, within) ↔
      k.name = s.text ∧ p.slot k = none ∧ within = nameOf x s.text := by
  unfold keyOf
  simp only [hx]
  cases hname : ConfigKey.ofName? s.text with
  | none =>
    refine ⟨nofun, fun h => ?_⟩
    rw [(ConfigKey.ofName?_eq_some_iff _ _).mpr h.1] at hname
    cases hname
  | some k' =>
    have hk' := (ConfigKey.ofName?_eq_some_iff _ _).mp hname
    dsimp only
    rw [Given.has_eq]
    split
    · next hgiven =>
      refine ⟨nofun, fun ⟨hk, hfree, _⟩ => ?_⟩
      obtain rfl := ConfigKey.name_injective (hk.trans hk'.symm)
      rw [hfree] at hgiven
      cases hgiven
    · next hfree =>
      rw [Option.not_isSome_iff_eq_none] at hfree
      constructor
      · intro h
        obtain ⟨rfl, rfl⟩ := Prod.mk.inj (Except.ok.inj h)
        exact ⟨hk', hfree, rfl⟩
      · rintro ⟨hk, -, rfl⟩
        rw [ConfigKey.name_injective (hk.trans hk'.symm)]

theorem entries_eq_ok_iff {outer : Mark} {p q : Given} {entries : List (Scalar × Yaml.Node)}
    {located : List Located} (hvalues : ∀ e ∈ entries, e.2.IsUntagged)
    (hitems : located.map Located.item =
      Yaml.Node.itemsOfEntries (entries.map fun e => (.scalar e.1, e.2)) ++ [.mappingEnd]) :
    ConfigFile.entries outer p located = .ok q ↔ Takes p entries q := by
  induction entries generalizing p located with
  | nil =>
    obtain ⟨x, rfl, hx⟩ := List.map_eq_singleton_iff.mp hitems
    rw [ConfigFile.entries, if_pos hx]
    constructor
    · intro h
      obtain rfl := Except.ok.inj h
      exact .nil p
    · rintro ⟨⟩
      rfl
  | cons e rest ih =>
    obtain ⟨key, n⟩ := e
    obtain ⟨hn, hrest⟩ := List.forall_mem_cons.mp hvalues
    obtain ⟨more, hmore⟩ := n.exists_items_eq
    simp only [List.map_cons, Yaml.Node.itemsOfEntries, Yaml.Node.items, hmore, List.cons_append,
      List.nil_append] at hitems
    obtain ⟨x, located, rfl, hx, hitems⟩ := List.map_eq_cons_iff.mp hitems
    obtain ⟨value, located, rfl, hvalue, hitems⟩ := List.map_eq_cons_iff.mp hitems
    have hkey : x.item ≠ .mappingEnd := by
      rw [hx]
      exact nofun
    -- only a scalar can be decoded, and behind it the next entry starts
    have hstep : ∀ {k : ConfigKey} {o : Option k.Value}, k.Decodes n o →
        (ConfigFile.entries outer (p.put k o) located = .ok q ↔ Takes (p.put k o) rest q) := by
      intro k o hdecodes
      obtain rfl : more = [] := by
        cases hdecodes <;> exact (List.cons.inj hmore).2.symm
      exact ih hrest hitems
    rw [ConfigFile.entries, if_neg hkey]
    constructor
    · intro h
      obtain ⟨⟨k, within⟩, hk, h⟩ := exists_of_bind_eq_ok h
      obtain ⟨p', hp', h⟩ := exists_of_bind_eq_ok h
      obtain ⟨hname, hfree, -⟩ := (keyOf_eq_ok_iff hx k within).mp hk
      rw [store_eq] at hp'
      obtain ⟨o, ho, rfl⟩ := exists_of_map_eq_ok hp'
      have hdecodes := (ConfigKey.optional_eq_ok_iff hn hvalue o).mp ho
      exact .cons hname hfree hdecodes ((hstep hdecodes).mp h)
    · rintro (_ | ⟨hname, hfree, hdecodes, htakes⟩)
      rw [(keyOf_eq_ok_iff hx _ _).mpr ⟨hname, hfree, rfl⟩]
      change (store outer p _ _ value).bind _ = _
      rw [store_eq, (ConfigKey.optional_eq_ok_iff hn hvalue _).mpr hdecodes]
      exact (hstep hdecodes).mpr htakes

namespace Takes

variable {p q : Given} {entries : List (Scalar × Yaml.Node)}

theorem known (h : Takes p entries q) :
    ∀ e ∈ entries, ∃ k : ConfigKey, k.name = e.1.text ∧ p.slot k = none := by
  induction h with
  | nil p => exact nofun
  | @cons p q e rest k o hname hfree _ _ ih =>
    refine List.forall_mem_cons.mpr ⟨⟨k, hname, hfree⟩, fun e' he' => ?_⟩
    obtain ⟨k', hname', hfree'⟩ := ih e' he'
    exact ⟨k', hname', ((p.slot_put_eq_none_iff k o k').mp hfree').2⟩

theorem name_ne {k : ConfigKey} {o : Option k.Value} (h : Takes (p.put k o) entries q) :
    ∀ e ∈ entries, k.name ≠ e.1.text := by
  intro e he hname
  obtain ⟨k', hname', hfree⟩ := h.known e he
  have hne := ((p.slot_put_eq_none_iff k o k').mp hfree).1
  exact hne (ConfigKey.name_injective (hname'.trans hname.symm))

theorem slot_eq (h : Takes p entries q) {k : ConfigKey} (hk : ∀ e ∈ entries, k.name ≠ e.1.text) :
    q.slot k = p.slot k := by
  induction h with
  | nil p => rfl
  | @cons p q e rest k' o hname _ _ _ ih =>
    obtain ⟨hhead, hrest⟩ := List.forall_mem_cons.mp hk
    have hne : k ≠ k' := by
      rintro rfl
      exact hhead hname
    exact (ih hrest).trans (p.slot_put_of_ne k' o hne)

theorem decodes (h : Takes p entries q) : ∀ e ∈ entries, ∀ k : ConfigKey, k.name = e.1.text →
    ∃ o, k.Decodes e.2 o ∧ q.slot k = some o := by
  induction h with
  | nil p => exact nofun
  | @cons p q e rest k o hname _ hdecodes htakes ih =>
    refine List.forall_mem_cons.mpr ⟨fun k' hname' => ?_, ih⟩
    obtain rfl := ConfigKey.name_injective (hname'.trans hname.symm)
    exact ⟨o, hdecodes, (htakes.slot_eq htakes.name_ne).trans (p.slot_put_self k' o)⟩

theorem distinct (h : Takes p entries q) : (entries.map fun e => e.1.text).Nodup := by
  induction h with
  | nil p => exact List.nodup_nil
  | cons hname _ _ htakes ih =>
    refine List.nodup_cons.mpr ⟨fun hmem => ?_, ih⟩
    obtain ⟨e', he', htext⟩ := List.mem_map.mp hmem
    exact htakes.name_ne e' he' (hname.trans htext.symm)

theorem accepts (h : Takes p entries q) : Accepts entries where
  known e he := (h.known e he).imp fun _ hk => hk.1
  distinct := h.distinct
  suitable e he k hk := (h.decodes e he k hk).imp fun _ ho => ho.1

theorem reflects (h : Takes .empty entries q) : Reflects entries q.finish where
  given e he k hk := by
    obtain ⟨o, hdecodes, hslot⟩ := h.decodes e he k hk
    rw [Given.get_finish, hslot]
    exact hdecodes
  missing k hk := by
    rw [Given.get_finish, h.slot_eq hk, Given.slot_empty]
    rfl

end Takes

theorem Accepts.exists_takes {entries : List (Scalar × Yaml.Node)} (h : Accepts entries) (p : Given)
    (hp : ∀ e ∈ entries, ∀ k : ConfigKey, k.name = e.1.text → p.slot k = none) :
    ∃ q, Takes p entries q := by
  induction entries generalizing p with
  | nil => exact ⟨p, .nil p⟩
  | cons e rest ih =>
    obtain ⟨hknown, hknown'⟩ := List.forall_mem_cons.mp h.known
    obtain ⟨hsuitable, hsuitable'⟩ := List.forall_mem_cons.mp h.suitable
    obtain ⟨hfree, hfree'⟩ := List.forall_mem_cons.mp hp
    obtain ⟨hnew, hdistinct⟩ := List.nodup_cons.mp h.distinct
    obtain ⟨k, hk⟩ := hknown
    obtain ⟨o, hdecodes⟩ := hsuitable k hk
    have hput : ∀ e' ∈ rest, ∀ k' : ConfigKey, k'.name = e'.1.text →
        (p.put k o).slot k' = none := by
      intro e' he' k' hk'
      refine (p.slot_put_eq_none_iff k o k').mpr ⟨?_, hfree' e' he' k' hk'⟩
      rintro rfl
      exact hnew (List.mem_map.mpr ⟨e', he', hk'.symm.trans hk⟩)
    obtain ⟨q, hq⟩ := ih ⟨hknown', hdistinct, hsuitable'⟩ (p.put k o) hput
    exact ⟨q, .cons hk (hfree k hk) hdecodes hq⟩

section Documents

variable {t : Text} {entries entries' : List (Scalar × Yaml.Node)} {f g : ConfigFile}

theorem ofDocument_eq {d : Document} {root : Located} {located : List Located}
    (hitems : d.items = root :: located) (hroot : root.item = .mappingStart)
    (hwhole : d.isWellFormed = true) :
    ofDocument d = (ConfigFile.entries root.mark .empty located).map Given.finish := by
  have hfile : ofItems d.items =
      (ConfigFile.entries root.mark .empty located).map Given.finish := by
    rw [hitems, ofItems]
    simp only [hroot]
  have hempty : (d.items.isEmpty && !d.intact) = false := by rw [hitems]; rfl
  unfold ofDocument
  rw [hempty, hfile, hwhole]
  cases ConfigFile.entries root.mark .empty located <;> rfl

theorem parse_eq_ok_iff_takes (h : IsMapping t entries) :
    parse t = .ok f ↔ ∃ q, Takes .empty entries q ∧ q.finish = f := by
  obtain ⟨root, located, hlist, hroot, hitems, hnotBlank⟩ := h.exists_root
  rw [parse, if_neg hnotBlank, ofDocument_eq hlist hroot h.whole]
  constructor
  · intro hparse
    obtain ⟨q, hq, hfinish⟩ := exists_of_map_eq_ok hparse
    exact ⟨q, (entries_eq_ok_iff h.values hitems).mp hq, hfinish⟩
  · rintro ⟨q, hq, rfl⟩
    rw [(entries_eq_ok_iff h.values hitems).mpr hq]
    rfl

theorem Reflects.unique (hvalues : ∀ e ∈ entries, e.2.IsUntagged) (h : Reflects entries f)
    (h' : Reflects entries g) : f = g := by
  refine ext_get fun k => ?_
  by_cases hk : ∃ e ∈ entries, k.name = e.1.text
  · obtain ⟨e, he, hname⟩ := hk
    exact (h.given e he k hname).unique (hvalues e he) (h'.given e he k hname)
  · have hmissing : ∀ e ∈ entries, k.name ≠ e.1.text := fun e he hname => hk ⟨e, he, hname⟩
    rw [h.missing k hmissing, h'.missing k hmissing]

theorem parse_eq_ok_iff (h : IsMapping t entries) :
    parse t = .ok f ↔ Accepts entries ∧ Reflects entries f := by
  rw [parse_eq_ok_iff_takes h]
  constructor
  · rintro ⟨q, hq, rfl⟩
    exact ⟨hq.accepts, hq.reflects⟩
  · rintro ⟨haccepts, hreflects⟩
    obtain ⟨q, hq⟩ := haccepts.exists_takes .empty fun _ _ k _ => Given.slot_empty k
    exact ⟨q, hq, hq.reflects.unique h.values hreflects⟩

theorem Accepts.perm (h : Accepts entries) (hperm : entries.Perm entries') : Accepts entries' where
  known e he := h.known e (hperm.mem_iff.mpr he)
  distinct := (hperm.map _).nodup_iff.mp h.distinct
  suitable e he := h.suitable e (hperm.mem_iff.mpr he)

theorem Reflects.perm (h : Reflects entries f) (hperm : entries.Perm entries') :
    Reflects entries' f where
  given e he := h.given e (hperm.mem_iff.mpr he)
  missing k hk := h.missing k fun e he => hk e (hperm.mem_iff.mp he)

/-- A mapping is accepted exactly when every key is known, none is given twice and every value suits
its key. The configuration then reflects the entries, and is the same for every order of them. -/
theorem parse_mapping (h : IsMapping t entries) :
    ((∃ f, parse t = .ok f) ↔ Accepts entries) ∧
      (∀ f, parse t = .ok f → Reflects entries f) ∧
      ∀ t' entries', IsMapping t' entries' → entries.Perm entries' →
        ∀ f, parse t = .ok f ↔ parse t' = .ok f := by
  refine ⟨⟨?_, ?_⟩, ?_, ?_⟩
  · rintro ⟨f, hf⟩
    exact ((parse_eq_ok_iff h).mp hf).1
  · intro haccepts
    obtain ⟨q, hq⟩ := haccepts.exists_takes .empty fun _ _ k _ => Given.slot_empty k
    exact ⟨q.finish, (parse_eq_ok_iff h).mpr ⟨haccepts, hq.reflects⟩⟩
  · exact fun f hf => ((parse_eq_ok_iff h).mp hf).2
  · intro t' entries' h' hperm f
    rw [parse_eq_ok_iff h, parse_eq_ok_iff h']
    exact ⟨fun ⟨ha, hr⟩ => ⟨ha.perm hperm, hr.perm hperm⟩,
      fun ⟨ha, hr⟩ => ⟨ha.perm hperm.symm, hr.perm hperm.symm⟩⟩

end Documents

def sampleEntries : List (Scalar × Yaml.Node) :=
  [(⟨none, "fixture_dir".toList, .plain⟩, .scalar ⟨none, "~".toList, .plain⟩),
    (⟨none, "timeout_secs".toList, .doubleQuoted⟩, .scalar ⟨none, "0x1F".toList, .plain⟩)]

def sampleText : Text := "fixture_dir: ~\n\"timeout_secs\": 0x1F\n".toList

def swappedText : Text := "\"timeout_secs\": 0x1F\nfixture_dir: ~\n".toList

theorem isMapping_sampleText : IsMapping sampleText sampleEntries where
  whole := by decide +kernel
  items := by decide +kernel
  keys := by decide
  values := by decide

theorem isMapping_swappedText : IsMapping swappedText sampleEntries.reverse where
  whole := by decide +kernel
  items := by decide +kernel
  keys := by decide
  values := by decide

theorem decodes_sampleEntries :
    ConfigKey.fixtureDir.Decodes (.scalar ⟨none, "~".toList, .plain⟩) none ∧
      ConfigKey.timeoutSecs.Decodes (.scalar ⟨none, "0x1F".toList, .plain⟩) (some 31) :=
  ⟨.absent (by decide), .value (by decide) ((ConfigKey.readAs_eq_some_iff rfl 31).mp (by decide))⟩

theorem accepts_sampleEntries : Accepts sampleEntries where
  known := List.forall_mem_cons.mpr ⟨⟨.fixtureDir, rfl⟩,
    List.forall_mem_cons.mpr ⟨⟨.timeoutSecs, rfl⟩, nofun⟩⟩
  distinct := by decide
  suitable := by
    refine List.forall_mem_cons.mpr
      ⟨fun k hk => ?_, List.forall_mem_cons.mpr ⟨fun k hk => ?_, nofun⟩⟩
    · obtain rfl : k = .fixtureDir := ConfigKey.name_injective hk
      exact ⟨none, decodes_sampleEntries.1⟩
    · obtain rfl : k = .timeoutSecs := ConfigKey.name_injective hk
      exact ⟨some 31, decodes_sampleEntries.2⟩

theorem parse_mapping_swapped :
    IsMapping sampleText sampleEntries ∧ IsMapping swappedText sampleEntries.reverse ∧
      sampleEntries.Perm sampleEntries.reverse ∧
      ∃ f, parse sampleText = .ok f ∧ parse swappedText = .ok f ∧
        f.fixtureDir = none ∧ f.timeoutSecs = some 31 ∧ f.showCanonical = none := by
  obtain ⟨haccepted, hreflected, hreordered⟩ := parse_mapping isMapping_sampleText
  have hperm := (List.reverse_perm sampleEntries).symm
  obtain ⟨f, hf⟩ := haccepted.mpr accepts_sampleEntries
  have hf' := (hreordered swappedText _ isMapping_swappedText hperm f).mp hf
  obtain ⟨hgiven, hmissing⟩ := hreflected f hf
  have hvalues := isMapping_sampleText.values
  have hfirst := List.mem_of_getElem? (show sampleEntries[0]? = some _ from rfl)
  have hsecond := List.mem_of_getElem? (show sampleEntries[1]? = some _ from rfl)
  refine ⟨isMapping_sampleText, isMapping_swappedText, hperm, f, hf, hf', ?_, ?_, ?_⟩
  · exact (hgiven _ hfirst .fixtureDir rfl).unique (hvalues _ hfirst) decodes_sampleEntries.1
  · exact (hgiven _ hsecond .timeoutSecs rfl).unique (hvalues _ hsecond) decodes_sampleEntries.2
  · exact hmissing .showCanonical (by decide)

theorem minus_zero_refused :
    IsMapping "timeout_secs: -0".toList
        [(⟨none, ConfigKey.timeoutSecs.name, .plain⟩, .scalar ⟨none, "-0".toList, .plain⟩)] ∧
      Spells "-0".toList 0 ∧ ¬ ∃ f, parse "timeout_secs: -0".toList = .ok f := by
  refine ⟨⟨by decide +kernel, by decide +kernel, by decide, by decide⟩, ?_, ?_⟩
  · exact .minus (n := 0) (.decimal (.digit rfl (by decide)) fun _ => rfl)
  · rintro ⟨f, hf⟩
    have hrefused : (parse "timeout_secs: -0".toList).isOk = false := by decide +kernel
    rw [hf] at hrefused
    cases hrefused

end ConfigFile

end LayoutCheck
