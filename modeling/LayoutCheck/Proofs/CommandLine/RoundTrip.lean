import LayoutCheck.CommandLine
import LayoutCheck.Proofs.Config.Timeouts
import LayoutCheck.Proofs.Text.Utf8
import Mathlib.Data.List.Forall2
import Mathlib.Data.List.Nodup
import Mathlib.Data.List.Perm.Basic

/-! # Command lines read back

A switch is written as one argument, its value behind an equals sign. It is read back as that switch
with that value, whatever the value looks like, and a second one is refused. So the options of a
check are read back as they were in whatever order they stand. -/

namespace LayoutCheck

namespace Token

theorem cutAtEquals_append {name : Text} (h : '=' ∉ name) (t : Text) :
    cutAtEquals (name ++ t) = (name ++ (cutAtEquals t).1, (cutAtEquals t).2) := by
  induction name with
  | nil => rfl
  | cons c name ih =>
    rw [List.mem_cons, not_or] at h
    rw [List.cons_append, cutAtEquals, if_neg (Ne.symm h.1), ih h.2]
    rfl

theorem ofArgument_dashes {t : Text} (h : t ≠ []) :
    ofArgument ('-' :: '-' :: t) = .long (cutAtEquals t).1 (cutAtEquals t).2 := by
  obtain ⟨c, t, rfl⟩ := List.exists_cons_of_ne_nil h
  rfl

end Token

namespace Switch

theorem name_ne_nil (s : Switch) : s.name ≠ [] := by
  cases s <;> decide

theorem equals_not_mem_name (s : Switch) : '=' ∉ s.name := by
  cases s <;> decide

def argument (s : Switch) (value : Text) : Text :=
  "--".toList ++ s.name ++ if s.takesValue then '=' :: value else []

def arguments (entries : List (Switch × Text)) : List Text :=
  entries.map fun e => e.1.argument e.2

@[simp] theorem arguments_nil : arguments [] = [] := rfl

@[simp] theorem arguments_cons (e : Switch × Text) (entries : List (Switch × Text)) :
    arguments (e :: entries) = e.1.argument e.2 :: arguments entries := rfl

@[simp] theorem arguments_append (entries entries' : List (Switch × Text)) :
    arguments (entries ++ entries') = arguments entries ++ arguments entries' :=
  List.map_append

theorem arguments_eq_append_iff {entries : List (Switch × Text)} {before after : List Text} :
    arguments entries = before ++ after ↔
      ∃ first last, entries = first ++ last ∧ arguments first = before ∧ arguments last = after :=
  List.map_eq_append_iff

theorem ofArgument_argument (s : Switch) (value : Text) :
    Token.ofArgument (s.argument value) =
      .long s.name (if s.takesValue then some value else none) := by
  have hdashes : s.name ++ (if s.takesValue then '=' :: value else []) ≠ [] := by
    simp [s.name_ne_nil]
  rw [argument, List.append_assoc]
  refine (Token.ofArgument_dashes hdashes).trans ?_
  rw [Token.cutAtEquals_append s.equals_not_mem_name]
  cases s.takesValue <;> simp [Token.cutAtEquals]

/-- A value that the switch is not refused for; a switch that takes none has the empty one. -/
def Suits (s : Switch) (value : Text) : Prop :=
  if s.takesValue then s.faultOf? value = none else value = []

end Switch

namespace Scope

theorem nodup_switchNames (scope : Scope) : (scope.switches.map Switch.name).Nodup := by
  rcases scope with _ | name | _
  · decide
  · cases name <;> decide
  · decide

theorem find?_name {scope : Scope} {s : Switch} (h : s ∈ scope.switches) :
    scope.switches.find? (·.name == s.name) = some s := by
  cases hfind : scope.switches.find? (·.name == s.name) with
  | none => exact absurd (List.find?_eq_none.mp hfind s h) (by simp)
  | some r =>
    have hname : r.name = s.name := by simpa using List.find?_some hfind
    exact congrArg some
      (List.inj_on_of_nodup_map scope.nodup_switchNames (List.mem_of_find?_eq_some hfind) h hname)

end Scope

structure CommandName.Takes (n : CommandName) (s : Switch) (value : Text) : Prop where
  own : s ∈ n.ownSwitches
  suits : s.Suits value

namespace Collected

def ofGiven (scope : Scope) (given : List (Switch × Text)) : Collected :=
  { start scope with given := given }

theorem take_long {c : Collected} (h : c.onlyOperands = false) (s : Switch) (value : Text)
    (rest : List Text) :
    c.take (s.argument value) rest =
      c.takeLong s.name (if s.takesValue then some value else none) rest := by
  rw [take, if_neg (by simp [h]), Switch.ofArgument_argument]

theorem has_iff (c : Collected) (s : Switch) : c.has s = true ↔ s ∈ c.given.map (·.1) := by
  simp [has]

theorem flip_of_own {n : CommandName} {s : Switch} (h : s ∈ n.ownSwitches)
    (given : List (Switch × Text)) :
    (ofGiven (.command n) given).flip s = (ofGiven (.command n) given).give s [] := by
  cases n <;> cases s <;> first | rfl | exact absurd h (by decide)

theorem give_of_suits {s : Switch} {value : Text} (h : s.Suits value) (scope : Scope)
    (given : List (Switch × Text)) :
    (ofGiven scope given).give s value =
      if s ∈ given.map (·.1) then .error (.misused scope (.repeated s))
      else .ok (ofGiven scope (given ++ [(s, value)])) := by
  have hhas := (ofGiven scope given).has_iff s
  have hfault : (if s.takesValue then s.faultOf? value else none) = none := by
    unfold Switch.Suits at h
    split at h
    · next htakes => rw [if_pos htakes, h]
    · next htakes => rw [if_neg htakes]
  rw [give, hfault]
  simp only [hhas]
  rfl

theorem take_argument {n : CommandName} {s : Switch} {value : Text} (h : n.Takes s value)
    (given : List (Switch × Text)) (rest : List Text) :
    (ofGiven (.command n) given).take (s.argument value) rest =
      if s ∈ given.map (·.1) then .error (.misused (.command n) (.repeated s))
      else .ok (ofGiven (.command n) (given ++ [(s, value)])) := by
  have hfind : (ofGiven (.command n) given).scope.switches.find? (·.name == s.name) = some s :=
    Scope.find?_name (List.mem_append_left _ h.own)
  rw [← give_of_suits h.suits, take_long rfl]
  unfold takeLong
  rw [hfind]
  cases htakes : s.takesValue with
  | true => simp only [htakes, if_true]; rfl
  | false =>
    obtain rfl : value = [] := by simpa [Switch.Suits, htakes] using h.suits
    simpa [htakes] using flip_of_own h.own given

theorem takeAll_arguments {n : CommandName} {entries : List (Switch × Text)}
    (htakes : ∀ e ∈ entries, n.Takes e.1 e.2) (given : List (Switch × Text))
    (hdistinct : ((given ++ entries).map (·.1)).Nodup) (rest : List Text) :
    (ofGiven (.command n) given).takeAll (Switch.arguments entries ++ rest) =
      (ofGiven (.command n) (given ++ entries)).takeAll rest := by
  induction entries generalizing given with
  | nil => simp
  | cons e entries ih =>
    obtain ⟨hhead, htail⟩ := List.forall_mem_cons.mp htakes
    have happend : given ++ e :: entries = (given ++ [e]) ++ entries := by simp
    have hnew : e.1 ∉ given.map (·.1) := by
      rw [List.map_append, List.nodup_append] at hdistinct
      exact fun hmem => hdistinct.2.2 _ hmem _ List.mem_cons_self rfl
    rw [Switch.arguments_cons, List.cons_append, takeAll, take_argument hhead, if_neg hnew]
    rw [happend] at hdistinct ⊢
    exact ih htail (given ++ [e]) hdistinct

end Collected

namespace CheckOptions

def path? (o : CheckOptions) : Switch → Option Path
  | .config => o.config
  | .formatter => o.formatter
  | .fixtures => o.fixtures
  | .jsonSummary => o.jsonSummary
  | _ => none

def written? (o : CheckOptions) (s : Switch) : Option Text :=
  match s with
  | .extension => o.extension
  | .timeoutSecs => o.timeoutSecs.map Text.ofNat
  | .showCanonical => if o.showCanonical then some [] else none
  | .noColor => if o.noColor then some [] else none
  | s => (o.path? s).map Path.display

def entries (o : CheckOptions) : List (Switch × Text) :=
  CommandName.check.ownSwitches.filterMap fun s => (o.written? s).map (s, ·)

def arguments (o : CheckOptions) : List Text := Switch.arguments o.entries

/-- Paths are texts that are not empty, and a timeout is in the range. -/
structure Writable (o : CheckOptions) : Prop where
  paths : ∀ s p, o.path? s = some p → ∃ t : Text, t ≠ [] ∧ p = .ofText t
  timeoutSecs : ∀ n, o.timeoutSecs = some n → 1 ≤ n ∧ n < 2 ^ 64

variable {o : CheckOptions}

theorem own_of_written? {s : Switch} {value : Text} (h : o.written? s = some value) :
    s ∈ CommandName.check.ownSwitches := by
  cases s <;> first | decide | cases h

theorem mem_entries_iff {s : Switch} {value : Text} :
    (s, value) ∈ o.entries ↔ o.written? s = some value := by
  simp only [entries, List.mem_filterMap, Option.map_eq_some_iff, Prod.mk.injEq]
  constructor
  · rintro ⟨s, -, value, hvalue, rfl, rfl⟩
    exact hvalue
  · exact fun hvalue => ⟨s, own_of_written? hvalue, value, hvalue, rfl, rfl⟩

theorem exists_written?_of_mem {a : Text} (h : a ∈ o.arguments) :
    ∃ s value, o.written? s = some value ∧ a = s.argument value := by
  obtain ⟨⟨s, value⟩, he, rfl⟩ := List.mem_map.mp h
  exact ⟨s, value, mem_entries_iff.mp he, rfl⟩

theorem nodup_entries (o : CheckOptions) : (o.entries.map (·.1)).Nodup := by
  rw [entries, List.map_filterMap]
  refine List.Nodup.filterMap ?_ (by decide)
  simp only [Option.map_map, Option.mem_def, Option.map_eq_some_iff]
  rintro s s' _ ⟨_, -, rfl⟩ ⟨_, -, rfl⟩
  rfl

theorem nodup_keys {taken : List (Switch × Text)} (h : taken.Subperm o.entries) :
    (taken.map (·.1)).Nodup := by
  obtain ⟨entries, hperm, hsublist⟩ := h
  exact (hperm.map _).nodup_iff.mp (o.nodup_entries.sublist (hsublist.map _))

theorem Writable.ofText_display (h : o.Writable) {s : Switch} {p : Path} (hp : o.path? s = some p) :
    p.display ≠ [] ∧ Path.ofText p.display = p := by
  obtain ⟨t, ht, rfl⟩ := h.paths s p hp
  have hdisplay : (Path.ofText t).display = t := Utf8.decodeLossy_utf8 t
  rw [hdisplay]
  exact ⟨ht, rfl⟩

theorem Writable.suits (h : o.Writable) {s : Switch} {value : Text}
    (hvalue : o.written? s = some value) : s.Suits value := by
  have hpath (hs : (o.path? s).map Path.display = some value) : value ≠ [] := by
    obtain ⟨p, hp, rfl⟩ := Option.map_eq_some_iff.mp hs
    exact (h.ofText_display hp).1
  have hflag {b : Bool} (hb : (if b then some [] else none) = some value) : value = [] :=
    (Option.some.inj (Option.ite_none_right_eq_some.mp hb).2).symm
  cases s
  case help | version | verbose => cases hvalue
  case config | formatter | fixtures | jsonSummary => exact if_neg (hpath hvalue)
  case extension => rfl
  case timeoutSecs =>
    obtain ⟨n, hn, rfl⟩ := Option.map_eq_some_iff.mp hvalue
    obtain ⟨hpos, hlt⟩ := h.timeoutSecs n hn
    exact if_pos (by rw [timeoutOfText?_ofNat hpos hlt]; rfl)
  case showCanonical | noColor => exact hflag hvalue

theorem Writable.takes (h : o.Writable) {taken : List (Switch × Text)}
    (htaken : taken.Subperm o.entries) : ∀ e ∈ taken, CommandName.check.Takes e.1 e.2 := by
  intro e he
  have hvalue := mem_entries_iff.mp (htaken.subset he)
  exact ⟨own_of_written? hvalue, h.suits hvalue⟩

theorem lookup_eq_of_mem_iff {α β : Type} [BEq α] [LawfulBEq α] {l : List (α × β)}
    {f : α → Option β} (h : ∀ a b, (a, b) ∈ l ↔ f a = some b) (a : α) : l.lookup a = f a := by
  cases hl : l.lookup a with
  | none =>
    cases hf : f a with
    | none => rfl
    | some b => exact absurd (List.lookup_eq_none_iff.mp hl _ ((h a b).mpr hf)) (by simp)
  | some b =>
    obtain ⟨before, after, rfl, -⟩ := List.lookup_eq_some_iff.mp hl
    exact ((h a b).mp (by simp)).symm

theorem has_eq_isSome {c : Collected} {f : Switch → Option Text}
    (h : ∀ s value, (s, value) ∈ c.given ↔ f s = some value) (s : Switch) :
    c.has s = (f s).isSome := by
  rw [Bool.eq_iff_iff, c.has_iff, Option.isSome_iff_exists]
  simp [h]

theorem Writable.ofCollected (h : o.Writable) {c : Collected}
    (hgiven : ∀ s value, (s, value) ∈ c.given ↔ o.written? s = some value) :
    CheckOptions.ofCollected c = o := by
  have hvalue (s : Switch) : c.value? s = o.written? s := lookup_eq_of_mem_iff hgiven s
  have hhas (s : Switch) : c.has s = (o.written? s).isSome := has_eq_isSome hgiven s
  have hpath (s : Switch) : ((o.path? s).map Path.display).map Path.ofText = o.path? s := by
    cases hp : o.path? s with
    | none => rfl
    | some p => exact congrArg some (h.ofText_display hp).2
  have htimeout : (o.timeoutSecs.map Text.ofNat).bind timeoutOfText? = o.timeoutSecs := by
    cases hn : o.timeoutSecs with
    | none => rfl
    | some n => exact timeoutOfText?_ofNat (h.timeoutSecs n hn).1 (h.timeoutSecs n hn).2
  have hflag (b : Bool) : (if b then some ([] : Text) else none).isSome = b := by cases b <;> rfl
  simp only [CheckOptions.ofCollected, hvalue, hhas, written?, hpath, htimeout, hflag]
  rfl

end CheckOptions

namespace CommandLine

theorem parse_name (n : CommandName) (arguments : List Text) :
    parse (n.name :: arguments) = ofCommand 0 n arguments := by
  cases n <;> rfl

/-- A switch of a command is unknown in front of its name. -/
theorem parse_argument_first {s : Switch} (h : s ∈ CommandName.check.ownSwitches) (value : Text)
    (rest : List Text) :
    parse (s.argument value :: rest) =
      .error (.misused .program (.unknownName s.name [] rest)) := by
  have hnone : Scope.program.switches.find? (·.name == s.name) = none := by
    cases s <;> first | rfl | exact absurd h (by decide)
  rw [parse, read, if_neg (by decide), Switch.ofArgument_argument]
  dsimp only
  rw [Collected.take_long rfl]
  unfold Collected.takeLong
  rw [show (Collected.start .program).scope = .program from rfl, hnone]
  rfl

theorem ofCommand_of_error {n : CommandName} {arguments : List Text} {stop : UsageStop}
    (h : (Collected.start (.command n)).takeAll arguments = .error stop) :
    ofCommand 0 n arguments = .error stop := by
  rw [ofCommand, h]
  rfl

theorem ofCommand_check {arguments : List Text} {given : List (Switch × Text)}
    (h : (Collected.start (.command .check)).takeAll arguments =
      .ok (.ofGiven (.command .check) given)) :
    ofCommand 0 .check arguments =
      .ok ⟨0, .check (.ofCollected (.ofGiven (.command .check) given))⟩ := by
  rw [ofCommand, h]
  rfl

/-- If a member is put in once more, the later copy stands behind the other one and some more of the
members. -/
theorem exists_second_copy {α : Type} {a : α} {before after : List α} (h : a ∈ before ++ after) :
    ∃ taken rest, taken.Subperm (before ++ after) ∧ a ∈ taken ∧
      before ++ a :: after = taken ++ a :: rest := by
  by_cases hbefore : a ∈ before
  · exact ⟨before, after, (List.sublist_append_left before after).subperm, hbefore, rfl⟩
  · obtain ⟨passed, rest, rfl⟩ :=
      List.append_of_mem ((List.mem_append.mp h).resolve_left hbefore)
    refine ⟨before ++ a :: passed, rest, ?_, by simp, by simp⟩
    have hmoved : (a :: passed).Perm (passed ++ [a]) := (List.perm_append_singleton a passed).symm
    have hfirst : (before ++ (passed ++ [a])).Sublist (before ++ (passed ++ a :: rest)) := by
      simp
    exact (hmoved.append_left before).subperm.trans hfirst.subperm

theorem exists_entries_of_perm {o : CheckOptions} {arguments : List Text}
    (h : arguments.Perm o.arguments) :
    ∃ entries : List (Switch × Text), entries.Perm o.entries ∧
      arguments = Switch.arguments entries := by
  have hwritten : List.Forall₂ (fun a e => a = e.1.argument e.2) o.arguments o.entries :=
    List.forall₂_map_left_iff.mpr (List.forall₂_same.mpr fun _ _ => rfl)
  obtain ⟨entries, harguments, hperm⟩ := List.perm_comp_forall₂ h hwritten
  refine ⟨entries, hperm, ?_⟩
  have heach := List.forall₂_map_right_iff.mpr harguments
  rwa [List.forall₂_eq_eq_eq] at heach

section Taken

variable {o : CheckOptions} (h : o.Writable) {taken : List (Switch × Text)}
  (htaken : taken.Subperm o.entries)
include h htaken

theorem takeAll_of_subperm (rest : List Text) :
    (Collected.start (.command .check)).takeAll (Switch.arguments taken ++ rest) =
      (Collected.ofGiven (.command .check) taken).takeAll rest :=
  Collected.takeAll_arguments (h.takes htaken) [] (CheckOptions.nodup_keys htaken) rest

theorem parse_of_refused {a : Text} {rest : List Text} {stop : UsageStop}
    (hstop : (Collected.ofGiven (.command .check) taken).take a rest = .error stop) :
    parse (CommandName.check.name :: (Switch.arguments taken ++ a :: rest)) = .error stop := by
  rw [parse_name]
  refine ofCommand_of_error ?_
  rw [takeAll_of_subperm h htaken, Collected.takeAll, hstop]
  rfl

theorem parse_argument_again {s : Switch} {value : Text} (hmem : (s, value) ∈ taken)
    (rest : List Text) :
    parse (CommandName.check.name :: (Switch.arguments taken ++ s.argument value :: rest)) =
      .error (.misused (.command .check) (.repeated s)) := by
  have hgiven : s ∈ taken.map (·.1) := List.mem_map_of_mem hmem
  refine parse_of_refused h htaken ?_
  rw [Collected.take_argument (h.takes htaken _ hmem), if_pos hgiven]

theorem parse_name_again (rest : List Text) :
    parse (CommandName.check.name ::
        (Switch.arguments taken ++ CommandName.check.name :: rest)) =
      .error (.misused (.command .check) (.extraOperand CommandName.check.name)) :=
  parse_of_refused h htaken rfl

end Taken

section Arranged

variable {o : CheckOptions} (h : o.Writable) {entries : List (Switch × Text)}
  (hperm : entries.Perm o.entries)
include h hperm

theorem parse_arguments :
    parse (CommandName.check.name :: Switch.arguments entries) = .ok ⟨0, .check o⟩ := by
  have hall : (Collected.start (.command .check)).takeAll (Switch.arguments entries) =
      .ok (.ofGiven (.command .check) entries) := by
    have htake := takeAll_of_subperm h hperm.subperm []
    rwa [List.append_nil] at htake
  have hread : CheckOptions.ofCollected (.ofGiven (.command .check) entries) = o :=
    h.ofCollected fun s value => hperm.mem_iff.trans CheckOptions.mem_entries_iff
  rw [parse_name, ofCommand_check hall, hread]

theorem parse_repeated {s : Switch} {value : Text} (hvalue : o.written? s = some value)
    {before after : List Text} (hsplit : Switch.arguments entries = before ++ after) :
    parse (CommandName.check.name :: (before ++ s.argument value :: after)) =
      .error (.misused (.command .check) (.repeated s)) := by
  obtain ⟨before, after, rfl, rfl, rfl⟩ := Switch.arguments_eq_append_iff.mp hsplit
  have hmem : (s, value) ∈ before ++ after :=
    hperm.mem_iff.mpr (CheckOptions.mem_entries_iff.mpr hvalue)
  obtain ⟨taken, rest, htaken, he, hsecond⟩ := exists_second_copy hmem
  have hline : Switch.arguments before ++ s.argument value :: Switch.arguments after =
      Switch.arguments taken ++ s.argument value :: Switch.arguments rest := by
    simpa using congrArg Switch.arguments hsecond
  rw [hline]
  exact parse_argument_again h (htaken.trans hperm.subperm) he _

end Arranged

/-- The options of a check are read back from their arguments in any order. They are not read from
a command line in which one of the arguments, or the name of the command, was put in once more,
wherever that is; behind the name it is the repeated switch that is refused. -/
theorem parse_check_in_any_order {o : CheckOptions} (h : o.Writable) {arguments : List Text}
    (horder : arguments.Perm o.arguments) :
    let line := CommandName.check.name :: arguments
    parse line = .ok ⟨0, .check o⟩ ∧
      (∀ s value before after, o.written? s = some value → arguments = before ++ after →
        parse (CommandName.check.name :: (before ++ s.argument value :: after)) =
          .error (.misused (.command .check) (.repeated s))) ∧
      ∀ a before after, a ∈ line → line = before ++ after →
        ∃ scope why, parse (before ++ a :: after) = .error (.misused scope why) := by
  obtain ⟨entries, hperm, rfl⟩ := exists_entries_of_perm horder
  refine ⟨parse_arguments h hperm,
    fun s value before after hvalue hsplit => parse_repeated h hperm hvalue hsplit, ?_⟩
  intro a before after ha hsplit
  cases before with
  | nil =>
    obtain rfl : _ = after := hsplit
    rcases List.mem_cons.mp ha with rfl | ha
    · exact ⟨_, _, parse_name_again h List.nil_subperm _⟩
    · obtain ⟨s, value, hvalue, rfl⟩ := CheckOptions.exists_written?_of_mem (horder.mem_iff.mp ha)
      exact ⟨_, _, parse_argument_first (CheckOptions.own_of_written? hvalue) value _⟩
  | cons b before =>
    obtain ⟨rfl, harguments⟩ := List.cons.inj hsplit
    rcases List.mem_cons.mp ha with rfl | ha
    · obtain ⟨taken, rest, rfl, rfl, rfl⟩ := Switch.arguments_eq_append_iff.mp harguments
      have htaken : taken.Subperm o.entries :=
        (List.sublist_append_left taken rest).subperm.trans hperm.subperm
      exact ⟨_, _, parse_name_again h htaken _⟩
    · obtain ⟨s, value, hvalue, rfl⟩ := CheckOptions.exists_written?_of_mem (horder.mem_iff.mp ha)
      exact ⟨_, _, parse_repeated h hperm hvalue harguments⟩

def lookalikes : CheckOptions where
  config := some (.ofText "-c=a b".toList)
  formatter := none
  fixtures := some (.ofText "check".toList)
  extension := some "--no-color".toList
  timeoutSecs := some (2 ^ 64 - 1)
  showCanonical := true
  noColor := false
  jsonSummary := none

theorem writable_lookalikes : lookalikes.Writable where
  paths s p hp := by
    cases s
    case config => exact ⟨_, by decide, (Option.some.inj hp).symm⟩
    case fixtures => exact ⟨_, by decide, (Option.some.inj hp).symm⟩
    all_goals cases hp
  timeoutSecs n hn := by
    obtain rfl : 2 ^ 64 - 1 = n := Option.some.inj hn
    decide

theorem parse_check_in_any_order_lookalikes :
    let arguments := ["--show-canonical", "--timeout-secs=18446744073709551615",
      "--extension=--no-color", "--fixtures=check", "--config=-c=a b"].map String.toList
    lookalikes.Writable ∧ arguments.Perm lookalikes.arguments ∧
      parse ("check".toList :: arguments) = .ok ⟨0, .check lookalikes⟩ ∧
      parse ("check".toList :: (arguments ++ ["--extension=--no-color".toList])) =
        .error (.misused (.command .check) (.repeated .extension)) := by
  intro arguments
  have hreversed : arguments = lookalikes.arguments.reverse := by decide +kernel
  have horder : arguments.Perm lookalikes.arguments := hreversed ▸ List.reverse_perm _
  obtain ⟨hread, hrepeated, -⟩ := parse_check_in_any_order writable_lookalikes horder
  exact ⟨writable_lookalikes, horder, hread,
    hrepeated .extension _ arguments [] rfl (List.append_nil arguments).symm⟩

end CommandLine

end LayoutCheck
