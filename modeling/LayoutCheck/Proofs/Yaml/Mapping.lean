import LayoutCheck.Text
import LayoutCheck.Yaml.Document
import LayoutCheck.Yaml.Resolution
import Mathlib.Data.List.TakeWhile

/-! # Documents that are mappings

Reading only ever goes forward: what is left is an end of what was there. In a text of nothing but
blanks no indicator is found, so that its tokens are scalars at most and no event starts a mapping.
Nodes are trees; a document lists them one behind the other, and a mapping is named by its
entries. -/

namespace LayoutCheck.Yaml

namespace Cursor

theorem rest_skip (c : Cursor) : c.skip.rest <:+ c.rest := by
  unfold skip
  split
  · exact List.suffix_rfl
  · next h => exact h ▸ List.suffix_cons _ _

theorem rest_skipWhile (p : Char → Bool) (c : Cursor) : (c.skipWhile p).rest <:+ c.rest :=
  List.dropWhile_suffix p

theorem rest_skipComment (c : Cursor) : c.skipComment.rest <:+ c.rest := by
  unfold skipComment
  split
  · exact rest_skipWhile _ c
  · exact List.suffix_rfl

theorem rest_skipBreak (c : Cursor) : c.skipBreak.rest <:+ c.rest := by
  unfold skipBreak takeBreak
  split
  · next r h => exact h ▸ List.suffix_append ['\r', '\n'] r
  · next x r _ h =>
    have hone : r <:+ c.rest := h ▸ List.suffix_cons x r
    split
    · exact hone
    · split
      · exact hone
      · exact List.suffix_rfl
  · exact List.suffix_rfl

end Cursor

theorem Gap.rest_take {indent fuel : Nat} {g g' : Gap} {c c' : Cursor}
    (h : Gap.take indent fuel g c = some (g', c')) : c'.rest <:+ c.rest := by
  fun_induction Gap.take indent fuel g c with
  | case1 g c =>
    cases h
    exact List.suffix_rfl
  | case2 => cases h
  | case3 fuel g c _ _ _ ih => exact (ih h).trans c.rest_skip
  | case4 fuel g c _ _ b _ ih => exact (ih h).trans c.rest_skipBreak
  | case5 fuel g c _ _ =>
    cases h
    exact List.suffix_rfl

namespace Plain

theorem rest_word {inFlow : Bool} {fuel : Nat} {acc t : Text} {c c' : Cursor}
    (h : word inFlow fuel acc c = some (t, c')) : c'.rest <:+ c.rest := by
  fun_induction word inFlow fuel acc c with
  | case1 => cases h; exact List.suffix_rfl
  | case2 => cases h; exact List.suffix_rfl
  | case3 => cases h
  | case4 => cases h; exact List.suffix_rfl
  | case5 fuel acc c _ _ _ ih => exact (ih h).trans c.rest_skip

theorem rest_words {inFlow : Bool} {indent total fuel : Nat} {text : Text} {stop : Mark} {gap : Gap}
    {c : Cursor} {r : Result} (h : words inFlow indent total fuel text stop gap c = some r) :
    r.next.rest <:+ c.rest := by
  fun_induction words inFlow indent total fuel text stop gap c with
  | case1 =>
    cases h
    exact List.suffix_rfl
  | case2 =>
    cases h
    exact List.suffix_rfl
  | case3 fuel text stop gap c _ ih =>
    obtain ⟨⟨w, c'⟩, hword, h⟩ := Option.bind_eq_some_iff.mp h
    have hback := rest_word hword
    dsimp only at h
    split at h
    · cases h
      exact hback
    · obtain ⟨⟨gap', c''⟩, htake, h⟩ := Option.bind_eq_some_iff.mp h
      have hback' := (Gap.rest_take htake).trans hback
      dsimp only at h
      split at h
      · cases h
        exact hback'
      · exact (ih w c' gap' c'' h).trans hback'

theorem rest_scan {inFlow : Bool} {indent : Nat} {c : Cursor} {r : Result}
    (h : scan inFlow indent c = some r) : r.next.rest <:+ c.rest :=
  rest_words h

end Plain

inductive TokenKind.IsFlat : TokenKind → Prop where
  | scalar (text : Text) (style : ScalarStyle) : IsFlat (.scalar text style)
  | streamEnd : IsFlat .streamEnd

namespace Lexer

theorem dropCandidate_eq {s s' : Lexer} (h : s.dropCandidate = some s') :
    ∃ ks, s' = { s with candidates := ks } := by
  unfold dropCandidate at h
  split at h
  · split at h
    · cases h
    · exact ⟨_, (Option.some.inj h).symm⟩
  · exact ⟨_, (Option.some.inj h).symm⟩

theorem saveCandidate_eq {s s' : Lexer} (h : s.saveCandidate = some s') :
    ∃ ks, s' = { s with candidates := ks } := by
  unfold saveCandidate at h
  split at h
  · exact ⟨_, (Option.some.inj h).symm⟩
  · obtain ⟨u, hu, h⟩ := Option.bind_eq_some_iff.mp h
    obtain ⟨ks, rfl⟩ := dropCandidate_eq hu
    exact ⟨_, (Option.some.inj h).symm⟩

theorem dropStale_eq {s s' : Lexer} (h : s.dropStale = some s') :
    ∃ ks, s' = { s with candidates := ks } := by
  obtain ⟨ks, -, h⟩ := Option.bind_eq_some_iff.mp h
  exact ⟨ks, (Option.some.inj h).symm⟩

/-- Nothing but blanks is left, no block collection is open, and no token opened anything. -/
structure IsBlank (s : Lexer) : Prop where
  rest : ∀ c ∈ s.cursor.rest, LayoutCheck.isBlank c = true
  unindented : s.indents = []
  flat : ∀ t ∈ s.tokens, t.kind.IsFlat

namespace IsBlank

variable {s s' : Lexer}

theorem start {t : Text} (h : t.all LayoutCheck.isBlank = true) : (start t).IsBlank where
  rest := List.all_eq_true.mp h
  unindented := rfl
  flat := nofun

theorem candidates (h : s.IsBlank) (ks : List (Option KeyCandidate)) :
    IsBlank { s with candidates := ks } :=
  ⟨h.rest, h.unindented, h.flat⟩

theorem keyAllowed (h : s.IsBlank) (b : Bool) : IsBlank { s with keyAllowed := b } :=
  ⟨h.rest, h.unindented, h.flat⟩

theorem cursor (h : s.IsBlank) {c : Cursor} (hc : c.rest <:+ s.cursor.rest) :
    IsBlank { s with cursor := c } :=
  ⟨fun x hx => h.rest x (hc.subset hx), h.unindented, h.flat⟩

theorem push (h : s.IsBlank) {kind : TokenKind} (hkind : kind.IsFlat) (start stop : Mark) :
    (s.push kind start stop).IsBlank where
  rest := h.rest
  unindented := h.unindented
  flat := by
    intro t ht
    rcases Array.mem_push.mp ht with ht | rfl
    · exact h.flat t ht
    · exact hkind

theorem unroll (h : s.IsBlank) (column : Int) : (s.unroll column).IsBlank := by
  unfold Lexer.unroll
  split
  · exact h
  · rw [h.unindented, Lexer.unroll.go]
    exact ⟨h.rest, rfl, h.flat⟩

theorem toNextToken (h : s.IsBlank) (fuel : Nat) : (s.toNextToken fuel).IsBlank := by
  induction fuel generalizing s with
  | zero => exact h
  | succ fuel ih =>
    rw [Lexer.toNextToken]
    generalize hmark : (if s.cursor.mark.column == 0 && s.cursor.looksAt '\uFEFF' then s.cursor.skip
      else s.cursor) = c
    have hback : c.rest <:+ s.cursor.rest := by
      rw [← hmark]
      split
      · exact s.cursor.rest_skip
      · exact List.suffix_rfl
    have hblanks := ((Cursor.rest_skipComment _).trans (c.rest_skipWhile
      fun x => x == ' ' || ((s.inFlow || !s.keyAllowed) && x == '\t'))).trans hback
    split
    · exact ih ((h.cursor ((Cursor.rest_skipBreak _).trans hblanks)).keyAllowed _)
    · exact h.cursor hblanks

theorem streamEnd (h : s.IsBlank) (hs : s.streamEnd = some s') : s'.IsBlank := by
  simp only [Lexer.streamEnd] at hs
  generalize (if s.cursor.mark.column = 0 then s.cursor.mark
    else (⟨s.cursor.mark.index, s.cursor.mark.line + 1, 0⟩ : Mark)) = m at hs
  obtain ⟨u, hu, hs⟩ := Option.bind_eq_some_iff.mp hs
  obtain ⟨ks, rfl⟩ := dropCandidate_eq hu
  obtain rfl := Option.some.inj hs
  have hend : IsBlank { s with cursor := ⟨s.cursor.rest, m⟩ } := h.cursor List.suffix_rfl
  exact (((hend.unroll (-1)).candidates ks).push .streamEnd m m).keyAllowed false

theorem plainScalar (h : s.IsBlank) (hs : s.plainScalar = some s') : s'.IsBlank := by
  unfold Lexer.plainScalar at hs
  obtain ⟨u, hu, hs⟩ := Option.bind_eq_some_iff.mp hs
  obtain ⟨ks, rfl⟩ := saveCandidate_eq hu
  obtain ⟨r, hr, hs⟩ := Option.bind_eq_some_iff.mp hs
  obtain rfl := Option.some.inj hs
  have hpush := (h.candidates ks).push (.scalar r.text .plain) s.cursor.mark r.stop
  exact (hpush.cursor (Plain.rest_scan hr)).keyAllowed _

theorem not_mem_rest (h : s.IsBlank) {x : Char} (hx : LayoutCheck.isBlank x = false) :
    x ∉ s.cursor.rest := by
  intro hmem
  rw [h.rest x hmem] at hx
  cases hx

theorem looksAt_eq_false (h : s.IsBlank) (x : Char) (hx : LayoutCheck.isBlank x = false) :
    s.cursor.looksAt x = false := by
  rw [Cursor.looksAt, beq_eq_false_iff_ne]
  exact fun hpeek => h.not_mem_rest hx (List.mem_of_mem_head? hpeek)

theorem onDocumentMark_eq_false (h : s.IsBlank) (x : Char) (hx : LayoutCheck.isBlank x = false) :
    s.cursor.onDocumentMark x = false := by
  have htake : (s.cursor.rest.take 3 == [x, x, x]) = false := by
    rw [beq_eq_false_iff_ne]
    intro heq
    have hmem : x ∈ s.cursor.rest.take 3 := heq ▸ List.mem_cons_self
    exact h.not_mem_rest hx (List.mem_of_mem_take hmem)
  rw [Cursor.onDocumentMark, htake, Bool.and_false, Bool.false_and]

theorem dispatch (h : s.IsBlank) (hs : s.dispatch = some s') :
    s.streamEnd = some s' ∨ s.plainScalar = some s' := by
  rw [Lexer.dispatch, h.looksAt_eq_false '%' (by decide), h.onDocumentMark_eq_false '-' (by decide),
    h.onDocumentMark_eq_false '.' (by decide), Bool.and_false, if_neg Bool.false_ne_true,
    if_neg Bool.false_ne_true, if_neg Bool.false_ne_true] at hs
  split at hs
  · exact .inl hs
  · next x hpeek =>
    have hne : ∀ c, LayoutCheck.isBlank c = false → (x == c) = false := by
      intro c hc
      rw [beq_eq_false_iff_ne]
      rintro rfl
      exact h.not_mem_rest hc (List.mem_of_mem_head? hpeek)
    simp (disch := decide) only [hne, Bool.false_and, Bool.false_eq_true, if_false] at hs
    split at hs
    · exact .inr hs
    · cases hs

theorem next (h : s.IsBlank) (hs : s.next = some s') : s'.IsBlank := by
  unfold Lexer.next at hs
  obtain ⟨u, hu, hs⟩ := Option.bind_eq_some_iff.mp hs
  obtain ⟨ks, rfl⟩ := dropStale_eq hu
  have hready := ((h.toNextToken (s.cursor.rest.length + 1)).candidates ks).unroll
    (s.toNextToken (s.cursor.rest.length + 1)).cursor.mark.column
  rcases hready.dispatch hs with hs | hs
  · exact hready.streamEnd hs
  · exact hready.plainScalar hs

theorem run (h : s.IsBlank) (fuel : Nat) : ∀ t ∈ (s.run fuel).1, t.kind.IsFlat := by
  induction fuel generalizing s with
  | zero => exact fun t ht => h.flat t (Array.mem_toList_iff.mp ht)
  | succ fuel ih =>
    rw [Lexer.run]
    split
    · exact fun t ht => h.flat t (Array.mem_toList_iff.mp ht)
    · next s' hs =>
      have hnext := h.next hs
      split
      · exact fun t ht => hnext.flat t (Array.mem_toList_iff.mp ht)
      · exact ih hnext

end IsBlank

end Lexer

theorem isFlat_of_mem_tokenize {t : Text} (h : t.all isBlank = true) :
    ∀ x ∈ (tokenize t).1, x.kind.IsFlat := by
  unfold tokenize
  split
  · exact (Lexer.IsBlank.start h).run _
  · exact nofun

def Event.OpensNoMapping (e : Event) : Prop := ∀ p, e ≠ .mappingStart p

inductive Goal.IsFlat : Goal → Prop where
  | firstDocument : IsFlat .firstDocument
  | blockNode : IsFlat .blockNode
  | documentEnd : IsFlat .documentEnd
  | nextDocument : IsFlat .nextDocument
  | finished : IsFlat .finished

namespace Grammar

/-- With flat tokens, and on the way of a document that is one scalar. -/
structure IsFlat (g : Grammar) : Prop where
  tokens : ∀ t ∈ g.tokens, t.kind.IsFlat
  goal : g.goal.IsFlat
  stack : ∀ goal ∈ g.stack, goal = .documentEnd

namespace IsFlat

variable {g g' : Grammar} {e : Event} {m : Mark}

theorem start {tokens : List Token} (h : ∀ t ∈ tokens, t.kind.IsFlat) : (start tokens).IsFlat where
  tokens := h
  goal := .firstDocument
  stack := nofun

theorem pop (h : g.IsFlat) : g.pop.IsFlat := by
  unfold Grammar.pop
  split
  · exact ⟨h.tokens, .finished, h.stack⟩
  · next goal rest hstack =>
    have hall := hstack ▸ h.stack
    obtain rfl := hall goal List.mem_cons_self
    exact ⟨h.tokens, .documentEnd, fun goal hgoal => hall goal (List.mem_cons_of_mem _ hgoal)⟩

theorem skip (h : g.IsFlat) : g.skip.IsFlat :=
  ⟨fun t ht => h.tokens t (List.mem_of_mem_drop ht), h.goal, h.stack⟩

theorem node (h : g.IsFlat) (hs : g.node true false = some (e, m, g')) :
    e.OpensNoMapping ∧ g'.IsFlat := by
  obtain ⟨tokens, goal, stack, handles⟩ := g
  cases tokens with
  | nil => cases hs
  | cons t ts =>
    have ht := h.tokens t List.mem_cons_self
    obtain ⟨kind, a, b⟩ := t
    cases ht with
    | scalar text style =>
      cases hs
      exact ⟨nofun, h.skip.pop⟩
    | streamEnd => cases hs

theorem document {implicit : Bool} (h : g.IsFlat) (hs : g.document implicit = some (e, m, g')) :
    e.OpensNoMapping ∧ g'.IsFlat := by
  unfold Grammar.document at hs
  have htokens : ∀ t ∈ (if implicit then g.tokens else g.tokens.dropWhile (·.kind == .documentEnd)),
      t.kind.IsFlat := by
    split
    · exact h.tokens
    · exact fun t ht => h.tokens t ((List.dropWhile_suffix _).subset ht)
  generalize (if implicit then g.tokens else g.tokens.dropWhile (·.kind == .documentEnd)) = tokens
    at hs htokens
  cases tokens with
  | nil => cases hs
  | cons t ts =>
    have ht := htokens t List.mem_cons_self
    obtain ⟨kind, a, b⟩ := t
    cases ht with
    | streamEnd =>
      cases hs
      exact ⟨nofun, htokens, .finished, h.stack⟩
    | scalar text style =>
      cases implicit with
      | true =>
        cases hs
        exact ⟨nofun, htokens, .blockNode, List.forall_mem_cons.mpr ⟨rfl, h.stack⟩⟩
      -- later documents must be marked
      | false => cases hs

theorem documentEnd (h : g.IsFlat) (hs : g.documentEnd = some (e, m, g')) :
    e.OpensNoMapping ∧ g'.IsFlat := by
  obtain ⟨t, ht, hs⟩ := Option.bind_eq_some_iff.mp hs
  cases hs
  split
  · exact ⟨nofun, h.skip.tokens, .nextDocument, h.stack⟩
  · exact ⟨nofun, h.tokens, .nextDocument, h.stack⟩

theorem step (h : g.IsFlat) (hs : g.step = some (e, m, g')) : e.OpensNoMapping ∧ g'.IsFlat := by
  have hgoal := h.goal
  unfold Grammar.step at hs
  generalize hg : g.goal = goal at hs hgoal
  cases hgoal with
  | firstDocument => exact h.document hs
  | blockNode => exact h.node hs
  | documentEnd => exact h.documentEnd hs
  | nextDocument => exact h.document hs
  | finished => cases hs

theorem run (h : g.IsFlat) (fuel : Nat) {acc : List (Event × Mark)}
    (hacc : ∀ x ∈ acc, x.1.OpensNoMapping) : ∀ x ∈ (g.run fuel acc).1, x.1.OpensNoMapping := by
  induction fuel generalizing g acc with
  | zero => exact fun x hx => hacc x (List.mem_reverse.mp hx)
  | succ fuel ih =>
    rw [Grammar.run]
    split
    · exact fun x hx => hacc x (List.mem_reverse.mp hx)
    · next m _ _ =>
      intro x hx
      rcases List.mem_cons.mp (List.mem_reverse.mp hx) with rfl | hx
      · exact nofun
      · exact hacc x hx
    · next e m g' hs =>
      obtain ⟨he, hg⟩ := h.step hs
      exact ih hg (List.forall_mem_cons.mpr ⟨he, hacc⟩)

end IsFlat

end Grammar

namespace Document

theorem mem_drafts_gather {events : List (Event × Mark)} {a : Anchors} {count : Nat} {m : Mark}
    (h : (.inl .mappingStart, m) ∈ (gather events a count).drafts) :
    ∃ x ∈ events, ∃ p, x.1 = .mappingStart p := by
  induction events generalizing a count with
  | nil => cases h
  | cons x events ih =>
    obtain ⟨e, n⟩ := x
    have hlater : ∀ {a count}, (.inl .mappingStart, m) ∈ (gather events a count).drafts →
        ∃ x ∈ (e, n) :: events, ∃ p, x.1 = .mappingStart p := fun h =>
      (ih h).imp fun x hx => ⟨List.mem_cons_of_mem _ hx.1, hx.2⟩
    cases e with
    | mappingStart p => exact ⟨_, List.mem_cons_self, p, rfl⟩
    | streamEnd => cases h
    | documentStart => exact hlater h
    | documentEnd => cases h
    | «alias» name =>
      simp only [gather] at h
      split at h
      · cases h
      · rcases List.mem_cons.mp h with h | h
        · cases h
        · exact hlater h
    | _ =>
      rcases List.mem_cons.mp h with h | h
      · cases h
      · exact hlater h

theorem mem_items_ofEvents {events : List (Event × Mark)} {x : Located}
    (h : x ∈ (ofEvents events).items) (hx : x.item = .mappingStart) :
    ∃ x ∈ events, ∃ p, x.1 = .mappingStart p := by
  obtain ⟨⟨content, m⟩, hmem, hsettle⟩ := List.mem_filterMap.mp h
  cases content with
  | inl y =>
    obtain rfl := Option.some.inj hsettle
    obtain rfl : y = .mappingStart := hx
    exact mem_drafts_gather hmem
  | inr k =>
    unfold settle at hsettle
    dsimp only at hsettle
    split at hsettle
    · next y n htarget =>
      obtain rfl := Option.some.inj hsettle
      obtain rfl : y = .mappingStart := hx
      obtain ⟨i, -, hi⟩ := Option.bind_eq_some_iff.mp htarget
      exact mem_drafts_gather (List.mem_of_getElem? hi)
    · cases hsettle

theorem item_ne_mappingStart_of_blank {t : Text} (ht : t.all isBlank = true) {x : Located}
    (h : x ∈ (ofText t).items) : x.item ≠ .mappingStart := by
  intro hx
  obtain ⟨e, he, p, hp⟩ := mem_items_ofEvents h hx
  have hflat := Grammar.IsFlat.start (isFlat_of_mem_tokenize ht)
  exact hflat.run _ (by nofun) e he p hp

end Document

inductive Node where
  | scalar (value : Scalar)
  | sequence (children : List Node)
  | mapping (entries : List (Node × Node))

namespace Node

mutual

def items : Node → List Item
  | scalar s => [.scalar s]
  | sequence children => .sequenceStart :: (itemsOfAll children ++ [.sequenceEnd])
  | mapping entries => .mappingStart :: (itemsOfEntries entries ++ [.mappingEnd])

def itemsOfAll : List Node → List Item
  | [] => []
  | n :: ns => n.items ++ itemsOfAll ns

def itemsOfEntries : List (Node × Node) → List Item
  | [] => []
  | (key, value) :: rest => key.items ++ value.items ++ itemsOfEntries rest

end

def opening : Node → Item
  | scalar s => .scalar s
  | sequence _ => .sequenceStart
  | mapping _ => .mappingStart

theorem exists_items_eq (n : Node) : ∃ rest, n.items = n.opening :: rest := by
  cases n with
  | scalar s => exact ⟨[], rfl⟩
  | sequence children => exact ⟨_, rfl⟩
  | mapping entries => exact ⟨_, rfl⟩

def IsUntagged : Node → Prop
  | scalar s => s.tag = none
  | _ => True

instance (n : Node) : Decidable n.IsUntagged :=
  match n with
  | scalar s => inferInstanceAs (Decidable (s.tag = none))
  | sequence _ => .isTrue trivial
  | mapping _ => .isTrue trivial

end Node

/-- The text is one document, a mapping with these entries. The keys are scalars, and neither keys
nor values have tags. -/
structure IsMapping (t : Text) (entries : List (Scalar × Node)) : Prop where
  whole : (Document.ofText t).isWellFormed = true
  items : (Document.ofText t).items.map Located.item =
    (Node.mapping (entries.map fun e => (.scalar e.1, e.2))).items
  keys : ∀ e ∈ entries, e.1.tag = none
  values : ∀ e ∈ entries, e.2.IsUntagged

theorem IsMapping.exists_root {t : Text} {entries : List (Scalar × Node)}
    (h : IsMapping t entries) :
    ∃ root located, (Document.ofText t).items = root :: located ∧ root.item = .mappingStart ∧
      located.map Located.item =
        Node.itemsOfEntries (entries.map fun e => (.scalar e.1, e.2)) ++ [.mappingEnd] ∧
      ¬ t.all isBlank = true := by
  obtain ⟨root, located, hlist, hroot, hitems⟩ := List.map_eq_cons_iff.mp h.items
  refine ⟨root, located, hlist, hroot, hitems, fun hblank => ?_⟩
  exact Document.item_ne_mappingStart_of_blank hblank (hlist ▸ List.mem_cons_self) hroot

theorem any_toList_beq_iff (words : List String) (t : Text) :
    (words.any fun w => w.toList == t) = true ↔ t ∈ words.map String.toList := by
  rw [List.any_eq_true, List.mem_map]
  exact exists_congr fun w => and_congr_right fun _ => beq_iff_eq

namespace Scalar

def nullForms : List Text := ["", "null", "Null", "NULL", "~"].map String.toList

def IsNull (s : Scalar) : Prop := s.style = .plain ∧ s.text ∈ nullForms

instance (s : Scalar) : Decidable s.IsNull :=
  inferInstanceAs (Decidable (s.style = .plain ∧ s.text ∈ nullForms))

variable {s : Scalar}

theorem isAbsent?_eq (h : s.tag = none) : s.isAbsent? = some (decide s.IsNull) := by
  have hforms : (s.text.isEmpty || isNullWord s.text) = true ↔ s.text ∈ nullForms := by
    rw [Bool.or_eq_true, isNullWord, any_toList_beq_iff, List.isEmpty_iff]
    exact List.mem_cons.symm
  unfold isAbsent?
  by_cases hstyle : s.style = .plain
  · rw [if_neg (not_not_intro hstyle), h]
    refine congrArg some (Bool.eq_iff_iff.mpr ?_)
    rw [hforms, decide_eq_true_iff, IsNull, and_iff_right hstyle]
  · rw [if_pos hstyle, decide_eq_false fun hnull => hstyle hnull.1]

theorem readsAs_eq (h : s.tag = none) (tag : Text) : s.readsAs tag = (s.style == .plain) := by
  rw [readsAs, h, show (none == some tag) = false from rfl, Bool.and_false, Bool.or_false]

end Scalar

end LayoutCheck.Yaml
