import LayoutCheck.Yaml.Lexer
import LayoutCheck.Yaml.Token

/-! # From tokens to documents

A machine with a stack of goals turns tokens into events. Each step looks at the first tokens,
emits one event and sets the next goal; absent nodes are emitted as empty plain scalars. The first
document of a stream is a flat list of located items. A document that breaks off keeps the items
before the break. Aliases are replaced by the item they name. -/

namespace LayoutCheck.Yaml

structure Properties where
  anchor : Option Text
  tag : Option Text
  deriving DecidableEq, Repr

namespace Properties

def none : Properties := ⟨.none, .none⟩

def isEmpty (p : Properties) : Bool := p.anchor.isNone && p.tag.isNone

end Properties

structure Scalar where
  tag : Option Text
  text : Text
  style : ScalarStyle
  deriving DecidableEq, Repr

namespace Scalar

def empty : Scalar := ⟨none, [], .plain⟩

end Scalar

inductive Event where
  | streamEnd
  | documentStart
  | documentEnd
  | alias (name : Text)
  | scalar (anchor : Option Text) (value : Scalar)
  | sequenceStart (properties : Properties)
  | sequenceEnd
  | mappingStart (properties : Properties)
  | mappingEnd
  deriving DecidableEq, Repr

inductive Goal where
  | firstDocument
  | nextDocument
  | documentContent
  | documentEnd
  | blockNode
  | blockSequenceFirst
  | blockSequenceEntry
  | indentlessSequenceEntry
  | blockMappingFirst
  | blockMappingKey
  | blockMappingValue
  | flowSequenceFirst
  | flowSequenceEntry
  | flowPairKey
  | flowPairValue
  | flowPairEnd
  | flowMappingFirst
  | flowMappingKey
  | flowMappingValue
  | flowMappingEmptyValue
  | finished
  deriving DecidableEq, Repr

abbrev Handles := List (Text × Text)

def defaultHandles : Handles :=
  [(['!'], ['!']), (['!', '!'], "tag:yaml.org,2002:".toList)]

structure Grammar where
  tokens : List Token
  goal : Goal
  stack : List Goal
  handles : Handles

namespace Grammar

abbrev Step := Option (Event × Mark × Grammar)

def start (tokens : List Token) : Grammar := ⟨tokens, .firstDocument, [], []⟩

def skip (g : Grammar) : Grammar := { g with tokens := g.tokens.drop 1 }

def goTo (g : Grammar) (goal : Goal) : Grammar := { g with goal := goal }

def push (g : Grammar) (goal : Goal) : Grammar := { g with stack := goal :: g.stack }

def pop (g : Grammar) : Grammar :=
  match g.stack with
  | [] => { g with goal := .finished }
  | goal :: rest => { g with goal := goal, stack := rest }

def emptyScalar (g : Grammar) (goal : Goal) (m : Mark) : Step :=
  some (.scalar none .empty, m, g.goTo goal)

structure Prelude where
  anchor : Option Text
  tag : Option (Text × Text)
  start : Mark

def takePrelude (g : Grammar) : Option (Prelude × Grammar) :=
  match g.tokens with
  | ⟨.anchor a, m, _⟩ :: ⟨.tag h s, _, _⟩ :: rest =>
    some (⟨some a, some (h, s), m⟩, { g with tokens := rest })
  | ⟨.anchor a, m, _⟩ :: rest => some (⟨some a, none, m⟩, { g with tokens := rest })
  | ⟨.tag h s, m, _⟩ :: ⟨.anchor a, _, _⟩ :: rest =>
    some (⟨some a, some (h, s), m⟩, { g with tokens := rest })
  | ⟨.tag h s, m, _⟩ :: rest => some (⟨none, some (h, s), m⟩, { g with tokens := rest })
  | t :: _ => some (⟨none, none, t.start⟩, g)
  | [] => none

def resolveTag (handles : Handles) : Option (Text × Text) → Option (Option Text)
  | none => some none
  | some ([], suffix) => some (some suffix)
  | some (h, suffix) => (handles.lookup h).map fun expansion => some (expansion ++ suffix)

/-- A node. A block sequence may go without indentation of its own below a key. -/
def node (block indentless : Bool) (g : Grammar) : Step :=
  match g.tokens with
  | ⟨.alias n, m, _⟩ :: _ => some (.alias n, m, g.skip.pop)
  | _ => do
    let (p, g) ← g.takePrelude
    let tag ← resolveTag g.handles p.tag
    let props : Properties := ⟨p.anchor, tag⟩
    let t ← g.tokens.head?
    match t.kind with
    | .scalar text style =>
      let tag := if tag == some ['!'] then none else tag
      return (.scalar p.anchor ⟨tag, text, style⟩, p.start, g.skip.pop)
    | .flowSequenceStart => return (.sequenceStart props, p.start, g.goTo .flowSequenceFirst)
    | .flowMappingStart => return (.mappingStart props, p.start, g.goTo .flowMappingFirst)
    | kind =>
      if indentless && kind == .blockEntry then
        return (.sequenceStart props, p.start, g.goTo .indentlessSequenceEntry)
      else if block && kind == .blockSequenceStart then
        return (.sequenceStart props, p.start, g.goTo .blockSequenceFirst)
      else if block && kind == .blockMappingStart then
        return (.mappingStart props, p.start, g.goTo .blockMappingFirst)
      else if props.isEmpty then none
      else return (.scalar p.anchor ⟨tag, [], .plain⟩, p.start, g.pop)

def isDirective : TokenKind → Bool
  | .versionDirective _ _ => true
  | .tagDirective _ _ => true
  | _ => false

/-- Reads directives: at most one version, which must be 1.1 or 1.2, and each handle once.
-/
def directives (seenVersion : Bool) (handles : Handles) : List Token → Option (Handles × List Token)
  | ⟨.versionDirective major minor, _, _⟩ :: rest =>
    if seenVersion || major != 1 || !(minor == 1 || minor == 2) then none
    else directives true handles rest
  | ⟨.tagDirective h expansion, _, _⟩ :: rest =>
    if (handles.lookup h).isSome then none
    else directives seenVersion (handles ++ [(h, expansion)]) rest
  | rest => some (handles ++ defaultHandles, rest)

/-- A document start. Only the first document may do without its marker. -/
def document (implicit : Bool) (g : Grammar) : Step := do
  let tokens := if implicit then g.tokens else g.tokens.dropWhile (·.kind == .documentEnd)
  let t ← tokens.head?
  if t.kind == .streamEnd then
    return (.streamEnd, t.start, { g with tokens := tokens }.goTo .finished)
  if implicit && !isDirective t.kind && t.kind != .documentStart then
    return (.documentStart, t.start,
      { g with tokens := tokens, handles := defaultHandles }.push .documentEnd |>.goTo .blockNode)
  let (handles, tokens) ← directives false [] tokens
  let u ← tokens.head?
  if u.kind != .documentStart then none
  return (.documentStart, t.start,
    { g with tokens := tokens.drop 1, handles := handles }.push .documentEnd
      |>.goTo .documentContent)

def documentContent (g : Grammar) : Step := do
  let t ← g.tokens.head?
  if isDirective t.kind || t.kind == .documentStart || t.kind == .documentEnd
      || t.kind == .streamEnd then
    return (.scalar none .empty, t.start, g.pop)
  node true false g

def documentEnd (g : Grammar) : Step := do
  let t ← g.tokens.head?
  let g := if t.kind == .documentEnd then g.skip else g
  return (.documentEnd, t.start, { g with handles := [] }.goTo .nextDocument)

/-- The entry after a dash, or an empty scalar when one of `ends` follows. -/
def afterDash (g : Grammar) (dash : Token) (ends : TokenKind → Bool) (goal : Goal) : Step := do
  let g := g.skip
  let t ← g.tokens.head?
  if ends t.kind then emptyScalar g goal dash.stop else node true false (g.push goal)

def blockSequenceEntry (g : Grammar) : Step := do
  let t ← g.tokens.head?
  match t.kind with
  | .blockEntry =>
    afterDash g t (fun k => k == .blockEntry || k == .blockEnd) .blockSequenceEntry
  | .blockEnd => return (.sequenceEnd, t.start, g.skip.pop)
  | _ => none

def indentlessSequenceEntry (g : Grammar) : Step := do
  let t ← g.tokens.head?
  match t.kind with
  | .blockEntry =>
    afterDash g t
      (fun k => k == .blockEntry || k == .key || k == .value || k == .blockEnd)
      .indentlessSequenceEntry
  | _ => return (.sequenceEnd, t.start, g.pop)

def afterMappingIndicator (g : Grammar) (at_ : Token) (goal : Goal) : Step := do
  let g := g.skip
  let t ← g.tokens.head?
  if t.kind == .key || t.kind == .value || t.kind == .blockEnd then
    emptyScalar g goal at_.stop
  else node true true (g.push goal)

def blockMappingKey (g : Grammar) : Step := do
  let t ← g.tokens.head?
  match t.kind with
  | .key => afterMappingIndicator g t .blockMappingValue
  | .blockEnd => return (.mappingEnd, t.start, g.skip.pop)
  | _ => none

def blockMappingValue (g : Grammar) : Step := do
  let t ← g.tokens.head?
  match t.kind with
  | .value => afterMappingIndicator g t .blockMappingKey
  | _ => emptyScalar g .blockMappingKey t.start

def comma (first : Bool) (g : Grammar) : Option Grammar := do
  if first then return g
  let t ← g.tokens.head?
  if t.kind == .flowEntry then return g.skip
  none

def flowSequenceEntry (first : Bool) (g : Grammar) : Step := do
  let t ← g.tokens.head?
  if t.kind == .flowSequenceEnd then return (.sequenceEnd, t.start, g.skip.pop)
  let g ← comma first g
  let t ← g.tokens.head?
  if t.kind == .key then return (.mappingStart .none, t.start, g.skip.goTo .flowPairKey)
  if t.kind == .flowSequenceEnd then return (.sequenceEnd, t.start, g.skip.pop)
  node false false (g.push .flowSequenceEntry)

def flowPairKey (g : Grammar) : Step := do
  let t ← g.tokens.head?
  if t.kind == .value || t.kind == .flowEntry || t.kind == .flowSequenceEnd then
    emptyScalar g.skip .flowPairValue t.stop
  else node false false (g.push .flowPairValue)

def flowPairValue (g : Grammar) : Step := do
  let t ← g.tokens.head?
  if t.kind == .value then
    let g := g.skip
    let u ← g.tokens.head?
    if u.kind == .flowEntry || u.kind == .flowSequenceEnd then
      emptyScalar g .flowPairEnd u.start
    else node false false (g.push .flowPairEnd)
  else emptyScalar g .flowPairEnd t.start

def flowPairEnd (g : Grammar) : Step := do
  let t ← g.tokens.head?
  return (.mappingEnd, t.start, g.goTo .flowSequenceEntry)

def flowMappingKey (first : Bool) (g : Grammar) : Step := do
  let t ← g.tokens.head?
  if t.kind == .flowMappingEnd then return (.mappingEnd, t.start, g.skip.pop)
  let g ← comma first g
  let t ← g.tokens.head?
  if t.kind == .key then
    let g := g.skip
    let u ← g.tokens.head?
    if u.kind == .value || u.kind == .flowEntry || u.kind == .flowMappingEnd then
      emptyScalar g .flowMappingValue u.start
    else node false false (g.push .flowMappingValue)
  else if t.kind == .flowMappingEnd then return (.mappingEnd, t.start, g.skip.pop)
  else node false false (g.push .flowMappingEmptyValue)

def flowMappingValue (g : Grammar) : Step := do
  let t ← g.tokens.head?
  if t.kind == .value then
    let g := g.skip
    let u ← g.tokens.head?
    if u.kind == .flowEntry || u.kind == .flowMappingEnd then
      emptyScalar g .flowMappingKey u.start
    else node false false (g.push .flowMappingKey)
  else emptyScalar g .flowMappingKey t.start

def flowMappingEmptyValue (g : Grammar) : Step := do
  let t ← g.tokens.head?
  emptyScalar g .flowMappingKey t.start

def step (g : Grammar) : Step :=
  match g.goal with
  | .firstDocument => document true g
  | .nextDocument => document false g
  | .documentContent => documentContent g
  | .documentEnd => documentEnd g
  | .blockNode => node true false g
  | .blockSequenceFirst => blockSequenceEntry g.skip
  | .blockSequenceEntry => blockSequenceEntry g
  | .indentlessSequenceEntry => indentlessSequenceEntry g
  | .blockMappingFirst => blockMappingKey g.skip
  | .blockMappingKey => blockMappingKey g
  | .blockMappingValue => blockMappingValue g
  | .flowSequenceFirst => flowSequenceEntry true g.skip
  | .flowSequenceEntry => flowSequenceEntry false g
  | .flowPairKey => flowPairKey g
  | .flowPairValue => flowPairValue g
  | .flowPairEnd => flowPairEnd g
  | .flowMappingFirst => flowMappingKey true g.skip
  | .flowMappingKey => flowMappingKey false g
  | .flowMappingValue => flowMappingValue g
  | .flowMappingEmptyValue => flowMappingEmptyValue g
  | .finished => none

/-- Events up to the end of the stream, or as far as they can be read. The flag tells
which. -/
def run : Nat → Grammar → List (Event × Mark) → List (Event × Mark) × Bool
  | 0, _, acc => (acc.reverse, false)
  | fuel + 1, g, acc =>
    match g.step with
    | none => (acc.reverse, false)
    | some (.streamEnd, m, _) => (((.streamEnd, m) :: acc).reverse, true)
    | some (e, m, g') => run fuel g' ((e, m) :: acc)

end Grammar

def eventsOf (tokens : List Token) : List (Event × Mark) × Bool :=
  Grammar.run (8 * tokens.length + 16) (.start tokens) []

inductive Item where
  | scalar (value : Scalar)
  | sequenceStart
  | sequenceEnd
  | mappingStart
  | mappingEnd
  deriving DecidableEq, Repr

/-- An item with its place. An aliased item has the place of the node that it names. -/
structure Located where
  item : Item
  mark : Mark
  aliased : Bool
  deriving DecidableEq, Repr

/-- `intact` fails when the text stops being a document before its end; `alone` fails when
something follows the first document. -/
structure Document where
  items : List Located
  intact : Bool
  alone : Bool
  deriving DecidableEq, Repr

namespace Document

def isWellFormed (d : Document) : Bool := d.intact && d.alone

/-- Anchor names with their numbers, and the item that each number stands for. A name that
is given again takes the number that the next new name would get. -/
structure Anchors where
  numbers : List (Text × Nat)
  targets : List (Nat × Nat)

namespace Anchors

def none : Anchors := ⟨[], []⟩

def bind (a : Anchors) (name : Option Text) (item : Nat) : Anchors :=
  match name with
  | .none => a
  | some n =>
    let number := a.numbers.length
    { numbers := (n, number) :: a.numbers.filter (·.1 != n)
      targets := (number, item) :: a.targets }

end Anchors

/-- An item, or the number of the anchor that an alias names. -/
abbrev Draft := (Item ⊕ Nat) × Mark

structure Gathered where
  drafts : List Draft
  anchors : Anchors
  intact : Bool
  after : List (Event × Mark)

def gather : List (Event × Mark) → Anchors → Nat → Gathered
  | [], a, _ => ⟨[], a, false, []⟩
  | (e, m) :: rest, a, count =>
    let put (x : Item) (a : Anchors) : Gathered :=
      let r := gather rest a (count + 1)
      { r with drafts := (.inl x, m) :: r.drafts }
    match e with
    | .streamEnd => ⟨[], a, true, [(e, m)]⟩
    | .documentStart => gather rest a count
    | .documentEnd => ⟨[], a, true, rest⟩
    | .alias n =>
      match a.numbers.lookup n with
      | none => ⟨[], a, false, []⟩
      | some k =>
        let r := gather rest a (count + 1)
        { r with drafts := (.inr k, m) :: r.drafts }
    | .scalar anchor s => put (.scalar s) (a.bind anchor count)
    | .sequenceStart p => put .sequenceStart (a.bind p.anchor count)
    | .sequenceEnd => put .sequenceEnd a
    | .mappingStart p => put .mappingStart (a.bind p.anchor count)
    | .mappingEnd => put .mappingEnd a

def settle (drafts : List Draft) (targets : List (Nat × Nat)) : Draft → Option Located
  | (.inl x, m) => some ⟨x, m, false⟩
  | (.inr k, _) =>
    match (targets.lookup k).bind (drafts[·]?) with
    | some (.inl x, m) => some ⟨x, m, true⟩
    | _ => none

def ofEvents (events : List (Event × Mark)) : Document :=
  let g := gather events .none 0
  { items := g.drafts.filterMap (settle g.drafts g.anchors.targets)
    intact := g.intact
    alone := g.after.all (·.1 == .streamEnd) && !g.after.isEmpty }

def ofText (t : Text) : Document := ofEvents (eventsOf (tokenize t).1).1

end Document

end LayoutCheck.Yaml
