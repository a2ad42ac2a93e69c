import LayoutCheck.Yaml.Token

/-! # From texts to tokens

Indentation opens and closes block collections. A node that may turn out to be a key is
remembered until the colon after it is found; the key token then goes in front of it. Such a key
lies on one line and spans at most 1024 bytes. -/

namespace LayoutCheck.Yaml

/-- A node that may be a key. `position` is the number of tokens before it; a required key
stands where nothing else can. -/
structure KeyCandidate where
  required : Bool
  position : Nat
  mark : Mark
  deriving DecidableEq, Repr

/-- `candidates` has one place for the block context and one for each open flow
collection, innermost first. -/
structure Lexer where
  cursor : Cursor
  tokens : Array Token
  flowLevel : Nat
  indent : Int
  indents : List Int
  keyAllowed : Bool
  candidates : List (Option KeyCandidate)

namespace Lexer

def start (t : Text) : Lexer :=
  ⟨.ofText t, #[], 0, -1, [], true, [none]⟩

def inFlow (s : Lexer) : Bool := s.flowLevel > 0

def push (s : Lexer) (kind : TokenKind) (start stop : Mark) : Lexer :=
  { s with tokens := s.tokens.push ⟨kind, start, stop⟩ }

def insert (s : Lexer) (position : Nat) (kind : TokenKind) (m : Mark) : Lexer :=
  { s with tokens := s.tokens.insertIdxIfInBounds position ⟨kind, m, m⟩ }

def setCandidate (s : Lexer) (k : Option KeyCandidate) : Lexer :=
  { s with candidates := k :: s.candidates.drop 1 }

def dropCandidate (s : Lexer) : Option Lexer :=
  match s.candidates.head? with
  | some (some k) => if k.required then none else some (s.setCandidate none)
  | _ => some s

def saveCandidate (s : Lexer) : Option Lexer := do
  if !s.keyAllowed then return s
  let k : KeyCandidate :=
    { required := !s.inFlow && s.indent == (s.cursor.mark.column : Int)
      position := s.tokens.size
      mark := s.cursor.mark }
  return (← s.dropCandidate).setCandidate (some k)

def isStale (now : Mark) (k : KeyCandidate) : Bool :=
  k.mark.line < now.line || k.mark.index + 1024 < now.index

def dropStale (s : Lexer) : Option Lexer := do
  let kept ← s.candidates.mapM fun k? =>
    match k? with
    | some k =>
      if isStale s.cursor.mark k then if k.required then none else some none else some (some k)
    | none => some none
  return { s with candidates := kept }

def unroll (column : Int) (s : Lexer) : Lexer :=
  if s.inFlow then s
  else
    let m := s.cursor.mark
    let rec go : List Int → Int → Array Token → Lexer
      | [], indent, tokens => { s with indent := indent, indents := [], tokens := tokens }
      | outer :: more, indent, tokens =>
        if indent > column then go more outer (tokens.push ⟨.blockEnd, m, m⟩)
        else { s with indent := indent, indents := outer :: more, tokens := tokens }
    go s.indents s.indent s.tokens

def roll (s : Lexer) (column : Nat) (position : Option Nat) (kind : TokenKind) (m : Mark) :
    Lexer :=
  if !s.inFlow && s.indent < (column : Int) then
    let s := { s with indents := s.indent :: s.indents, indent := column }
    match position with
    | some p => s.insert p kind m
    | none => s.push kind m m
  else s

/-- Passes blanks, comments and line breaks up to the next token. A tab does not count
where a key may start. -/
def toNextToken : Nat → Lexer → Lexer
  | 0, s => s
  | fuel + 1, s =>
    let c := s.cursor
    let c := if c.mark.column == 0 && c.looksAt '\uFEFF' then c.skip else c
    let tabs := s.inFlow || !s.keyAllowed
    let c := (c.skipWhile fun x => x == ' ' || (tabs && x == '\t')).skipComment
    if c.onBreak then
      toNextToken fuel { s with cursor := c.skipBreak, keyAllowed := s.keyAllowed || !s.inFlow }
    else { s with cursor := c }

def indicator (s : Lexer) (width : Nat) (kind : TokenKind) : Lexer :=
  let c := s.cursor.skipN width
  { s.push kind s.cursor.mark c.mark with cursor := c }

def streamEnd (s : Lexer) : Option Lexer := do
  let m := s.cursor.mark
  let m : Mark := if m.column = 0 then m else ⟨m.index, m.line + 1, 0⟩
  let s := { s with cursor := ⟨s.cursor.rest, m⟩ }
  let s ← (s.unroll (-1)).dropCandidate
  return { s.push .streamEnd m m with keyAllowed := false }

def directive (s : Lexer) : Option Lexer := do
  let s ← (s.unroll (-1)).dropCandidate
  let (kind, stop, c) ← Directive.scan s.cursor
  return { s.push kind s.cursor.mark stop with cursor := c, keyAllowed := false }

def documentMark (s : Lexer) (kind : TokenKind) : Option Lexer := do
  let s ← (s.unroll (-1)).dropCandidate
  return { s with keyAllowed := false }.indicator 3 kind

def flowStart (s : Lexer) (kind : TokenKind) : Option Lexer := do
  let s ← s.saveCandidate
  let s := { s with
    candidates := none :: s.candidates, flowLevel := s.flowLevel + 1, keyAllowed := true }
  return s.indicator 1 kind

def flowEnd (s : Lexer) (kind : TokenKind) : Option Lexer := do
  let s ← s.dropCandidate
  let s := if s.inFlow then
      { s with candidates := s.candidates.drop 1, flowLevel := s.flowLevel - 1 }
    else s
  return { s with keyAllowed := false }.indicator 1 kind

def flowEntry (s : Lexer) : Option Lexer := do
  let s ← s.dropCandidate
  return { s with keyAllowed := true }.indicator 1 .flowEntry

def blockEntry (s : Lexer) : Option Lexer := do
  if !s.inFlow && !s.keyAllowed then none
  let s := s.roll s.cursor.mark.column none .blockSequenceStart s.cursor.mark
  let s ← s.dropCandidate
  return { s with keyAllowed := true }.indicator 1 .blockEntry

def explicitKey (s : Lexer) : Option Lexer := do
  if !s.inFlow && !s.keyAllowed then none
  let s := s.roll s.cursor.mark.column none .blockMappingStart s.cursor.mark
  let s ← s.dropCandidate
  return { s with keyAllowed := !s.inFlow }.indicator 1 .key

/-- A colon makes the candidate before it a key; without one it follows an explicit key. -/
def value (s : Lexer) : Option Lexer := do
  match s.candidates.head? with
  | some (some k) =>
    let s := s.insert k.position .key k.mark
    let s := s.roll k.mark.column (some k.position) .blockMappingStart k.mark
    return { s.setCandidate none with keyAllowed := false }.indicator 1 .value
  | _ =>
    if !s.inFlow && !s.keyAllowed then none
    let s := s.roll s.cursor.mark.column none .blockMappingStart s.cursor.mark
    return { s with keyAllowed := !s.inFlow }.indicator 1 .value

def property (s : Lexer) (isAlias : Bool) : Option Lexer := do
  let s ← s.saveCandidate
  let (n, c) ← Property.name s.cursor
  let kind : TokenKind := if isAlias then .alias n else .anchor n
  return { s.push kind s.cursor.mark c.mark with cursor := c, keyAllowed := false }

def tag (s : Lexer) : Option Lexer := do
  let s ← s.saveCandidate
  let (h, t, c) ← Property.tag s.inFlow s.cursor
  return { s.push (.tag h t) s.cursor.mark c.mark with cursor := c, keyAllowed := false }

def blockScalar (s : Lexer) (literal : Bool) : Option Lexer := do
  let s ← s.dropCandidate
  let (t, c) ← Block.scan literal s.indent s.cursor
  let style : ScalarStyle := if literal then .literal else .folded
  return { s.push (.scalar t style) s.cursor.mark c.mark with cursor := c, keyAllowed := true }

def quotedScalar (s : Lexer) (quote : Char) (style : ScalarStyle) : Option Lexer := do
  let s ← s.saveCandidate
  let (t, c) ← Quoted.scan quote s.cursor
  return { s.push (.scalar t style) s.cursor.mark c.mark with cursor := c, keyAllowed := false }

def plainScalar (s : Lexer) : Option Lexer := do
  let s ← s.saveCandidate
  let r ← Plain.scan s.inFlow (s.indent + 1).toNat s.cursor
  return { s.push (.scalar r.text .plain) s.cursor.mark r.stop with
    cursor := r.next, keyAllowed := r.broken }

def isIndicator (c : Char) : Bool := "-?:,[]\x7b\x7d#&*!|>'\"%@`".toList.contains c

def onPlain (s : Lexer) : Bool :=
  let c := s.cursor
  (!c.gapAt 0 && !c.testAt 0 isIndicator)
    || (c.looksAt '-' && !c.testAt 1 isSpaceOrTab)
    || (!s.inFlow && (c.looksAt '?' || c.looksAt ':') && !c.gapAt 1)

def dispatch (s : Lexer) : Option Lexer :=
  let c := s.cursor
  if c.mark.column == 0 && c.looksAt '%' then s.directive
  else if c.onDocumentMark '-' then s.documentMark .documentStart
  else if c.onDocumentMark '.' then s.documentMark .documentEnd
  else match c.peek? with
    | none => s.streamEnd
    | some x =>
      if x == '[' then s.flowStart .flowSequenceStart
      else if x == '\x7b' then s.flowStart .flowMappingStart
      else if x == ']' then s.flowEnd .flowSequenceEnd
      else if x == '\x7d' then s.flowEnd .flowMappingEnd
      else if x == ',' then s.flowEntry
      else if x == '-' && c.gapAt 1 then s.blockEntry
      else if x == '?' && (s.inFlow || c.gapAt 1) then s.explicitKey
      else if x == ':' && (s.inFlow || c.gapAt 1) then s.value
      else if x == '*' then s.property true
      else if x == '&' then s.property false
      else if x == '!' then s.tag
      else if x == '|' && !s.inFlow then s.blockScalar true
      else if x == '>' && !s.inFlow then s.blockScalar false
      else if x == '\'' then s.quotedScalar '\'' .singleQuoted
      else if x == '"' then s.quotedScalar '"' .doubleQuoted
      else if s.onPlain then s.plainScalar
      else none

def next (s : Lexer) : Option Lexer := do
  let s ← (s.toNextToken (s.cursor.rest.length + 1)).dropStale
  (s.unroll s.cursor.mark.column).dispatch

/-- Reads tokens to the end of the stream, or as far as they can be read. The flag tells
which. -/
def run : Nat → Lexer → List Token × Bool
  | 0, s => (s.tokens.toList, false)
  | fuel + 1, s =>
    match s.next with
    | none => (s.tokens.toList, false)
    | some s' => if s'.tokens.back?.any (·.kind == .streamEnd) then (s'.tokens.toList, true)
      else run fuel s'

end Lexer

/-- The tokens of a text. A text with a character that no document may hold has none. -/
def tokenize (t : Text) : List Token × Bool :=
  if t.all isPermitted then Lexer.run (t.length + 2) (Lexer.start t) else ([], false)

end LayoutCheck.Yaml
