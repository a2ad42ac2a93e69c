import LayoutCheck.Host.Script

/-! # Reading scripts

A script is read line by line: the statements of a line are read together, and run before anything
below is looked at. -/

namespace LayoutCheck

namespace Script

structure Mistake where
  line : Nat
  words : Octets
  deriving DecidableEq, Repr

/-- What is left, and the line where it starts. `below` counts lines that have been taken from
below the current one. -/
structure Input where
  rest : Octets
  line : Nat
  below : Nat

abbrev Read := StateT Input (Except Mistake)

def peek : Read Octets := do return (← get).rest

def complain {α : Type} (words : Octets) : Read α := do
  throw ⟨(← get).line, "Syntax error: ".toList ++ words⟩

def advance (n : Nat) : Read Unit :=
  modify fun i =>
    let passed := (i.rest.take n).count '\n'
    if passed = 0 then { i with rest := i.rest.drop n }
    else ⟨i.rest.drop n, i.line + passed + i.below, 0⟩

def isMeta (c : Char) : Bool := " \t\n;&|<>()".toList.contains c

def isNameStart (c : Char) : Bool := c.isAlpha || c == '_'

def isNameByte (c : Char) : Bool := c.isAlphanum || c == '_'

def blankLength : Octets → Nat
  | ' ' :: r => 1 + blankLength r
  | '\t' :: r => 1 + blankLength r
  | '\\' :: '\n' :: r => 2 + blankLength r
  | '#' :: r => 1 + (r.takeWhile (· != '\n')).length
  | _ => 0

def skipBlank : Read Unit := do advance (blankLength (← peek))

def skipLines : Nat → Read Unit
  | 0 => pure ()
  | fuel + 1 => do
    skipBlank
    match ← peek with
    | '\n' :: _ => do advance 1; skipLines fuel
    | _ => pure ()

def keywords : List Octets :=
  ["if", "then", "elif", "else", "fi", "for", "while", "until", "do", "done", "case", "esac", "in",
    "\x7b", "\x7d", "!"].map String.toList

def reserved? (t : Octets) : Option Octets :=
  let word := t.takeWhile fun c => !isMeta c
  if keywords.contains word then some word else none

def isReserved (t : Octets) (word : String) : Bool := reserved? t == some word.toList

def found (t : Octets) : Octets :=
  match t with
  | [] => "end of file".toList
  | '\n' :: _ => "newline".toList
  | ';' :: ';' :: _ => "\x22;;\x22".toList
  | '&' :: '&' :: _ => "\x22&&\x22".toList
  | '|' :: '|' :: _ => "\x22||\x22".toList
  | '<' :: _ | '>' :: _ => "redirection".toList
  | c :: _ =>
    if isMeta c then ['\x22', c, '\x22']
    else
      match reserved? t with
      | some w => '\x22' :: w ++ ['\x22']
      | none => "word".toList

def unexpected {α : Type} : Read α := do
  let t ← peek
  if t.head? = some '\n' then advance 1
  complain (found t ++ " unexpected".toList)

def expectingKind {α : Type} (kind : Octets) : Read α := do
  let t ← peek
  if t.head? = some '\n' then advance 1
  complain (found t ++ " unexpected (expecting ".toList ++ kind ++ [')'])

def expecting {α : Type} (word : String) : Read α :=
  expectingKind ('\x22' :: word.toList ++ ['\x22'])

def expectReserved (word : String) : Read Unit := do
  if isReserved (← peek) word then advance word.length else expecting word

def expectClosing : Read Unit := do
  match ← peek with
  | ')' :: _ => advance 1
  | _ => expecting ")"

def expectPlainClosing : Read Unit := do
  if (reserved? (← peek)).isSome then complain "word unexpected (expecting \x22)\x22)".toList
  else expectClosing

def skipToken : Read Unit := do
  match ← peek with
  | ';' :: ';' :: _ | '&' :: '&' :: _ | '|' :: '|' :: _ => advance 2
  | t => advance (max 1 (t.takeWhile fun c => !isMeta c).length)

def singleQuoted : Read Octets := do
  let t ← peek
  let body := t.takeWhile (· != '\x27')
  advance (body.length + 1)
  if body.length = t.length then complain "Unterminated quoted string".toList else return body

def backquoted (inQuotes : Bool) : Octets → Option (Octets × Nat)
  | [] => none
  | '\x60' :: _ => some ([], 1)
  | '\\' :: c :: r =>
    (backquoted inQuotes r).map fun (t, n) =>
      if c = '\x60' || c = '\\' || c = '$' || (inQuotes && c = '\x22') then (c :: t, n + 2)
      else ('\\' :: c :: t, n + 2)
  | c :: r => (backquoted inQuotes r).map fun (t, n) => (c :: t, n + 1)

def consPiece : Piece → List Piece → List Piece
  | .bare a, .bare b :: r => .bare (a ++ b) :: r
  | .fixed a, .fixed b :: r => .fixed (a ++ b) :: r
  | p, r => p :: r

def parameterName (t : Octets) : Octets :=
  match t with
  | c :: _ =>
    if isNameStart c then t.takeWhile isNameByte
    else if c.isDigit then t.takeWhile Char.isDigit
    else if "@*#?$!-".toList.contains c then [c] else []
  | [] => []

def hereBody (delimiter : Octets) (stripTabs : Bool) : List (Octets × Bool) → Octets × Octets
  | [] => ([], [])
  | l :: ls =>
    let text := if stripTabs then l.1.dropWhile (· == '\t') else l.1
    if text = delimiter then ([], ls.flatMap Octets.ofLine)
    else
      let (body, rest) := hereBody delimiter stripTabs ls
      (Octets.ofLine (text, l.2) ++ body, rest)

def endsList (t : Octets) : Bool :=
  match t with
  | [] => true
  | ')' :: _ => true
  | ';' :: ';' :: _ => true
  | _ =>
    match reserved? t with
    | some w => ["then", "elif", "else", "fi", "do", "done", "esac", "\x7d"].contains (String.ofList w)
    | none => false

/-- The name of a function, if a word can be one. Some commands cannot be replaced. -/
def functionName? : List Piece → Option Octets
  | [.bare name] =>
    let taken := [":", ".", "break", "continue", "eval", "exec", "exit", "export", "local", "readonly",
      "return", "set", "shift", "times", "trap", "unset"]
    if name.all isNameByte ∧ (name.head?.map isNameStart).getD false
        ∧ !taken.contains (String.ofList name) then some name
    else none
  | _ => none

/-- The pieces of a text between double quotes. It makes a field even if it is empty, but not
if it stands for all arguments. -/
def quotedPieces : List Piece → List Piece
  | [.parameter true ['@'] change] => [.parameter true ['@'] change]
  | ps => consPiece (.fixed []) ps

def assignmentHead? (t : Octets) : Option Octets :=
  let name := t.takeWhile isNameByte
  match name, t.drop name.length with
  | c :: _, '=' :: _ => if isNameStart c then some name else none
  | _, _ => none

def redirectionHead? (t : Octets) : Option (Option Nat × Octets) :=
  let digits := (t.take 1).takeWhile Char.isDigit
  match t.drop digits.length with
  | '<' :: r => some (Octets.nat? digits, '<' :: r)
  | '>' :: r => some (Octets.nat? digits, '>' :: r)
  | _ => none

mutual

def readDollar : Nat → Bool → Read Piece
  | 0, _ => unexpected
  | fuel + 1, quoted => do
    match ← peek with
    | '(' :: '(' :: _ =>
      advance 2
      let pieces ← readSum fuel 0
      return .sum quoted pieces
    | '(' :: _ =>
      advance 1
      let body ← readList fuel true
      expectClosing
      return .output quoted body
    | '\x7b' :: '#' :: c :: rest =>
      let name := parameterName (c :: rest)
      if c = '\x7d' then do advance 3; return .parameter quoted ['#'] .keep
      else if name ≠ [] ∧ (rest.drop (name.length - 1)).head? = some '\x7d' then do
        advance (name.length + 3)
        return .parameter quoted name .length
      else do
        advance 2
        readChange fuel quoted (if name = [] then ['#'] else [])
    | '\x7b' :: r =>
      let name := parameterName r
      advance (1 + name.length)
      readChange fuel quoted name
    | t =>
      let name := match t with
        | c :: _ => if c.isDigit then [c] else parameterName t
        | [] => []
      if name = [] then return if quoted then .fixed ['$'] else .bare ['$']
      else do advance name.length; return .parameter quoted name .keep

/-- What follows the name inside braces. A newline where nothing can follow is not counted. -/
def readChange : Nat → Bool → Octets → Read Piece
  | 0, _, _ => unexpected
  | fuel + 1, quoted, name => do
    let finish (n : Nat) (f : List Piece → Change) : Read Piece := do
      advance n
      let word ← readBraced fuel quoted
      return .parameter quoted name (f word)
    let meaningless : Read Piece := do
      if (← peek).head? = some '\n' then modify fun i => { i with rest := i.rest.drop 1 }
      finish 0 fun _ => .meaningless
    if name = [] then meaningless
    else
    match ← peek with
    | '\x7d' :: _ => do advance 1; return .parameter quoted name .keep
    | ':' :: '-' :: _ => finish 2 (.orElse true)
    | ':' :: '=' :: _ => finish 2 (.assign true)
    | ':' :: '+' :: _ => finish 2 (.instead true)
    | ':' :: '?' :: _ => finish 2 (.demand true)
    | '-' :: _ => finish 1 (.orElse false)
    | '=' :: _ => finish 1 (.assign false)
    | '+' :: _ => finish 1 (.instead false)
    | '?' :: _ => finish 1 (.demand false)
    | '%' :: '%' :: _ => finish 2 (.trim true true)
    | '%' :: _ => finish 1 (.trim true false)
    | '#' :: '#' :: _ => finish 2 (.trim false true)
    | '#' :: _ => finish 1 (.trim false false)
    | _ => meaningless

def readBraced : Nat → Bool → Read (List Piece)
  | 0, _ => unexpected
  | fuel + 1, quoted => do
    match ← peek with
    | [] =>
      complain (if quoted then "Unterminated quoted string" else "Missing \x27\x7d\x27").toList
    | '\x7d' :: _ => do advance 1; return []
    | c :: r =>
      let ps ← readPieces fuel c r
      return ps.foldr consPiece (← readBraced fuel quoted)

def readSum : Nat → Nat → Read (List Piece)
  | 0, _ => unexpected
  | fuel + 1, depth => do
    match ← peek with
    | [] => complain "Missing \x27))\x27".toList
    | ')' :: ')' :: _ =>
      if depth = 0 then do advance 2; return []
      else do advance 1; return consPiece (.fixed [')']) (← readSum fuel (depth - 1))
    | ')' :: _ => do advance 1; return consPiece (.fixed [')']) (← readSum fuel (depth - 1))
    | '(' :: _ => do advance 1; return consPiece (.fixed ['(']) (← readSum fuel (depth + 1))
    | '$' :: _ =>
      advance 1
      let p ← readDollar fuel true
      return consPiece p (← readSum fuel depth)
    | c :: _ => do advance 1; return consPiece (.fixed [c]) (← readSum fuel depth)

def readQuoted : Nat → Read (List Piece)
  | 0 => unexpected
  | fuel + 1 => do
    match ← peek with
    | [] => complain "Unterminated quoted string".toList
    | '\x22' :: _ => do advance 1; return []
    | '\\' :: '\n' :: _ => do advance 2; readQuoted fuel
    | '\\' :: c :: _ =>
      advance 2
      let t := if c = '$' || c = '\x60' || c = '\x22' || c = '\\' then [c] else ['\\', c]
      return consPiece (.fixed t) (← readQuoted fuel)
    | '$' :: _ =>
      advance 1
      let p ← readDollar fuel true
      return consPiece p (← readQuoted fuel)
    | '\x60' :: r =>
      let p ← readBackquote fuel true r
      return consPiece p (← readQuoted fuel)
    | c :: _ => do advance 1; return consPiece (.fixed [c]) (← readQuoted fuel)

def readHere : Nat → Read (List Piece)
  | 0 => unexpected
  | fuel + 1 => do
    match ← peek with
    | [] => return []
    | '\\' :: '\n' :: _ => do advance 2; readHere fuel
    | '\\' :: c :: _ =>
      advance 2
      let t := if c = '$' || c = '\x60' || c = '\\' then [c] else ['\\', c]
      return consPiece (.fixed t) (← readHere fuel)
    | '$' :: _ =>
      advance 1
      let p ← readDollar fuel true
      return consPiece p (← readHere fuel)
    | '\x60' :: r =>
      let p ← readBackquote fuel true r
      return consPiece p (← readHere fuel)
    | c :: _ => do advance 1; return consPiece (.fixed [c]) (← readHere fuel)

def readBackquote : Nat → Bool → Octets → Read Piece
  | 0, _, _ => unexpected
  | fuel + 1, quoted, r =>
    match backquoted quoted r with
    | none => do
      advance (r.length + 1)
      complain "EOF in backquote substitution".toList
    | some (text, n) => do
      advance (n + 1)
      let after ← get
      set (Input.mk text 1 0)
      let body ← readList fuel true
      set after
      return .output quoted body

/-- The next pieces of an unquoted word, which starts with the given byte. Empty quotes are
an empty piece. -/
def readPieces : Nat → Char → Octets → Read (List Piece)
  | 0, _, _ => unexpected
  | fuel + 1, c, r =>
    match c with
    | '\x27' => do advance 1; return [.fixed (← singleQuoted)]
    | '\x22' => do
      advance 1
      return quotedPieces (← readQuoted fuel)
    | '\\' =>
      match r with
      | d :: _ => do advance 2; return if d = '\n' then [] else [.fixed [d]]
      | [] => do advance 1; return [.fixed ['\\']]
    | '$' => do advance 1; return [← readDollar fuel false]
    | '\x60' => do return [← readBackquote fuel false r]
    | _ => do advance 1; return [.bare [c]]

/-- A word; no piece at all if none starts here. -/
def readWord : Nat → Read (List Piece)
  | 0 => unexpected
  | fuel + 1 => do
    match ← peek with
    | [] => return []
    | c :: r =>
      if isMeta c then return []
      else
        let ps ← readPieces fuel c r
        return ps.foldr consPiece (← readWord fuel)

def readRedirection : Nat → Nat → Option Nat → Read Redirection
  | 0, _, _ => unexpected
  | fuel + 1, line, fd => do
    let target (n : Nat) (dflt : Nat) (o : Opening) : Read Redirection := do
      advance n
      skipBlank
      let w ← readWord fuel
      if w.isEmpty then unexpected else return .mk line (fd.getD dflt) o w
    match ← peek with
    | '<' :: '<' :: r =>
      let stripTabs := r.head? = some '-'
      advance (if stripTabs then 3 else 2)
      skipBlank
      let before ← peek
      let w ← readWord fuel
      let spelled := before.take (before.length - (← peek).length)
      let plain := spelled.filter fun c => c != '\x27' && c != '\x22' && c != '\\'
      let i ← get
      let sameLine := i.rest.takeWhile (· != '\n')
      let below := Octets.lines (i.rest.drop (sameLine.length + 1))
      let (body, after) := hereBody plain stripTabs below
      let rest : Octets := sameLine ++ '\n' :: after
      let taken := i.rest.count '\n' - rest.count '\n'
      let i := { i with rest := rest, below := i.below + taken }
      if w.isEmpty then unexpected
      else if plain.length < spelled.length then
        set i
        return .mk line (fd.getD 0) .here [.fixed body]
      else
        set (Input.mk body (i.line + 1) 0)
        let pieces ← readHere fuel
        set i
        return .mk line (fd.getD 0) .here pieces
    | '<' :: '&' :: _ => target 2 0 .copy
    | '<' :: '>' :: _ => target 2 0 .readWrite
    | '<' :: _ => target 1 0 .read
    | '>' :: '>' :: _ => target 2 1 .append
    | '>' :: '&' :: _ => target 2 1 .copy
    | '>' :: '|' :: _ => target 2 1 .overwrite
    | _ => target 1 1 .write

def readRedirections : Nat → Nat → Read (List Redirection)
  | 0, _ => unexpected
  | fuel + 1, line => do
    skipBlank
    match redirectionHead? (← peek) with
    | none => return []
    | some (fd, rest) =>
      advance ((← peek).length - rest.length)
      let r ← readRedirection fuel line fd
      return r :: (← readRedirections fuel line)

def readSimple : Nat → Nat → List (Octets × List Piece) → List (List Piece) →
    List Redirection → Read Statement
  | 0, _, _, _, _ => unexpected
  | fuel + 1, line, assignments, words, redirections => do
    skipBlank
    let t ← peek
    match redirectionHead? t with
    | some (fd, rest) =>
      advance (t.length - rest.length)
      let r ← readRedirection fuel line fd
      readSimple fuel line assignments words (redirections ++ [r])
    | none =>
      match t with
      | [] => return .simple line assignments words redirections
      | '(' :: _ =>
        match assignments, words, redirections with
        | [], [word], [] =>
          advance 1
          skipBlank
          expectPlainClosing
          match functionName? word with
          | none => complain "Bad function name".toList
          | some name =>
            skipLines (← peek).length
            return .define name (← readCommand fuel)
        | _, _, _ => return .simple line assignments words redirections
      | c :: _ =>
        if isMeta c then return .simple line assignments words redirections
        else
          match if words.isEmpty then assignmentHead? t else none with
          | some name =>
            advance (name.length + 1)
            let value ← readWord fuel
            readSimple fuel line (assignments ++ [(name, value)]) words redirections
          | none =>
            let w ← readWord fuel
            readSimple fuel line assignments (words ++ [w]) redirections

def readBranch : Nat → Read (List Statement × List Statement × List Statement)
  | 0 => unexpected
  | fuel + 1 => do
    let condition ← readList fuel false
    expectReserved "then"
    let yes ← readList fuel false
    if isReserved (← peek) "elif" then do
      advance 4
      let (c, y, n) ← readBranch fuel
      return (condition, yes, [.branch c y n []])
    else if isReserved (← peek) "else" then do
      advance 4
      let no ← readList fuel false
      expectReserved "fi"
      return (condition, yes, no)
    else do
      expectReserved "fi"
      return (condition, yes, [])

def readPatterns : Nat → Read (List (List Piece))
  | 0 => unexpected
  | fuel + 1 => do
    skipBlank
    let w ← readWord fuel
    if w.isEmpty then skipToken
    skipBlank
    match ← peek with
    | '|' :: _ => do advance 1; return w :: (← readPatterns fuel)
    | _ => do expectPlainClosing; return [w]

def readArms : Nat → Read (List (List (List Piece) × List Statement))
  | 0 => unexpected
  | fuel + 1 => do
    skipLines (← peek).length
    if isReserved (← peek) "esac" then do advance 4; return []
    else
      match ← peek with
      | '(' :: _ => advance 1
      | _ => pure ()
      let patterns ← readPatterns fuel
      let body ← readList fuel true
      if isReserved (← peek) "esac" then do
        advance 4
        return [(patterns, body)]
      else
        match ← peek with
        | ';' :: ';' :: _ => do advance 2; return (patterns, body) :: (← readArms fuel)
        | _ => expecting ";;"

def readWords : Nat → Read (List (List Piece))
  | 0 => unexpected
  | fuel + 1 => do
    skipBlank
    let w ← readWord fuel
    if w.isEmpty then return [] else return w :: (← readWords fuel)

def readDoGroup : Nat → Read (List Statement)
  | 0 => unexpected
  | fuel + 1 => do
    skipLines (← peek).length
    expectReserved "do"
    let body ← readList fuel false
    expectReserved "done"
    return body

def readEach : Nat → Nat → Read Statement
  | 0, _ => unexpected
  | fuel + 1, line => do
    skipBlank
    let t ← peek
    let word := t.takeWhile fun c => !isMeta c
    if t.head? = some '\n' then advance 1
    if word.isEmpty ∨ !word.all isNameByte ∨ !(word.head?.map isNameStart).getD false then
      complain "Bad for loop variable".toList
    advance word.length
    skipLines (← peek).length
    let words ← (if isReserved (← peek) "in" then do
        advance 2
        let ws ← readWords fuel
        match ← peek with
        | ';' :: ';' :: _ => unexpected
        | ';' :: _ | '\n' :: _ => do advance 1; return some ws
        | _ => unexpected
      else do
        match ← peek with
        | ';' :: _ => do advance 1; return none
        | _ => return none : Read (Option (List (List Piece))))
    let body ← readDoGroup fuel
    return .each word words body (← readRedirections fuel line)

def readCommand : Nat → Read Statement
  | 0 => unexpected
  | fuel + 1 => do
    skipBlank
    let line := (← get).line
    let t ← peek
    match t with
    | '(' :: _ =>
      advance 1
      let body ← readList fuel false
      expectClosing
      return .subshell body (← readRedirections fuel line)
    | _ =>
      match (reserved? t).map String.ofList with
      | some "\x7b" =>
        advance 1
        let body ← readList fuel false
        expectReserved "\x7d"
        return .group body (← readRedirections fuel line)
      | some "if" =>
        advance 2
        let (c, y, n) ← readBranch fuel
        return .branch c y n (← readRedirections fuel line)
      | some "while" =>
        advance 5
        let c ← readList fuel false
        let body ← readDoGroup fuel
        return .loop false c body (← readRedirections fuel line)
      | some "until" =>
        advance 5
        let c ← readList fuel false
        let body ← readDoGroup fuel
        return .loop true c body (← readRedirections fuel line)
      | some "for" =>
        advance 3
        readEach fuel line
      | some "case" =>
        advance 4
        skipBlank
        let w ← readWord fuel
        if w.isEmpty then expectingKind "word".toList
        skipLines (← peek).length
        expectReserved "in"
        let arms ← readArms fuel
        return .choose w arms (← readRedirections fuel line)
      | some _ => unexpected
      | none =>
        match t with
        | c :: _ =>
          if isMeta c && c != '<' && c != '>' then unexpected
          else readSimple fuel line [] [] []
        | [] => unexpected

def readStages : Nat → Read (List Statement)
  | 0 => unexpected
  | fuel + 1 => do
    let s ← readCommand fuel
    skipBlank
    match ← peek with
    | '|' :: '|' :: _ => return [s]
    | '|' :: _ =>
      advance 1
      skipLines (← peek).length
      return s :: (← readStages fuel)
    | _ => return [s]

def readPipeline : Nat → Read Statement
  | 0 => unexpected
  | fuel + 1 => do
    skipBlank
    let negated := isReserved (← peek) "!"
    if negated then advance 1
    match ← readStages fuel with
    | [s] => return if negated then .pipeline true [s] else s
    | stages => return .pipeline negated stages

def readJoined : Nat → Statement → Read Statement
  | 0, _ => unexpected
  | fuel + 1, s => do
    skipBlank
    match ← peek with
    | '&' :: '&' :: _ =>
      advance 2
      skipLines (← peek).length
      let p ← readPipeline fuel
      readJoined fuel (.andThen s p)
    | '|' :: '|' :: _ =>
      advance 2
      skipLines (← peek).length
      let p ← readPipeline fuel
      readJoined fuel (.orElse s p)
    | _ => return s

/-- Pipelines with the sign behind them, and whether another statement may follow. -/
def readStatement : Nat → Read (Statement × Bool)
  | 0 => unexpected
  | fuel + 1 => do
    let first ← readPipeline fuel
    let s ← readJoined fuel first
    skipBlank
    match ← peek with
    | '&' :: _ => do advance 1; return (.background s, true)
    | ';' :: ';' :: _ => return (s, false)
    | ';' :: _ => do advance 1; return (s, true)
    | '\n' :: _ => return (s, true)
    | _ => return (s, false)

def readList : Nat → Bool → Read (List Statement)
  | 0, _ => unexpected
  | fuel + 1, mayBeEmpty => do
    skipLines (← peek).length
    let t ← peek
    if t = [] ∨ (mayBeEmpty ∧ endsList t) then return []
    else
      let (s, more) ← readStatement fuel
      return s :: (← if more then readList fuel true else pure [])

def readLine : Nat → Read (List Statement)
  | 0 => unexpected
  | fuel + 1 => do
    skipBlank
    match ← peek with
    | [] => return []
    | '\n' :: _ => do advance 1; return []
    | _ =>
      let (s, more) ← readStatement fuel
      if more then return s :: (← readLine fuel)
      else if (← peek) = [] then return [s]
      else unexpected

end

def start (t : Octets) : Input := ⟨t, 1, 0⟩

/-- Reads a line. Reading never goes deeper than a few levels for each byte. -/
def next (i : Input) : Except Mistake (List Statement × Input) :=
  (readLine (8 * i.rest.length + 64)).run i

end Script

end LayoutCheck
