import LayoutCheck.Host.Pattern

/-! # Shell scripts

What a script says, before anything is expanded or run, and the arithmetic of `$((…))`: whole numbers
of 64 bits, read from tokens by precedence. A name stands for its value, or for zero, and can be
given a new one. What does not count for the result is read but not done. -/

namespace LayoutCheck

inductive Opening where
  | read
  | readWrite
  | write
  | overwrite
  | append
  | copy
  | here
  deriving DecidableEq, Repr

mutual

/-- A part of a word. Quoted parts are not split into fields. -/
inductive Piece where
  | bare (t : Octets)
  | fixed (t : Octets)
  | parameter (quoted : Bool) (name : Octets) (change : Change)
  | output (quoted : Bool) (body : List Statement)
  | sum (quoted : Bool) (expression : List Piece)

/-- What is done with the value of a parameter. `evenEmpty` treats an empty value as none. Signs
that mean nothing are only found out when the word is expanded. -/
inductive Change where
  | keep
  | meaningless
  | length
  | orElse (evenEmpty : Bool) (word : List Piece)
  | assign (evenEmpty : Bool) (word : List Piece)
  | instead (evenEmpty : Bool) (word : List Piece)
  | demand (evenEmpty : Bool) (word : List Piece)
  | trim (fromEnd longest : Bool) (pattern : List Piece)

inductive Redirection where
  | mk (line descriptor : Nat) (opening : Opening) (target : List Piece)

inductive Statement where
  | simple (line : Nat) (assignments : List (Octets × List Piece)) (words : List (List Piece))
      (redirections : List Redirection)
  | pipeline (negated : Bool) (stages : List Statement)
  | andThen (first second : Statement)
  | orElse (first second : Statement)
  | background (body : Statement)
  | group (body : List Statement) (redirections : List Redirection)
  | subshell (body : List Statement) (redirections : List Redirection)
  | branch (condition yes no : List Statement) (redirections : List Redirection)
  | loop (until_ : Bool) (condition body : List Statement) (redirections : List Redirection)
  | each (name : Octets) (words : Option (List (List Piece))) (body : List Statement)
      (redirections : List Redirection)
  | choose (word : List Piece) (arms : List (List (List Piece) × List Statement))
      (redirections : List Redirection)
  | define (name : Octets) (body : Statement)

end

namespace Arithmetic

inductive Lexeme where
  | number (n : Int)
  | name (t : Octets)
  | sign (t : Octets)
  deriving DecidableEq, Repr

inductive Fault where
  | mistake (words : String)
  | noNumber (t : Octets)
  deriving DecidableEq, Repr

structure Reading where
  rest : List Lexeme
  value : Octets → Octets
  assigned : List (Octets × Int)

abbrev Calculation := StateT Reading (Except Fault)

def wrap (n : Int) : Int := n.bmod (Nat.pow 2 64)

def longSigns : List Octets :=
  ["<<=", ">>=", "&&", "||", "==", "!=", "<=", ">=", "<<", ">>", "+=", "-=", "*=", "/=", "%=",
    "&=", "^=", "|="].map String.toList

def isNameByte (c : Char) : Bool := c.isAlphanum || c == '_'

def lexemes : Nat → Octets → List Lexeme
  | 0, _ => []
  | _ + 1, [] => []
  | fuel + 1, c :: r =>
    if c == ' ' || c == '\t' || c == '\n' then lexemes fuel r
    else if c.isDigit then
      let (n, rest) := Octets.number (c :: r)
      .number (min n (Nat.pow 2 63 - 1)) :: lexemes fuel rest
    else if isNameByte c then
      .name ((c :: r).takeWhile isNameByte) :: lexemes fuel ((c :: r).dropWhile isNameByte)
    else
      match longSigns.find? fun t => Text.startsWith t (c :: r) with
      | some t => .sign t :: lexemes fuel ((c :: r).drop t.length)
      | none => .sign [c] :: lexemes fuel r

def level? (t : Octets) : Option Nat :=
  match String.ofList t with
  | "|" => some 3
  | "^" => some 4
  | "&" => some 5
  | "==" | "!=" => some 6
  | "<" | ">" | "<=" | ">=" => some 7
  | "<<" | ">>" => some 8
  | "+" | "-" => some 9
  | "*" | "/" | "%" => some 10
  | _ => none

def truth (b : Bool) : Int := if b then 1 else 0

def bitwise (f : BitVec 64 → BitVec 64 → BitVec 64) (a b : Int) : Int :=
  (f (BitVec.ofInt 64 a) (BitVec.ofInt 64 b)).toInt

def shiftCount (b : Int) : Nat := (b % 64).toNat

/-- Division by zero has no value. -/
def combine (t : Octets) (a b : Int) : Except Fault Int :=
  match String.ofList t with
  | "|" => .ok (bitwise (· ||| ·) a b)
  | "^" => .ok (bitwise (· ^^^ ·) a b)
  | "&" => .ok (bitwise (· &&& ·) a b)
  | "==" => .ok (truth (a == b))
  | "!=" => .ok (truth (a != b))
  | "<" => .ok (truth (a < b))
  | ">" => .ok (truth (a > b))
  | "<=" => .ok (truth (a ≤ b))
  | ">=" => .ok (truth (a ≥ b))
  | "<<" => .ok (wrap (a * Int.ofNat (Nat.pow 2 (shiftCount b))))
  | ">>" => .ok (a.fdiv (Int.ofNat (Nat.pow 2 (shiftCount b))))
  | "+" => .ok (wrap (a + b))
  | "-" => .ok (wrap (a - b))
  | "*" => .ok (wrap (a * b))
  | "/" => if b = 0 then .error (.mistake "division by zero") else .ok (wrap (a.tdiv b))
  | "%" => if b = 0 then .error (.mistake "division by zero") else .ok (a.tmod b)
  | _ => .ok b

def valueOf (name : Octets) : Calculation Int := do
  let r ← get
  match r.assigned.reverse.lookup name with
  | some n => return n
  | none =>
    let t := r.value name
    match Octets.wholeNumber? t with
    | some n => return n
    | none => if t = [] then return 0 else throw (.noNumber t)

def assign (name : Octets) (n : Int) : Calculation Unit :=
  modify fun r => { r with assigned := r.assigned ++ [(name, n)] }

def peek? : Calculation (Option Lexeme) := do return (← get).rest.head?

def advance : Calculation Unit := modify fun r => { r with rest := r.rest.drop 1 }

def expect (t : String) (words : String) : Calculation Unit := do
  match ← peek? with
  | some (.sign s) => if s = t.toList then advance else throw (.mistake words)
  | _ => throw (.mistake words)

def assignmentSign? : Lexeme → Option Octets
  | .sign ['='] => some []
  | .sign t =>
    if t.getLast? = some '=' ∧ ¬["==", "!=", "<=", ">="].contains (String.ofList t) then
      some t.dropLast
    else none
  | _ => none

mutual

/-- An expression; an unmeant one is read and not done. -/
def expression : Nat → Bool → Calculation Int
  | 0, _ => throw (.mistake "expecting primary")
  | fuel + 1, meant => do
    match (← get).rest with
    | .name t :: l :: _ =>
      match assignmentSign? l with
      | some op =>
        advance
        advance
        let b ← expression fuel meant
        if !meant then return b
        let n ← (if op = [] then pure b else do combine op (← valueOf t) b : Calculation Int)
        assign t n
        return n
      | none => choice fuel meant
    | _ => choice fuel meant

def choice : Nat → Bool → Calculation Int
  | 0, _ => throw (.mistake "expecting primary")
  | fuel + 1, meant => do
    let a ← either fuel meant
    if (← peek?) != some (.sign ['?']) then return a
    advance
    let b ← expression fuel (meant && a != 0)
    expect ":" "expecting \x27:\x27"
    let c ← choice fuel (meant && a == 0)
    return if a != 0 then b else c

def either : Nat → Bool → Calculation Int
  | 0, _ => throw (.mistake "expecting primary")
  | fuel + 1, meant => do
    let a ← both fuel meant
    if (← peek?) != some (.sign ['|', '|']) then return a
    advance
    let b ← either fuel (meant && a == 0)
    return truth (a != 0 || b != 0)

def both : Nat → Bool → Calculation Int
  | 0, _ => throw (.mistake "expecting primary")
  | fuel + 1, meant => do
    let a ← operation fuel meant 0
    if (← peek?) != some (.sign ['&', '&']) then return a
    advance
    let b ← both fuel (meant && a != 0)
    return truth (a != 0 && b != 0)

def operation : Nat → Bool → Nat → Calculation Int
  | 0, _, _ => throw (.mistake "expecting primary")
  | fuel + 1, meant, least => do continued fuel meant least (← operand fuel meant)

def continued : Nat → Bool → Nat → Int → Calculation Int
  | 0, _, _, _ => throw (.mistake "expecting primary")
  | fuel + 1, meant, least, a => do
    match ← peek? with
    | some (.sign t) =>
      match level? t with
      | none => return a
      | some n =>
        if n < least then return a
        else
          advance
          let b ← operation fuel meant (n + 1)
          continued fuel meant least (← (if meant then combine t a b else pure b : Except Fault Int))
    | _ => return a

def operand : Nat → Bool → Calculation Int
  | 0, _ => throw (.mistake "expecting primary")
  | fuel + 1, meant => do
    let l ← peek?
    advance
    match l with
    | some (.number n) => return n
    | some (.name t) => if meant then valueOf t else return 0
    | some (.sign ['(']) => do
      let n ← expression fuel meant
      expect ")" "expecting \x27)\x27"
      return n
    | some (.sign ['-']) => return wrap (-(← operand fuel meant))
    | some (.sign ['+']) => operand fuel meant
    | some (.sign ['!']) => return truth ((← operand fuel meant) == 0)
    | some (.sign ['~']) => return -(← operand fuel meant) - 1
    | _ => throw (.mistake "expecting primary")

end

def evaluate (value : Octets → Octets) (t : Octets) : Except Fault (Int × List (Octets × Int)) := do
  let ls := lexemes (t.length + 1) t
  let (n, r) ← (expression (16 * ls.length + 16) true).run ⟨ls, value, []⟩
  if r.rest = [] then return (n, r.assigned) else throw (.mistake "expecting EOF")

end Arithmetic

end LayoutCheck
