import LayoutCheck.Decimal
import LayoutCheck.Text.Characters
import LayoutCheck.Yaml.Document
import LayoutCheck.Yaml.Token

/-! # What a scalar stands for

A plain scalar without a standard tag is read by its spelling: nothing, a boolean, an integer, a
float, or else a string. Any other scalar is a string. Integers are decimal without leading zeros,
or have a radix mark. Floats have a point or an exponent, or are one of the words for infinity and
not-a-number. -/

namespace LayoutCheck.Yaml

def digits? (radix : Nat) (t : Text) : Option Nat :=
  if t.isEmpty then none
  else t.foldl (fun acc d => do
    let n ← acc
    let v ← hexValue? d
    if v < radix then some (n * radix + v) else none) (some 0)

def startsWithSign (t : Text) : Bool := t.head? == some '+' || t.head? == some '-'

/-- More than one digit, the first of them a zero: such a scalar is no number. -/
def hasLeadingZero (t : Text) : Bool :=
  let t := if startsWithSign t then t.drop 1 else t
  match t with
  | '0' :: d :: ds => (d :: ds).all Char.isDigit
  | _ => false

def radixMarks : List (Text × Nat) :=
  [("0x".toList, 16), ("0o".toList, 8), ("0b".toList, 2)]

def radixMark? (t : Text) : Option (Nat × Text) :=
  radixMarks.findSome? fun m => (Text.dropLead? m.1 t).map fun rest => (m.2, rest)

/-- A number below `bound`, perhaps after a plus sign. -/
def unsigned? (bound : Nat) (t : Text) : Option Nat :=
  let body := (Text.dropLead? ['+'] t).getD t
  let n := match radixMark? body with
    | some (radix, ds) => digits? radix ds
    | none => if hasLeadingZero t then none else digits? 10 body
  n.filter (· < bound)

/-- A signed number that is at least `-bound` and below `bound`. -/
def signed? (bound : Nat) (t : Text) : Option Int :=
  match Text.dropLead? ['-'] t with
  | some body =>
    let n := match radixMark? body with
      | some (radix, ds) => digits? radix ds
      | none => if hasLeadingZero t then none else digits? 10 body
    (n.filter (· ≤ bound)).map fun n => -(n : Int)
  | none => (unsigned? bound t).map Int.ofNat

/-- A float: a sign over a finite size, or none of these. -/
inductive FloatValue where
  | finite (negative : Bool) (size : Binary64)
  | infinite (negative : Bool)
  | notANumber
  deriving DecidableEq, Repr

namespace FloatValue

def render : FloatValue → Text
  | finite negative size =>
    let body := size.render
    let body := if body.contains '.' then body else body ++ ".0".toList
    if negative then '-' :: body else body
  | infinite negative => if negative then "-inf".toList else "inf".toList
  | notANumber => "NaN".toList

end FloatValue

def exponent? : Text → Option Int
  | [] => some 0
  | 'e' :: r => signedDigits r
  | 'E' :: r => signedDigits r
  | _ => none
where
  signedDigits (r : Text) : Option Int :=
    match r with
    | '+' :: ds => (digits? 10 ds).map Int.ofNat
    | '-' :: ds => (digits? 10 ds).map fun n => -(n : Int)
    | ds => (digits? 10 ds).map Int.ofNat

def decimal? (t : Text) : Option Binary64 := do
  let whole := t.takeWhile Char.isDigit
  let rest := t.dropWhile Char.isDigit
  let (part, rest) := match rest with
    | '.' :: r => (r.takeWhile Char.isDigit, r.dropWhile Char.isDigit)
    | r => ([], r)
  let e ← exponent? rest
  let n ← digits? 10 (whole ++ part)
  Binary64.ofDecimal? n (e - part.length)

def float? (t : Text) : Option FloatValue :=
  let body := (Text.dropLead? ['+'] t).getD t
  if body.length < t.length && startsWithSign body then none
  else if [".inf", ".Inf", ".INF"].any (·.toList == body) then some (.infinite false)
  else if ["-.inf", "-.Inf", "-.INF"].any (·.toList == t) then some (.infinite true)
  else if [".nan", ".NaN", ".NAN"].any (·.toList == t) then some .notANumber
  else match Text.dropLead? ['-'] body with
    | some size => (decimal? size).map (.finite true)
    | none => (decimal? body).map (.finite false)

inductive Found where
  | unit
  | boolean (b : Bool)
  | integer (n : Int)
  | wideUnsigned (n : Nat)
  | wideSigned (n : Int)
  | float (x : FloatValue)
  | string (t : Text)
  | sequence
  | mapping
  deriving DecidableEq, Repr

namespace Found

def ticked (t : Text) : Text := '`' :: t ++ ['`']

def describe : Found → Text
  | unit => "unit value".toList
  | boolean b => "boolean ".toList ++ ticked (if b then "true".toList else "false".toList)
  | integer n => "integer ".toList ++ ticked (Text.ofInt n)
  | wideUnsigned n => "integer ".toList ++ ticked (Text.ofNat n) ++ " as u128".toList
  | wideSigned n => "integer ".toList ++ ticked (Text.ofInt n) ++ " as i128".toList
  | float x => "floating point ".toList ++ ticked x.render
  | string t => "string ".toList ++ t.quoted
  | sequence => "sequence".toList
  | mapping => "map".toList

end Found

def isNullWord (t : Text) : Bool :=
  ["null", "Null", "NULL", "~"].any (·.toList == t)

def boolean? (t : Text) : Option Bool :=
  if ["true", "True", "TRUE"].any (·.toList == t) then some true
  else if ["false", "False", "FALSE"].any (·.toList == t) then some false
  else none

def integer? (t : Text) : Option Found :=
  ((unsigned? (Nat.pow 2 64) t).map fun n => .integer n)
    <|> ((signed? (Nat.pow 2 63) t).map .integer)
    <|> ((unsigned? (Nat.pow 2 128) t).map .wideUnsigned)
    <|> ((signed? (Nat.pow 2 127) t).map .wideSigned)

def spelled (t : Text) : Found :=
  if t.isEmpty || isNullWord t then .unit
  else match boolean? t with
    | some b => .boolean b
    | none => match integer? t with
      | some n => n
      | none => match if hasLeadingZero t then none else float? t with
        | some x => .float x
        | none => .string t

def standardTag (name : String) : Text := "tag:yaml.org,2002:".toList ++ name.toList

inductive Mismatch where
  | type (found : Found) (expected : Text)
  | value (found : Found) (expected : Text)
  deriving DecidableEq, Repr

namespace Mismatch

def message : Mismatch → Text
  | type f e => "invalid type: ".toList ++ f.describe ++ ", expected ".toList ++ e
  | value f e => "invalid value: ".toList ++ f.describe ++ ", expected ".toList ++ e

end Mismatch

namespace Scalar

/-- The complaint about a scalar where something else was expected. A standard tag that
does not suit the text is complained about first. -/
def mismatch (s : Scalar) (expected : Text) : Mismatch :=
  let wrong (what : String) : Mismatch := .value (.string s.text) what.toList
  let byStyle : Mismatch :=
    if s.style = .plain then .type (spelled s.text) expected else .type (.string s.text) expected
  match s.tag with
  | none => byStyle
  | some tag =>
    if tag = standardTag "bool" then
      match boolean? s.text with
      | some b => .type (.boolean b) expected
      | none => wrong "a boolean"
    else if tag = standardTag "int" then
      match integer? s.text with
      | some n => .type n expected
      | none => wrong "an integer"
    else if tag = standardTag "float" then
      match float? s.text with
      | some x => .type (.float x) expected
      | none => wrong "a float"
    else if tag = standardTag "null" then
      if isNullWord s.text then .type .unit expected else wrong "null"
    else if tag.head? = some '!' then byStyle
    else .type (.string s.text) expected

/-- May the text be read as a value of the type that a standard tag names? Plain scalars
always may, literal ones with that tag. -/
def readsAs (s : Scalar) (tag : Text) : Bool :=
  s.style == .plain || (s.style == .literal && s.tag == some tag)

/-- Is a scalar a way to give no value? `none` when it is plain with the null tag and is no
null word. -/
def isAbsent? (s : Scalar) : Option Bool :=
  if s.style ≠ .plain then some false
  else match s.tag with
    | none => some (s.text.isEmpty || isNullWord s.text)
    | some tag =>
      if tag = standardTag "null" then if isNullWord s.text then some true else none
      else some false

end Scalar

end LayoutCheck.Yaml
