import LayoutCheck.Decimal
import LayoutCheck.Host.Utility

/-! # Programs that print

`printf` and `echo`, with the escapes that a shell's own commands know; `basename` and `dirname`;
`seq`, and `yes`, which repeats a line for ever; `sleep`, whose operands add up. -/

namespace LayoutCheck

namespace Utility

/-- One escape after its backslash: the byte, and the rest. A backslash before anything else
stands for itself. -/
def escapedByte (t : Octets) : Char × Octets :=
  let digits := (t.take 3).takeWhile Octets.isOctalDigit
  if digits ≠ [] then (Octets.byteOf (Octets.octal digits), t.drop digits.length)
  else
    match t with
    | '\\' :: r => ('\\', r)
    | 'a' :: r => ('\x07', r)
    | 'b' :: r => ('\x08', r)
    | 'e' :: r => ('\x1b', r)
    | 'f' :: r => ('\x0c', r)
    | 'n' :: r => ('\n', r)
    | 'r' :: r => ('\r', r)
    | 't' :: r => ('\t', r)
    | 'v' :: r => ('\x0b', r)
    | _ => ('\\', t)

/-- Escapes as `echo` and `%b` read them: octal numbers may have a zero in front, and `\c`
ends the output. The flag tells whether it did. -/
def unescape : Nat → Octets → Octets × Bool
  | 0, _ => ([], false)
  | _ + 1, [] => ([], false)
  | _ + 1, '\\' :: 'c' :: _ => ([], true)
  | fuel + 1, '\\' :: '0' :: r =>
    let digits := (r.take 3).takeWhile Octets.isOctalDigit
    let (t, stop) := unescape fuel (r.drop digits.length)
    (Octets.byteOf (Octets.octal digits) :: t, stop)
  | fuel + 1, '\\' :: r =>
    let (c, rest) := escapedByte r
    let (t, stop) := unescape fuel rest
    (c :: t, stop)
  | fuel + 1, c :: r =>
    let (t, stop) := unescape fuel r
    (c :: t, stop)

def echo : Utility := fun args _ =>
  let (newline, words) := match args with
    | ['-', 'n'] :: r => (false, r)
    | r => (true, r)
  let line := Text.joinWith [' '] words
  let (t, stop) := unescape (line.length + 1) line
  .ok (if newline && !stop then t ++ ['\n'] else t)

structure Field where
  left : Bool
  zero : Bool
  plus : Bool
  space : Bool
  alternate : Bool
  width : Nat
  precision : Option Nat

namespace Field

def pad (f : Field) (t : Octets) : Octets :=
  let fill := List.replicate (f.width - t.length) ' '
  if f.left then t ++ fill else fill ++ t

def text (f : Field) (t : Octets) : Octets :=
  f.pad (match f.precision with
    | none => t
    | some n => t.take n)

def number (f : Field) (sign : Octets) (digits : Octets) : Octets :=
  let digits := match f.precision with
    | none => digits
    | some n => List.replicate (n - digits.length) '0' ++ digits
  if f.zero && !f.left && f.precision.isNone then
    sign ++ List.replicate (f.width - sign.length - digits.length) '0' ++ digits
  else f.pad (sign ++ digits)

end Field

def upper (t : Octets) : Octets := t.map Char.toUpper

structure Reading (α : Type) where
  value : α
  fault : Option String

def leftover (t rest : Octets) : Option String :=
  if rest = [] then none
  else some (if rest = t then "expected numeric value" else "not completely converted")

def splitSign (t : Octets) : Bool × Octets :=
  match t.dropWhile Octets.isSpace with
  | '-' :: r => (true, r)
  | '+' :: r => (false, r)
  | r => (false, r)

def limit (signed negative : Bool) : Nat :=
  if !signed then Nat.pow 2 64 - 1 else if negative then Nat.pow 2 63 else Nat.pow 2 63 - 1

/-- The whole number that an argument stands for. A quote stands for the byte behind it. -/
def readWhole (signed : Bool) (t : Octets) : Reading Int :=
  match t with
  | '\x27' :: r | '\x22' :: r => ⟨((r.head?.map Char.toNat).getD 0 : Nat), none⟩
  | _ =>
    let (negative, body) := splitSign t
    if !(body.head?.map Char.isDigit).getD false then ⟨0, leftover t t⟩
    else
      let (n, rest) := Octets.number body
      let most := limit signed negative
      let m := min n most
      ⟨if negative then -m else m,
        (leftover t rest).or (if n > most then some "Numerical result out of range" else none)⟩

def readReal (t : Octets) : Reading (Bool × Option Binary64) :=
  let (negative, body) := splitSign t
  let whole := body.takeWhile Char.isDigit
  let (places, rest) : Octets × Octets := match body.drop whole.length with
    | '.' :: r => (r.takeWhile Char.isDigit, r.dropWhile Char.isDigit)
    | r => ([], r)
  if whole = [] ∧ places = [] then ⟨(false, some Binary64.zero), leftover t t⟩
  else
    let (power, rest) : Int × Octets := match rest with
      | e :: r =>
        let (below, digits) := splitSign r
        let ds := digits.takeWhile Char.isDigit
        if e.toLower = 'e' ∧ ds ≠ [] then
          let n : Int := Nat.ofDigitChars 10 ds 0
          (if below then -n else n, digits.drop ds.length)
        else (0, e :: r)
      | [] => (0, [])
    let digits := Nat.ofDigitChars 10 (whole ++ places) 0
    ⟨(negative, Binary64.ofDecimal? digits (power - places.length)), leftover t rest⟩

def twosComplement (n : Int) : Nat := (n % Int.ofNat (Nat.pow 2 64)).toNat

def signOf (f : Field) (negative : Bool) : Octets :=
  if negative then ['-'] else if f.plus then ['+'] else if f.space then [' '] else []

structure Converted where
  text : Octets
  fault : Option String
  stop : Bool

def convertWhole (f : Field) (arg : Octets) : Converted :=
  let n := readWhole true arg
  ⟨f.number (signOf f (n.value < 0)) (Text.ofNat n.value.natAbs), n.fault, false⟩

def convertBits (f : Field) (lead : String) (digits : Nat → Octets) (arg : Octets) : Converted :=
  let n := readWhole false arg
  let bits := twosComplement n.value
  ⟨f.number (if f.alternate ∧ bits ≠ 0 then lead.toList else []) (digits bits), n.fault, false⟩

def convertReal (f : Field) (form : Binary64 → Nat → Text) (arg : Octets) : Converted :=
  let n := readReal arg
  let body := match n.value.2 with
    | some x => form x (f.precision.getD 6)
    | none => lit "inf"
  ⟨{ f with precision := none }.number (signOf f n.value.1) body, n.fault, false⟩

def convert (f : Field) (c : Char) (arg : Octets) : Option Converted :=
  let raised (r : Converted) : Converted := { r with text := upper r.text }
  match c with
  | 's' => some ⟨f.text arg, none, false⟩
  | 'b' =>
    let (t, stop) := unescape (arg.length + 1) arg
    some ⟨f.text t, none, stop⟩
  | 'c' => some ⟨f.pad [arg.headD '\x00'], none, false⟩
  | 'd' | 'i' => some (convertWhole f arg)
  | 'u' => some (convertBits f "" Text.ofNat arg)
  | 'o' => some (convertBits f "0" (Nat.toDigits 8) arg)
  | 'x' => some (convertBits f "0x" (Nat.toDigits 16) arg)
  | 'X' => some (raised (convertBits f "0x" (Nat.toDigits 16) arg))
  | 'f' | 'F' => some (convertReal f Binary64.fixed arg)
  | 'e' => some (convertReal f Binary64.scientific arg)
  | 'E' => some (raised (convertReal f Binary64.scientific arg))
  | 'g' => some (convertReal f Binary64.general arg)
  | 'G' => some (raised (convertReal f Binary64.general arg))
  | _ => none

def readCount (t : Octets) (args : List Octets) : Option Int × Octets × List Octets :=
  match t with
  | '*' :: r => (some (readWhole true (args.headD [])).value, r, args.drop 1)
  | _ =>
    ((Octets.nat? (t.takeWhile Char.isDigit)).map Int.ofNat, t.dropWhile Char.isDigit, args)

def readFlags (f : Field) : Octets → Field × Octets
  | '-' :: r => readFlags { f with left := true } r
  | '0' :: r => readFlags { f with zero := true } r
  | '+' :: r => readFlags { f with plus := true } r
  | ' ' :: r => readFlags { f with space := true } r
  | '#' :: r => readFlags { f with alternate := true } r
  | r => (f, r)

/-- What a format has made so far. A format that is wrong itself ends all output. -/
structure Printed where
  text : Octets
  args : List Octets
  used : Bool
  stopped : Bool
  broken : Bool
  complaints : List Octets

def readDirective (t : Octets) (args : List Octets) : Field × Octets × List Octets :=
  let (f, r) := readFlags ⟨false, false, false, false, false, 0, none⟩ t
  let (width, r, args) := readCount r args
  let width := width.getD 0
  let f := { f with left := f.left || width < 0, width := width.natAbs }
  match r with
  | '.' :: r =>
    let (precision, r, args) := readCount r args
    match precision.getD 0 with
    | .ofNat n => ({ f with precision := some n }, r, args)
    | _ => (f, r, args)
  | _ => (f, r, args)

def printOnce (p : Printed) : Nat → Octets → Printed
  | 0, _ => p
  | _ + 1, [] => p
  | fuel + 1, '\\' :: r =>
    let (c, rest) := escapedByte r
    printOnce { p with text := p.text ++ [c] } fuel rest
  | fuel + 1, '%' :: '%' :: r => printOnce { p with text := p.text ++ ['%'] } fuel r
  | fuel + 1, '%' :: r =>
    let (f, r', args) := readDirective r p.args
    let broken (words : Octets) : Printed :=
      { p with stopped := true, broken := true, complaints := p.complaints ++ [words] }
    match r' with
    | [] => broken (lit "missing format character")
    | c :: rest =>
      let arg := args.headD []
      match convert f c arg with
      | none => broken ('%' :: r.take (r.length - rest.length) ++ lit ": invalid directive")
      | some made =>
        let complaint := made.fault.toList.map fun words => arg ++ lit ": " ++ words.toList
        let p := { p with
          text := p.text ++ made.text, args := args.drop 1, used := true, stopped := made.stop
          complaints := p.complaints ++ complaint }
        if made.stop then p else printOnce p fuel rest
  | fuel + 1, c :: r => printOnce { p with text := p.text ++ [c] } fuel r

def printAll (format : Octets) : Nat → Printed → Printed
  | 0, p => p
  | rounds + 1, p =>
    let p := printOnce { p with used := false } (format.length + 1) format
    if p.stopped || !p.used || p.args = [] then p else printAll format rounds p

def printfAs (speaker : Octets) : Utility := fun args _ =>
  let usage : Completion := .fail 2 (speaker ++ lit "usage: printf format [arg ...]\n")
  let print (format : Octets) (rest : List Octets) : Completion :=
    let p := printAll format (rest.length + 1) ⟨[], rest, false, false, false, []⟩
    let errors := p.complaints.map fun c => Write.err (speaker ++ c ++ ['\n'])
    ⟨errors ++ [.out p.text], if p.broken then 2 else if errors = [] then 0 else 1, .after 0⟩
  match args with
  | [] => usage
  | ['-', '-'] :: [] => usage
  | ['-', '-'] :: format :: rest => print format rest
  | ('-' :: c :: _) :: _ => .fail 2 (speaker ++ lit "Illegal option -" ++ [c, '\n'])
  | format :: rest => print format rest

def dropSlashes (t : Octets) : Octets := (t.reverse.dropWhile (· == '/')).reverse

def baseName (t : Octets) : Octets :=
  let body := dropSlashes t
  if body = [] then t.take 1
  else (body.reverse.takeWhile (· != '/')).reverse

def dirName (t : Octets) : Octets :=
  let body := dropSlashes t
  if body = [] then (if t = [] then ['.'] else ['/'])
  else if ¬body.contains '/' then ['.']
  else
    let parent := dropSlashes (body.take (body.length - (baseName t).length))
    if parent = [] then ['/'] else parent

def dropSuffix (suffix t : Octets) : Octets :=
  let kept := t.length - suffix.length
  if kept = 0 ∨ t.drop kept ≠ suffix then t else t.take kept

def missingOperand (d : Desk) : Completion := d.refuse (lit "missing operand")

def extraOperand (d : Desk) (t : Octets) : Completion :=
  d.refuse (lit "extra operand " ++ alwaysQuoted t)

def basename : Utility :=
  withOptions {
      plain := "az", valued := "s", leading := true
      names := [("multiple", 'a', .nothing), ("suffix", 's', .value), ("zero", 'z', .nothing)] }
    fun k _ d =>
      let ending := if k.has 'z' then '\x00' else '\n'
      let each (suffix : Octets) (names : List Octets) : Completion :=
        .ok (names.flatMap fun n => dropSuffix suffix (baseName n) ++ [ending])
      match k.operands with
      | [] => missingOperand d
      | names =>
        if k.hasAny "as" then each ((k.value? 's').getD []) names
        else
          match names with
          | _ :: _ :: t :: _ => extraOperand d t
          | name :: rest => each (rest.headD []) [name]
          | [] => missingOperand d

def dirname : Utility :=
  withOptions { plain := "z", names := [("zero", 'z', .nothing)] } fun k _ d =>
    if k.operands = [] then missingOperand d
    else .ok (k.operands.flatMap fun n => dirName n ++ [if k.has 'z' then '\x00' else '\n'])

/-- A decimal as digits and the number of places behind its point. -/
structure Scaled where
  digits : Int
  places : Nat

def Scaled.ofText? (t : Octets) : Option Scaled := do
  let (negative, body) : Bool × Octets := match t with
    | '-' :: r => (true, r)
    | '+' :: r => (false, r)
    | r => (false, r)
  let whole := body.takeWhile Char.isDigit
  let rest := body.drop whole.length
  let places ← match rest with
    | [] => some []
    | '.' :: r => if r.all Char.isDigit then some r else none
    | _ => none
  if whole = [] ∧ places = [] then none
  let n : Int := Nat.ofDigitChars 10 (whole ++ places) 0
  return ⟨if negative then -n else n, places.length⟩

def Scaled.at (x : Scaled) (places : Nat) : Int :=
  x.digits * Int.ofNat (Nat.pow 10 (places - x.places))

def Scaled.text (n : Int) (places : Nat) : Octets :=
  (if n < 0 then ['-'] else []) ++ Binary64.pointed (Text.ofNat n.natAbs) places

def sequenceLimit : Nat := 100000

def sequenceOptions : OptionSet where
  plain := "w"
  valued := "s"
  names := [("separator", 's', .value), ("equal-width", 'w', .nothing)]
  leading := true

def guardNegative : List Octets → List Octets
  | [] => []
  | ['-', 's'] :: v :: r => ['-', 's'] :: v :: guardNegative r
  | t :: r =>
    match t with
    | ['-', '-'] => t :: r
    | '-' :: c :: _ =>
      if c.isDigit ∨ c = '.' then ['-', '-'] :: t :: r else t :: guardNegative r
    | _ => t :: r

def countOut (k : Chosen) (d : Desk) : Completion :=
  let separator := (k.value? 's').getD ['\n']
  let wide := k.has 'w'
  let number (t : Octets) : Except Completion Scaled :=
    match Scaled.ofText? t with
    | some x => .ok x
    | none => .error (d.refuse (lit "invalid floating point argument: " ++ alwaysQuoted t))
  let run (first step last : Octets) : Except Completion Completion := do
    let a ← number first
    let b ← number step
    let c ← number last
    let places := max a.places b.places
    let scale := max places c.places
    let (a, b, c) := (a.at scale, b.at scale, c.at scale)
    if b = 0 then throw (d.refuse (lit "invalid Zero increment value: " ++ alwaysQuoted step))
    let count := ((c - a).tdiv b + 1).toNat
    let count := if (b > 0 ∧ a > c) ∨ (b < 0 ∧ a < c) then 0 else count
    if count > sequenceLimit then throw .never
    let texts := (List.range count).map fun k =>
      Scaled.text ((a + b * Int.ofNat k).tdiv (Int.ofNat (Nat.pow 10 (scale - places)))) places
    let width := texts.foldl (fun n t => max n t.length) 0
    let padded (t : Octets) : Octets :=
      let zeros := List.replicate (width - t.length) '0'
      match t with
      | '-' :: r => '-' :: zeros ++ r
      | r => zeros ++ r
    let texts := if wide then texts.map padded else texts
    return .ok (if texts = [] then [] else Text.joinWith separator texts ++ ['\n'])
  let merged : Except Completion Completion → Completion
    | .ok c | .error c => c
  match k.operands with
  | [] => missingOperand d
  | [last] => merged (run ['1'] ['1'] last)
  | [first, last] => merged (run first ['1'] last)
  | [first, step, last] => merged (run first step last)
  | _ :: _ :: _ :: t :: _ => extraOperand d t

def seq : Utility := fun args d =>
  withOptions sequenceOptions (fun k _ d => countOut k d) (guardNegative args) d

def yes : Utility :=
  withOptions { plain := "" } fun k _ _ =>
    let line := if k.operands = [] then ['y'] else Text.joinWith [' '] k.operands
    ⟨[], 0, .flooding (line ++ ['\n'])⟩

def nanosPerSecond : Nat := 1000000000

def unitOfTime? (t : Octets) : Option Nat :=
  match t with
  | [] | ['s'] => some 1
  | ['m'] => some 60
  | ['h'] => some 3600
  | ['d'] => some 86400
  | _ => none

def exponent (t : Octets) : Int × Octets :=
  match t with
  | e :: r =>
    let sign := r.takeWhile fun c => c == '-' || c == '+'
    let digits := (r.drop sign.length).takeWhile Char.isDigit
    if (e = 'e' ∨ e = 'E') ∧ sign.length ≤ 1 ∧ digits ≠ [] then
      let n := Int.ofNat ((Octets.nat? digits).getD 0)
      (if sign = ['-'] then -n else n, r.drop (sign.length + digits.length))
    else (0, t)
  | [] => (0, [])

/-- A decimal number of seconds, minutes, hours or days; `none` in it is for ever. -/
def interval? (t : Octets) : Option (Option Nat) :=
  let t := if t.head? = some '+' then t.drop 1 else t
  if t = lit "infinity" ∨ t = lit "inf" then some none
  else
    let whole := t.takeWhile Char.isDigit
    let rest := t.drop whole.length
    let fraction := if rest.head? = some '.' then (rest.drop 1).takeWhile Char.isDigit else []
    let rest := if rest.head? = some '.' then rest.drop (fraction.length + 1) else rest
    if whole = [] ∧ fraction = [] then none
    else
      let (power, rest) := exponent rest
      (unitOfTime? rest).map fun u =>
        let digits := Nat.ofDigitChars 10 (whole ++ fraction) 0
        let shift := power - fraction.length
        if digits = 0 then some 0
        else if shift > 12 then none
        else if shift ≥ 0 then some (digits * Nat.pow 10 shift.toNat * nanosPerSecond * u)
        else
          let below := Nat.pow 10 (min (-shift).toNat 400)
          some ((digits * nanosPerSecond * u + below - 1) / below)

def sleep : Utility :=
  withOptions { plain := "" } fun k _ d =>
    let wrong := k.operands.filter fun a => (interval? a).isNone
    if k.operands = [] then d.refuse (lit "missing operand")
    else
      match wrong.reverse with
      | last :: before =>
        let words (a : Octets) : Octets := lit "invalid time interval " ++ alwaysQuoted a
        let refused := d.refuse (words last)
        { refused with writes := before.reverse.map (fun a => .err (d.message (words a)))
            ++ refused.writes }
      | [] =>
        let total := k.operands.foldl (fun (n : Option Nat) a => do
          return (← n) + (← (interval? a).getD none)) (some 0)
        match total with
        | some n => ⟨[], 0, .after n⟩
        | none => .never

end Utility

end LayoutCheck
