import LayoutCheck.Text

/-! # Decimals and durations

Binary numbers with 53 bits and the decimals that stand for them: the nearest one, a tie to the
even mantissa, and back the shortest decimal that rounds to the number, or one of a given length.
The text of a duration is its number of seconds as such a number. A deadline is a clock reading
plus a duration; readings hold signed 64-bit seconds, so the sum may not exist. -/

namespace LayoutCheck

structure Binary64 where
  mantissa : Nat
  exponent : Int
  deriving DecidableEq, Repr

namespace Binary64

def zero : Binary64 := ⟨0, 0⟩

def leastExponent : Int := -1074

def mantissaBound : Nat := Nat.pow 2 53

/-- Quotient rounded to the nearest number, a tie to the even one. -/
def roundDiv (num den : Nat) : Nat :=
  let q := num / den
  let r := num % den
  if 2 * r > den ∨ (2 * r = den ∧ q % 2 = 1) then q + 1 else q

def scaled (num den : Nat) (e : Int) : Nat × Nat :=
  if e < 0 then (num * Nat.pow 2 e.natAbs, den) else (num, den * Nat.pow 2 e.natAbs)

/-- The exponent at which the quotient has 53 bits before the point, or the least one. -/
def exponentFor (num den : Nat) : Int :=
  let guess : Int := (num.log2 : Int) - (den.log2 : Int) - 52
  let s := scaled num den guess
  let e := if s.1 < Nat.pow 2 52 * s.2 then guess - 1 else guess
  max e leastExponent

/-- The number nearest to `num / den`; `none` when that is beyond the greatest one. -/
def ofQuotient? (num den : Nat) : Option Binary64 :=
  if num = 0 then some zero
  else
    let e := exponentFor num den
    let s := scaled num den e
    let m := roundDiv s.1 s.2
    let r : Binary64 := if m = mantissaBound then ⟨m / 2, e + 1⟩ else ⟨m, e⟩
    if r.exponent > 971 then none else some r

def quotient (x : Binary64) : Nat × Nat :=
  if x.exponent < 0 then (x.mantissa, Nat.pow 2 x.exponent.natAbs)
  else (x.mantissa * Nat.pow 2 x.exponent.natAbs, 1)

/-- The number nearest to `digits * Nat.pow 10 exponent`. Powers of ten that lie out of range
whatever the digits are not computed. -/
def ofDecimal? (digits : Nat) (exponent : Int) : Option Binary64 :=
  let size : Int := (Nat.toDigits 10 digits).length
  if digits = 0 then some zero
  else if size + exponent > 310 then none
  else if size + exponent < -330 then some zero
  else if exponent < 0 then ofQuotient? digits (Nat.pow 10 exponent.natAbs)
  else ofQuotient? (digits * Nat.pow 10 exponent.natAbs) 1

/-- Sum of two numbers that are far from the greatest one. -/
def add (x y : Binary64) : Binary64 :=
  let a := x.quotient
  let b := y.quotient
  (ofQuotient? (a.1 * b.2 + b.1 * a.2) (a.2 * b.2)).getD zero

end Binary64

/-- The value `0.d₁d₂… * 10 ^ point`. -/
structure Decimal where
  digits : Text
  point : Int
  deriving DecidableEq, Repr

namespace Decimal

def positional (d : Decimal) : Text :=
  let n := d.digits.length
  if d.point ≤ 0 then
    "0.".toList ++ List.replicate d.point.natAbs '0' ++ d.digits
  else
    let p := d.point.toNat
    if n ≤ p then d.digits ++ List.replicate (p - n) '0'
    else d.digits.take p ++ '.' :: d.digits.drop p

end Decimal

namespace Binary64

/-- An exact fraction `num / den` with the interval of fractions that round to it, all over
one denominator. -/
structure Interval where
  low : Nat
  value : Nat
  high : Nat
  den : Nat
  closed : Bool
  deriving Repr

/-- The midpoints to both neighbours; the lower neighbour of a least mantissa is only half
as far. -/
def interval (x : Binary64) : Interval :=
  let q := x.quotient
  let unit := if x.exponent < 0 then 1 else Nat.pow 2 x.exponent.natAbs
  let below := if x.mantissa = Nat.pow 2 52 ∧ x.exponent > leastExponent then 1 else 2
  { low := 4 * q.1 - below * unit
    value := 4 * q.1
    high := 4 * q.1 + 2 * unit
    den := 4 * q.2
    closed := x.mantissa % 2 = 0 }

def Interval.holds (v : Interval) (n : Nat) (k : Int) : Bool :=
  let lhs := if k < 0 then n * v.den else n * Nat.pow 10 k.natAbs * v.den
  let scale := if k < 0 then Nat.pow 10 k.natAbs else 1
  if v.closed then v.low * scale ≤ lhs && lhs ≤ v.high * scale
  else v.low * scale < lhs && lhs < v.high * scale

def Interval.distance (v : Interval) (n : Nat) (k : Int) : Nat :=
  let lhs := if k < 0 then n * v.den else n * Nat.pow 10 k.natAbs * v.den
  let rhs := v.value * if k < 0 then Nat.pow 10 k.natAbs else 1
  (lhs - rhs) + (rhs - lhs)

def Interval.floorAt (v : Interval) (k : Int) : Nat :=
  if k < 0 then v.value * Nat.pow 10 k.natAbs / v.den else v.value / (v.den * Nat.pow 10 k.natAbs)

/-- The neighbour of the value on the grid `10 ^ k` that lies in the interval; of two the
nearer, and on a tie the upper one. -/
def Interval.onGrid? (v : Interval) (k : Int) : Option Nat :=
  let a := v.floorAt k
  match v.holds a k, v.holds (a + 1) k with
  | true, true =>
    some (if v.distance a k < v.distance (a + 1) k then a else a + 1)
  | true, false => some a
  | false, true => some (a + 1)
  | false, false => none

def Interval.magnitude (v : Interval) : Nat → Int → Int
  | 0, p => p
  | fuel + 1, p => if v.floorAt (p - 1) = 0 then magnitude v fuel (p - 1) else p

/-- Tries grids with more and more digits. Seventeen digits always suffice. -/
def Interval.search (v : Interval) (p : Int) : Nat → Nat → Nat × Int
  | 0, n => (v.floorAt (p - n), p - n)
  | fuel + 1, n =>
    match v.onGrid? (p - n) with
    | some a => if a = 0 then search v p fuel (n + 1) else (a, p - n)
    | none => search v p fuel (n + 1)

def dropTrailingZeros (t : Text) : Text := (t.reverse.dropWhile (· == '0')).reverse

def shortest (x : Binary64) : Decimal :=
  if x.mantissa = 0 then ⟨['0'], 1⟩
  else
    let v := x.interval
    let r := v.search (v.magnitude 700 320) 18 1
    let digits := Text.ofNat r.1
    ⟨dropTrailingZeros digits, digits.length + r.2⟩

def render (x : Binary64) : Text := x.shortest.positional

def zeros (n : Nat) : Text := List.replicate n '0'

def pointed (digits : Text) (places : Nat) : Text :=
  let all := zeros (places + 1 - digits.length) ++ digits
  let whole := all.take (all.length - places)
  if places = 0 then whole else whole ++ '.' :: all.drop whole.length

def fixed (x : Binary64) (places : Nat) : Text :=
  let q := x.quotient
  pointed (Text.ofNat (roundDiv (q.1 * Nat.pow 10 places) q.2)) places

def shifted (x : Binary64) (n : Int) : Nat × Nat :=
  let q := x.quotient
  if n < 0 then (q.1, q.2 * Nat.pow 10 n.natAbs) else (q.1 * Nat.pow 10 n.natAbs, q.2)

def magnitude (x : Binary64) : Nat → Int → Int
  | 0, e => e
  | fuel + 1, e =>
    let q := x.shifted (-e)
    if q.2 ≤ q.1 then e else magnitude x fuel (e - 1)

def digits (x : Binary64) (count : Nat) : Text × Int :=
  if x.mantissa = 0 then (zeros count, 0)
  else
    let e := x.magnitude 640 309
    let q := x.shifted (Int.ofNat count - 1 - e)
    let n := Text.ofNat (roundDiv q.1 q.2)
    if n.length > count then (n.take count, e + 1) else (n, e)

def scientific (x : Binary64) (places : Nat) : Text :=
  let (ds, e) := x.digits (places + 1)
  let power := Text.ofNat e.natAbs
  pointed ds places ++ 'e' :: (if e < 0 then '-' else '+') :: zeros (2 - power.length) ++ power

def trimZeros (t : Text) : Text :=
  if t.contains '.' then
    let body := (t.reverse.dropWhile (· == '0')).reverse
    if body.getLast? = some '.' then body.dropLast else body
  else t

/-- The shorter of both forms for a number of so many digits, without needless zeros. -/
def general (x : Binary64) (count : Nat) : Text :=
  let count := max count 1
  let (_, e) := x.digits count
  if -4 ≤ e ∧ e < Int.ofNat count then
    trimZeros (x.fixed (Int.ofNat count - 1 - e).toNat)
  else
    let t := x.scientific (count - 1)
    let mantissa := t.takeWhile (· != 'e')
    trimZeros mantissa ++ t.drop mantissa.length

end Binary64

structure Duration where
  secs : Nat
  nanos : Nat
  deriving DecidableEq, Repr

namespace Duration

def nanosPerSec : Nat := 1000000000

def ofSecs (secs : Nat) : Duration := ⟨secs, 0⟩

def ofMillis (ms : Nat) : Duration := ⟨ms / 1000, ms % 1000 * 1000000⟩

def isZero (d : Duration) : Bool := d.secs == 0 && d.nanos == 0

def toNanos (d : Duration) : Nat := d.secs * nanosPerSec + d.nanos

/-- Whole seconds and the fraction are rounded on their own, then their sum. -/
def asSeconds (d : Duration) : Binary64 :=
  let whole := (Binary64.ofQuotient? d.secs 1).getD .zero
  let part := (Binary64.ofQuotient? d.nanos nanosPerSec).getD .zero
  whole.add part

def render (d : Duration) : Text := d.asSeconds.render

end Duration

structure Instant where
  secs : Int
  nanos : Nat
  deriving DecidableEq, Repr

namespace Instant

def maxSecs : Int := Int.ofNat (Nat.pow 2 63) - 1

def add? (now : Instant) (d : Duration) : Option Instant :=
  let secs := now.secs + d.secs
  let nanos := now.nanos + d.nanos
  if secs > maxSecs then none
  else if nanos < Duration.nanosPerSec then some ⟨secs, nanos⟩
  else if secs + 1 > maxSecs then none
  else some ⟨secs + 1, nanos - Duration.nanosPerSec⟩

end Instant

end LayoutCheck
