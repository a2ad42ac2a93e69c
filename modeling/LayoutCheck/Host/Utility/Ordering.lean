import LayoutCheck.Host.Pattern
import LayoutCheck.Host.Utility

/-! # Programs that order and replace

`sort`, `uniq`, `rev` and `tac`, and `tr`, which replaces, deletes and squeezes single bytes. -/

namespace LayoutCheck

namespace Utility

def ended (ls : List Octets) : List (Octets × Bool) := ls.map fun l => (l, true)

def octetsLe (a b : Octets) : Bool := !decide (b < a)

def isGap (c : Char) : Bool := c == ' ' || c == '\t'

structure Comparing where
  skipGaps : Bool
  onlyWords : Bool
  anyCase : Bool
  numeric : Bool
  backwards : Bool
  deriving DecidableEq

namespace Comparing

def plain : Comparing := ⟨false, false, false, false, false⟩

def add (m : Comparing) (c : Char) : Comparing :=
  match c with
  | 'b' => { m with skipGaps := true }
  | 'd' => { m with onlyWords := true }
  | 'f' => { m with anyCase := true }
  | 'n' | 'g' => { m with numeric := true }
  | 'r' => { m with backwards := true }
  | _ => m

/-- A number in front of a text, as a whole number of its smallest places. -/
def leadingNumber (t : Octets) : Int × Nat :=
  let t := t.dropWhile isGap
  let negative := t.head? = some '-'
  let t := if negative then t.drop 1 else t
  let whole := t.takeWhile Char.isDigit
  let places := match t.drop whole.length with
    | '.' :: r => r.takeWhile Char.isDigit
    | _ => []
  let n : Int := Nat.ofDigitChars 10 (whole ++ places) 0
  (if negative then -n else n, places.length)

def less (m : Comparing) (a b : Octets) : Bool :=
  if m.numeric then
    let (x, p) := leadingNumber a
    let (y, q) := leadingNumber b
    x * Int.ofNat (Nat.pow 10 q) < y * Int.ofNat (Nat.pow 10 p)
  else
    let shown (t : Octets) : Octets :=
      let t := if m.onlyWords then t.filter fun c => c.isAlphanum || isGap c else t
      if m.anyCase then t.map Char.toUpper else t
    decide (shown a < shown b)

end Comparing

structure Key where
  fromField : Nat
  fromByte : Nat
  toField : Option Nat
  toByte : Nat
  skipAtStart : Bool
  skipAtEnd : Bool
  comparing : Comparing

namespace Key

def afterFields (separator : Option Char) : Nat → Octets → Octets
  | 0, t => t
  | n + 1, t =>
    match separator with
    | some c => afterFields separator n ((t.dropWhile (· != c)).drop 1)
    | none => afterFields separator n ((t.dropWhile isGap).dropWhile fun c => !isGap c)

def behind (k : Key) (separator : Option Char) (t : Octets) : Nat :=
  match k.toField with
  | none => 0
  | some field =>
    if k.toByte = 0 then
      let start := afterFields separator field t
      match separator with
      | some c => (start.dropWhile (· != c)).length
      | none => ((start.dropWhile isGap).dropWhile fun c => !isGap c).length
    else
      let start := afterFields separator field t
      let start := if k.skipAtEnd then start.dropWhile isGap else start
      (start.drop k.toByte).length

def of (k : Key) (separator : Option Char) (t : Octets) : Octets :=
  let start := afterFields separator k.fromField t
  let start := if k.skipAtStart then start.dropWhile isGap else start
  let start := start.drop k.fromByte
  start.take (start.length - k.behind separator t)

def whole (m : Comparing) : Key := ⟨0, 0, none, 0, m.skipGaps, m.skipGaps, m⟩

def count (place : String) (t : Octets) : Except Octets (Nat × Octets) :=
  let digits := t.takeWhile Char.isDigit
  match Octets.nat? digits with
  | some n => .ok (n, t.drop digits.length)
  | none =>
    .error (lit "invalid number " ++ lit place ++ lit ": invalid count at start of "
      ++ alwaysQuoted t)

def lettersOf (t : Octets) : Octets := t.takeWhile "bdfgiMhnRrV".toList.contains

/-- Reads `field.byteletters,field.byteletters`. Without letters of its own a key is compared as
the program is told to. -/
def read (common : Comparing) (t : Octets) : Except Octets Key := do
  let bad (words : String) : Octets :=
    lit words ++ lit ": invalid field specification " ++ alwaysQuoted t
  let (field, r) ← count "at field start" t
  if field = 0 then throw (bad "field number is zero")
  let (byte, r) ← (match r with
    | '.' :: r => count "after \x27.\x27" r
    | r => .ok (1, r) : Except Octets (Nat × Octets))
  if byte = 0 then throw (bad "character offset is zero")
  let first := lettersOf r
  let r := r.drop first.length
  let (toField, toByte, last, r) ← (match r with
    | ',' :: r => do
      let (field, r) ← count "after \x27,\x27" r
      if field = 0 then throw (bad "field number is zero")
      let (byte, r) ← (match r with
        | '.' :: r => count "after \x27.\x27" r
        | r => .ok (0, r) : Except Octets (Nat × Octets))
      let letters := lettersOf r
      .ok (some (field - 1), byte, letters, r.drop letters.length)
    | r => .ok (none, 0, [], r) : Except Octets (Option Nat × Nat × Octets × Octets))
  if r ≠ [] then throw (bad "stray character in field spec")
  let own := (first ++ last).foldl Comparing.add .plain
  let inherits := first = [] ∧ last = []
  return ⟨field - 1, byte - 1, toField, toByte,
    if inherits then common.skipGaps else first.contains 'b',
    if inherits then common.skipGaps else last.contains 'b',
    if inherits then common else own⟩

def less? (separator : Option Char) (a b : Octets) : List Key → Option Bool
  | [] => none
  | k :: ks =>
    let x := k.of separator a
    let y := k.of separator b
    if k.comparing.less x y then some !k.comparing.backwards
    else if k.comparing.less y x then some k.comparing.backwards
    else less? separator a b ks

end Key

def sortOptions : OptionSet where
  plain := "bcCdfghiMmnRrsuVz"
  valued := "kto"
  names := [("ignore-leading-blanks", 'b', .nothing), ("dictionary-order", 'd', .nothing),
    ("ignore-case", 'f', .nothing), ("numeric-sort", 'n', .nothing),
    ("general-numeric-sort", 'g', .nothing), ("reverse", 'r', .nothing), ("check", 'c', .nothing),
    ("key", 'k', .value), ("output", 'o', .value), ("merge", 'm', .nothing),
    ("stable", 's', .nothing),
    ("field-separator", 't', .value), ("unique", 'u', .nothing),
    ("zero-terminated", 'z', .nothing)]

structure Arrangement where
  keys : List Key
  separator : Option Char
  backwards : Bool
  once : Bool
  stable : Bool

namespace Arrangement

def le (m : Arrangement) (a b : Octets) : Bool :=
  match Key.less? m.separator b a m.keys with
  | some below => !below
  | none =>
    if m.once || m.stable then true
    else if m.backwards then octetsLe b a else octetsLe a b

def alike (m : Arrangement) (a b : Octets) : Bool :=
  (Key.less? m.separator a b m.keys).isNone

def firsts (m : Arrangement) (ls : List Octets) : List Octets :=
  (ls.splitBy m.alike).filterMap (·.head?)

def apply (m : Arrangement) (ls : List Octets) : List Octets :=
  let sorted := ls.mergeSort m.le
  if m.once then m.firsts sorted else sorted

def disorder? (m : Arrangement) (k : Nat) : List Octets → Option (Nat × Octets)
  | a :: b :: r =>
    if !m.le a b || (m.once && m.alike a b) then some (k + 1, b) else disorder? m (k + 1) (b :: r)
  | _ => none

end Arrangement

def readArrangement (k : Chosen) : Except Octets Arrangement := do
  let common := (k.options.map (·.1)).foldl Comparing.add .plain
  let separator ← (match k.value? 't' with
    | none => .ok none
    | some [] => .error (lit "empty tab")
    | some [c] => .ok (some c)
    | some t => if t = lit "\\0" then .ok (some '\x00')
      else .error (lit "multi-character tab " ++ alwaysQuoted t) : Except Octets (Option Char))
  let keys ← (k.values 'k').mapM (Key.read common)
  return ⟨if keys = [] then [.whole common] else keys, separator, common.backwards,
    k.has 'u', k.has 's'⟩

def sort : Utility := fun args d =>
  match sortOptions.read args with
  | .error e => { d.refuse e.words with status := 2 }
  | .ok k =>
    match readArrangement k with
    | .error words => .fail 2 (d.message words)
    | .ok m =>
      let parts := (operandsOrInput k.operands).map fun name => (name, openOperand d name)
      let failure := parts.findSome? fun (name, c) =>
        match c with
        | .ok _ => none
        | .error e => some ((if e = .isDirectory then lit "read failed: " else lit "cannot read: ")
          ++ quotedName name ++ lit ": " ++ e.description)
      match failure, parts.mapM fun p => p.2.toOption.bind Content.finite? with
      | some words, _ => .fail 2 (d.message words)
      | none, none => .never
      | none, some texts =>
        let swap (t : Octets) : Octets := if k.has 'z' then Octets.swapEnds t else t
        let ls := texts.flatMap fun t => (Octets.lines (swap t)).map (·.1)
        if ¬k.hasAny "cC" then .ok (swap ((ended (m.apply ls)).flatMap Octets.ofLine))
        else
          match k.operands with
          | _ :: t :: _ =>
            .fail 2 (d.message
              (lit "extra operand " ++ alwaysQuoted t ++ lit " not allowed with -c"))
          | names =>
            match m.disorder? 1 ls with
            | none => .silent 0
            | some (n, l) =>
              if k.has 'C' then .silent 1
              else
                .fail 1 (d.message ((names.head?).getD ['-'] ++ lit ":" ++ Text.ofNat n
                  ++ lit ": disorder: " ++ l))

def onLines (o : OptionSet) (status : Nat) (complaint : Octets → Errno → Octets)
    (change : Chosen → List (Octets × Bool) → List (Octets × Bool)) : Utility :=
  withOptions o fun k _ d =>
    let parts := (operandsOrInput k.operands).map fun name => (name, openOperand d name)
    if parts.any fun p => match p.2 with
      | .ok (.endless _) => true
      | _ => false then .never
    else
      let errors := parts.filterMap fun (name, c) =>
        match c with
        | .ok _ => none
        | .error e => some (Write.err (d.message (complaint name e)))
      let lines := parts.flatMap fun p => match p.2 with
        | .ok (.finite t) => Octets.lines t
        | _ => []
      ⟨errors ++ [.out ((change k lines).flatMap Octets.ofLine)],
        if errors = [] then 0 else status, .after 0⟩

def uniqOptions : OptionSet where
  plain := "cdDiu"
  valued := "fsw"
  names := [("count", 'c', .nothing), ("repeated", 'd', .nothing), ("ignore-case", 'i', .nothing),
    ("unique", 'u', .nothing), ("skip-fields", 'f', .value), ("skip-chars", 's', .value),
    ("check-chars", 'w', .value)]

def compared (k : Chosen) (l : Octets) : Octets :=
  let number (c : Char) : Option Nat := (k.value? c).bind Octets.nat?
  let rest := (Key.afterFields none ((number 'f').getD 0) l).drop ((number 's').getD 0)
  let rest := ((number 'w').map rest.take).getD rest
  if k.has 'i' then rest.map Char.toLower else rest

def uniqLines (k : Chosen) (ls : List (Octets × Bool)) : List (Octets × Bool) :=
  let runs := (ls.map (·.1)).splitBy fun a b => compared k a == compared k b
  if k.has 'D' then ended (runs.filter fun r => r.length > 1).flatten
  else
    let kept := runs.filter fun r => (!k.has 'd' || r.length > 1) && (!k.has 'u' || r.length = 1)
    ended (kept.filterMap fun r => r.head?.map fun l =>
      if k.has 'c' then padLeft 7 (Text.ofNat r.length) ++ ' ' :: l else l)

def uniq : Utility := fun args d =>
  let complaint (name : Octets) (e : Errno) : Octets :=
    if e = .isDirectory then lit "error reading " ++ alwaysQuoted name ++ lit ": " ++ e.description
    else quotedName name ++ lit ": " ++ e.description
  withOptions uniqOptions (fun k args d =>
    let wrong := [('f', "number of fields to skip"), ('s', "number of bytes to skip"),
      ('w', "number of bytes to compare")].findSome? fun (c, kind) =>
        ((k.values c).find? fun v => (Octets.nat? v).isNone).map fun v =>
          v ++ lit ": invalid " ++ lit kind
    match wrong, k.operands with
    | some words, _ => .fail 1 (d.message words)
    | none, _ :: _ :: t :: _ => d.refuse (lit "extra operand " ++ alwaysQuoted t)
    | none, _ => onLines uniqOptions 1 complaint uniqLines args d) args d

def rev : Utility :=
  onLines { plain := "" } 1
    (fun name e => lit "cannot open " ++ name ++ lit ": " ++ e.description)
    fun _ ls => ls.map fun l => (l.1.reverse, l.2)

def tac : Utility :=
  let complaint (name : Octets) (e : Errno) : Octets :=
    if e = .isDirectory then quotedName name ++ lit ": read error: Invalid argument"
    else lit "failed to open " ++ alwaysQuoted name ++ lit " for reading: " ++ e.description
  onLines { plain := "" } 1 complaint fun _ ls => ls.reverse

/-- A piece of a set description: bytes in order, a named class, one byte many times over, or a
byte that stands for itself. Without a number a byte is repeated as often as it is needed. -/
inductive SetPart where
  | bytes (t : Octets)
  | named (name : Octets) (t : Octets)
  | again (c : Char) (n : Option Nat)
  | alike (c : Char)
  deriving DecidableEq, Repr

def setByte : Octets → Option (Char × Octets)
  | [] => none
  | '\\' :: r =>
    let digits := (r.take 3).takeWhile Octets.isOctalDigit
    let digits := if Octets.octal digits > 255 then digits.take 2 else digits
    if digits ≠ [] then some (Octets.byteOf (Octets.octal digits), r.drop digits.length)
    else
      match r with
      | [] => some ('\\', [])
      | c :: rest =>
        let b := match c with
          | 'a' => '\x07'
          | 'b' => '\x08'
          | 'f' => '\x0c'
          | 'n' => '\n'
          | 'r' => '\r'
          | 't' => '\t'
          | 'v' => '\x0b'
          | _ => c
        some (b, rest)
  | c :: r => some (c, r)

def bytesBetween (a b : Char) : Octets :=
  (List.range (b.toNat + 1 - a.toNat)).map fun k => Octets.byteOf (a.toNat + k)

def upToMark (mark : Char) : Octets → Option (Octets × Octets)
  | [] => none
  | c :: ']' :: r =>
    if c = mark then some ([], r)
    else (upToMark mark (']' :: r)).map fun (t, rest) => (c :: t, rest)
  | c :: r => (upToMark mark r).map fun (t, rest) => (c :: t, rest)

def repetition? (t : Octets) : Option (Except Octets (SetPart × Octets)) := do
  let (c, r) ← setByte t
  let r ← Text.dropLead? ['*'] r
  let digits := r.takeWhile (· != ']')
  let rest ← Text.dropLead? [']'] (r.drop digits.length)
  if digits = [] then return .ok (.again c none, rest)
  else
    let n := if digits.head? = some '0' ∧ digits.all Octets.isOctalDigit then
      some (Octets.octal digits) else Octets.nat? digits
    match n with
    | some 0 => return .ok (.again c none, rest)
    | some n => return .ok (.again c (some n), rest)
    | none =>
      return .error (lit "invalid repeat count " ++ alwaysQuoted digits
        ++ lit " in [c*n] construct")

def bracketPart? (mark : Char) (t : Octets) : Option (Except Octets (SetPart × Octets)) := do
  let (name, rest) ← upToMark mark t
  if mark = ':' then
    match name, CharSet.named? name with
    | [], _ => return .error (lit "missing character class name \x27[::]\x27")
    | _, some ranges =>
      return .ok (.named name (ranges.flatMap fun x => bytesBetween x.1 x.2), rest)
    | _, none => return .error (lit "invalid character class " ++ alwaysQuoted name)
  else
    match name with
    | [] => return .error (lit "missing equivalence class character \x27[==]\x27")
    | [c] => return .ok (.alike c, rest)
    | _ =>
      return .error (name ++ lit ": equivalence class operand must be a single character")

def plainPart (t : Octets) : Except Octets (Option (SetPart × Octets)) :=
  match setByte t with
  | none => .ok none
  | some (a, rest) =>
    match rest with
    | '-' :: d :: more =>
      match setByte (d :: more) with
      | some (b, rest') =>
        if b < a then
          .error (lit "range-endpoints of \x27" ++ shown a ++ ['-'] ++ shown b
            ++ lit "\x27 are in reverse collating sequence order")
        else .ok (some (.bytes (bytesBetween a b), rest'))
      | none => .ok (some (.bytes [a], rest))
    | _ => .ok (some (.bytes [a], rest))
where
  shown (c : Char) : Octets := if isPrintable c then [c] else octalEscape c

def setParts : Nat → Octets → Except Octets (List SetPart)
  | 0, _ => .ok []
  | fuel + 1, t => do
    let special := match t with
      | '[' :: ':' :: r => (bracketPart? ':' r).or (repetition? (':' :: r))
      | '[' :: '=' :: r => (bracketPart? '=' r).or (repetition? ('=' :: r))
      | '[' :: r => repetition? r
      | _ => none
    let next ← (match special with
      | some found => found.map some
      | none => plainPart t : Except Octets (Option (SetPart × Octets)))
    match next with
    | none => return []
    | some (part, rest) => return part :: (← setParts fuel rest)

namespace SetPart

def expand (needed : Nat) : SetPart → Octets
  | bytes t | named _ t => t
  | again c n => List.replicate (n.getD needed) c
  | alike c => [c]

def isOpen : SetPart → Bool
  | again _ none => true
  | _ => false

def isNamed : SetPart → Bool
  | named _ _ => true
  | _ => false

def isCase : SetPart → Bool
  | named n _ => n == lit "lower" || n == lit "upper"
  | _ => false

def isAlike : SetPart → Bool
  | alike _ => true
  | _ => false

/-- One byte of a piece, with whether a class of letters starts with it or goes on with it. -/
def cells (needed : Nat) (p : SetPart) : List (Bool × Bool) :=
  (p.expand needed).zipIdx.map fun c => (p.isCase, c.2 == 0)

end SetPart

def inStep : List (Bool × Bool) → List (Bool × Bool) → Bool
  | _, [] => true
  | [], t => !t.any (·.1)
  | (inFirst, startsFirst) :: s, (inSecond, startsSecond) :: t =>
    (!inSecond || !startsSecond || (inFirst && startsFirst)) && inStep s t

/-- The byte that stands at the same place in the second set, whose last is repeated. -/
def translateByte (source target : Octets) (c : Char) : Char :=
  match source.reverse.idxOf? c with
  | none => c
  | some k =>
    let place := source.length - 1 - k
    (target[place]?.or target.getLast?).getD c

def squeeze (set : Octets) (last : Option Char) : Octets → Octets
  | [] => []
  | c :: r =>
    if last = some c && set.contains c then squeeze set last r else c :: squeeze set (some c) r

def trOptions : OptionSet where
  plain := "AcCdst"
  names := [("complement", 'c', .nothing), ("delete", 'd', .nothing),
    ("squeeze-repeats", 's', .nothing), ("truncate-set1", 't', .nothing)]
  leading := true

structure Mapping where
  source : Octets
  target : Octets

def mappingOf (complement truncate : Bool) (first second : List SetPart) :
    Except Octets Mapping := do
  let source := first.flatMap (·.expand 0)
  let source := if complement then
    (bytesBetween '\x00' '\xff').filter fun c => !source.contains c else source
  let needed := source.length - (second.flatMap (·.expand 0)).length
  let target := second.flatMap (·.expand needed)
  if (second.filter (·.isOpen)).length > 1 then
    throw (lit "only one [c*] repeat construct may appear in string2")
  if second.any (·.isAlike) then
    throw (lit "[=c=] expressions may not appear in string2 when translating")
  if second.any fun p => p.isNamed && !p.isCase then
    throw (lit "when translating, the only character classes that may appear in\n"
      ++ lit "string2 are \x27upper\x27 and \x27lower\x27")
  if second.any (·.isCase) ∧ ¬inStep
      (if complement then source.map fun _ => (false, false) else first.flatMap (·.cells 0))
      (second.flatMap (·.cells needed)) then
    throw (lit "misaligned [:upper:] and/or [:lower:] construct")
  if target.length < source.length ∧ ¬truncate then
    if target = [] then throw (lit "when not truncating set1, string2 must be non-empty")
    if (second.getLast?.map (·.isNamed)).getD false then
      throw (lit "when translating with string1 longer than string2,\n"
        ++ lit "the latter string must not end with a character class")
  let extended := if truncate then target.take source.length
    else target ++ List.replicate (source.length - target.length) (target.getLast?.getD '\x00')
  if complement ∧ first.any (·.isNamed) ∧
      ¬(extended.length = source.length ∧ extended.all fun c => some c == extended.head?) then
    throw (lit "when translating with complemented character classes,\n"
      ++ lit "string2 must map all characters in the domain to one")
  return ⟨if truncate then source.take target.length else source, target⟩

def countFault? (deleting squeezing : Bool) (sets : List Octets) : Option Octets :=
  let least := if deleting == squeezing then 2 else 1
  let most := if deleting && !squeezing then 1 else 2
  match sets with
  | [] => some (lit "missing operand")
  | [a] =>
    if least = 1 then none
    else
      let words := if squeezing then
          lit "Two strings must be given when both deleting and squeezing repeats."
        else lit "Two strings must be given when translating."
      some (lit "missing operand after " ++ alwaysQuoted a ++ ['\n'] ++ words)
  | [_, b] =>
    if most = 2 then none
    else
      some (lit "extra operand " ++ alwaysQuoted b
        ++ lit "\nOnly one string may be given when deleting without squeezing repeats.")
  | _ :: b :: c :: _ => some (lit "extra operand " ++ alwaysQuoted (if most = 2 then c else b))

def tr : Utility :=
  withOptions trOptions fun k _ d =>
    let complement := k.hasAny "cC"
    match countFault? (k.has 'd') (k.has 's') k.operands with
    | some words => d.refuse words
    | none =>
      let parts (t : Octets) := setParts (t.length + 1) t
      let change : Except Octets (Octets → Octets) := do
        let first ← parts ((k.operands.head?).getD [])
        if first.any (·.isOpen) then
          throw (lit "the [c*] repeat construct may not appear in string1")
        let set := first.flatMap (·.expand 0)
        let inFirst (c : Char) : Bool := set.contains c != complement
        match k.operands.drop 1 with
        | [] =>
          if k.has 'd' then return fun t => t.filter fun c => !inFirst c
          else return squeeze ((bytesBetween '\x00' '\xff').filter inFirst) none
        | second :: _ =>
          let second ← parts second
          let target := second.flatMap (·.expand 0)
          if k.has 'd' then
            if second.any (·.isOpen) then
              throw (lit "the [c*] construct may appear in string2 only when translating")
            return fun t => squeeze target none (t.filter fun c => !inFirst c)
          else
            let m ← mappingOf complement (k.has 't') first second
            return fun t =>
              let t := t.map (translateByte m.source m.target)
              if k.has 's' then squeeze m.target none t else t
      match change, d.stdin with
      | .error words, _ => .fail 1 (d.message words)
      | .ok _, .endless _ => .never
      | .ok change, .finite t => .ok (change t)

end Utility

end LayoutCheck
