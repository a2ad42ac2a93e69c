import LayoutCheck.Fault
import LayoutCheck.Host.Pattern

/-! # Utilities

What a small program needs and what it leaves behind, how it reads its options and opens what it is
told to read. Input is either all there or repeats itself without end; a program that reads the
latter to its end does not end either. A name of an option may be cut short as long as it is clear
which one is meant. -/

namespace LayoutCheck

inductive Content where
  | finite (text : Octets)
  | endless (pattern : Octets)
  deriving DecidableEq, Repr

namespace Content

def finite? : Content → Option Octets
  | finite t => some t
  | endless _ => none

def opening : Content → Octets
  | finite t => t
  | endless t => (List.replicate (4096 / max t.length 1 + 1) t).flatten

end Content

structure Write where
  toError : Bool
  text : Octets
  deriving DecidableEq, Repr

def Write.out (t : Octets) : Write := ⟨false, t⟩

def Write.err (t : Octets) : Write := ⟨true, t⟩

/-- How long a program takes: so many nanoseconds, for ever, or for ever while it writes the
same over and over. -/
inductive Lasting where
  | after (nanos : Nat)
  | never
  | flooding (pattern : Octets)
  deriving DecidableEq, Repr

structure Completion where
  writes : List Write
  status : Nat
  lasted : Lasting
  deriving DecidableEq, Repr

namespace Completion

def ok (out : Octets) : Completion := ⟨[.out out], 0, .after 0⟩

def silent (status : Nat) : Completion := ⟨[], status, .after 0⟩

def fail (status : Nat) (message : Octets) : Completion := ⟨[.err message], status, .after 0⟩

def never : Completion := ⟨[], 0, .never⟩

end Completion

structure Desk where
  called : Octets
  stdin : Content
  fromFile : Bool
  openFile : Octets → Except Errno Content

abbrev Utility := List Octets → Desk → Completion

namespace Utility

def lit (s : String) : Octets := s.toList

def needsQuote (c : Char) : Bool :=
  " !\"$&()*;<=>?[\\^|".toList.contains c || c == '\x27' || c == '\x60'

def isPlain (c : Char) : Bool :=
  c.isAlphanum || " %+,-./:_\x27@#~".toList.contains c

def isPrintable (c : Char) : Bool := ' ' ≤ c && c ≤ '~'

def octalEscape (c : Char) : Octets :=
  match c with
  | '\n' => lit "\\n"
  | '\t' => lit "\\t"
  | '\r' => lit "\\r"
  | _ =>
    let n := c.toNat
    '\\' :: [n / 64, n / 8 % 8, n % 8].map fun d => Char.ofNat (48 + d)

def singleQuoted (escaping : Bool) : Octets → Octets
  | [] => ['\x27']
  | c :: r =>
    if isPrintable c then
      (if escaping then ['\x27', '\x27'] else [])
        ++ (if c = '\x27' then lit "\x27\\\x27\x27" else [c]) ++ singleQuoted false r
    else
      (if escaping then [] else lit "\x27$\x27") ++ octalEscape c ++ singleQuoted true r

def alwaysQuoted (t : Octets) : Octets :=
  if t.contains '\x27' && t.all isPlain then ['\x22'] ++ t ++ ['\x22']
  else '\x27' :: singleQuoted false t

def quotedName (t : Octets) : Octets :=
  let first := t.head?.map fun c => c == '#' || c == '~'
  if t = [] || t.any (fun c => needsQuote c || c == ':' || !isPrintable c) || first.getD false then
    alwaysQuoted t
  else t

end Utility

namespace Desk

open Utility (lit)

def message (d : Desk) (words : Octets) : Octets := d.called ++ lit ": " ++ words ++ ['\n']

def refuse (d : Desk) (words : Octets) : Completion :=
  .fail 1 (d.message words ++ lit "Try \x27" ++ d.called
    ++ lit " --help\x27 for more information.\n")

def invalidOption (d : Desk) (c : Char) : Completion :=
  d.refuse (lit "invalid option -- \x27" ++ [c] ++ ['\x27'])

end Desk

namespace Utility

/-- What follows an option: nothing, a value, or a value that has to be in the same word. -/
inductive Takes where
  | nothing
  | value
  | rest
  deriving DecidableEq, Repr

/-- The options that a program knows. A name stands for a letter, which need not be an option
itself. With `leading` options only come in front of the operands. The value of an attached
letter is what is left of its word. -/
structure OptionSet where
  plain : String
  valued : String := ""
  attached : String := ""
  names : List (String × Char × Takes) := []
  leading : Bool := false

inductive OptionFault where
  | letter (c : Char)
  | noValue (c : Char)
  | name (t : Octets)
  | ambiguous (t : Octets) (names : List String)
  | noNamedValue (name : String)
  | extraValue (name : String)

structure Chosen where
  options : List (Char × Octets)
  operands : List Octets

namespace Chosen

def has (k : Chosen) (c : Char) : Bool := k.options.any (·.1 == c)

def hasAny (k : Chosen) (letters : String) : Bool :=
  k.options.any fun o => letters.toList.contains o.1

def values (k : Chosen) (c : Char) : List Octets :=
  k.options.filterMap fun o => if o.1 = c then some o.2 else none

def value? (k : Chosen) (c : Char) : Option Octets := (k.values c).getLast?

def add (k : Chosen) (c : Char) (v : Octets) : Chosen := { k with options := (c, v) :: k.options }

end Chosen

namespace OptionSet

def letters (o : OptionSet) : Octets → Except OptionFault (List (Char × Octets) × Option Char)
  | [] => .ok ([], none)
  | c :: r =>
    if o.plain.toList.contains c then do
      let (more, waiting) ← o.letters r
      return ((c, []) :: more, waiting)
    else if o.valued.toList.contains c then
      .ok (if r = [] then ([], some c) else ([(c, r)], none))
    else if o.attached.toList.contains c then .ok ([(c, r)], none)
    else .error (.letter c)

def named (o : OptionSet) (t : Octets) : Except OptionFault (String × Char × Takes) :=
  match o.names.find? fun n => n.1.toList == t with
  | some n => .ok n
  | none =>
    match o.names.filter fun n => Text.startsWith t n.1.toList with
    | [] => .error (.name t)
    | n :: others =>
      if others.all fun m => m.2 == n.2 then .ok n
      else .error (.ambiguous t ((n :: others).map (·.1)))

def read (o : OptionSet) : List Octets → Except OptionFault Chosen
  | [] => .ok ⟨[], []⟩
  | ['-', '-'] :: r => .ok ⟨[], r⟩
  | ('-' :: '-' :: t) :: r => do
    let stem := t.takeWhile (· != '=')
    let given := if stem.length < t.length then some (t.drop (stem.length + 1)) else none
    let (name, c, takes) ← (o.named stem).mapError fun e =>
      match e with
      | .name _ => .name t
      | e => e
    match takes, given, r with
    | .nothing, none, r => return (← o.read r).add c []
    | .nothing, some _, _ => throw (.extraValue name)
    | .rest, v, r => return (← o.read r).add c (v.getD [])
    | .value, some v, r => return (← o.read r).add c v
    | .value, none, v :: r => return (← o.read r).add c v
    | .value, none, [] => throw (.noNamedValue name)
  | ('-' :: c :: t) :: r => do
    let (found, waiting) ← o.letters (c :: t)
    match waiting, r with
    | none, r => do
      let k ← o.read r
      return { k with options := found ++ k.options }
    | some c, v :: r => do
      let k ← o.read r
      return { k with options := found ++ (c, v) :: k.options }
    | some c, [] => throw (.noValue c)
  | operand :: r =>
    if o.leading then .ok ⟨[], operand :: r⟩
    else do
      let k ← o.read r
      return { k with operands := operand :: k.operands }

end OptionSet

def OptionFault.words : OptionFault → Octets
  | letter c => lit "invalid option -- \x27" ++ [c, '\x27']
  | noValue c => lit "option requires an argument -- \x27" ++ [c, '\x27']
  | name t => lit "unrecognized option \x27--" ++ t ++ ['\x27']
  | ambiguous t names =>
    lit "option \x27--" ++ t ++ lit "\x27 is ambiguous; possibilities:"
      ++ names.flatMap fun n => lit " \x27--" ++ n.toList ++ ['\x27']
  | noNamedValue n => lit "option \x27--" ++ n.toList ++ lit "\x27 requires an argument"
  | extraValue n => lit "option \x27--" ++ n.toList ++ lit "\x27 doesn\x27t allow an argument"

def withOptions (o : OptionSet) (run : Chosen → Utility) : Utility := fun args d =>
  match o.read args with
  | .ok k => run k args d
  | .error e => d.refuse e.words

/-- The content behind an operand; a dash is the input. -/
def openOperand (d : Desk) (name : Octets) : Except Errno Content :=
  if name = ['-'] then .ok d.stdin else d.openFile name

def operandsOrInput (names : List Octets) : List Octets := if names = [] then [['-']] else names

def padLeft (width : Nat) (t : Octets) : Octets := List.replicate (width - t.length) ' ' ++ t

def numberLines (skipBlank : Bool) (n : Nat) : List (Octets × Bool) → Octets
  | [] => []
  | l :: ls =>
    if skipBlank && l.1.isEmpty then Octets.ofLine l ++ numberLines skipBlank n ls
    else padLeft 6 (Text.ofNat n) ++ ['\t'] ++ Octets.ofLine l ++ numberLines skipBlank (n + 1) ls

def squeezeBlank (seen : Bool) : List (Octets × Bool) → List (Octets × Bool)
  | [] => []
  | l :: ls =>
    if l.1.isEmpty && seen then squeezeBlank true ls else l :: squeezeBlank l.1.isEmpty ls

/-- A byte made visible: controls with a caret, high bytes behind `M-`. -/
def visibleByte (tabs rest : Bool) (c : Char) : Octets :=
  if c = '\t' then (if tabs then lit "^I" else [c])
  else if !rest then [c]
  else
    let (lead, n) := if c.toNat ≥ 128 then (lit "M-", c.toNat - 128) else ([], c.toNat)
    lead ++ (if n < 32 then ['^', Char.ofNat (n + 64)]
      else if n = 127 then lit "^?" else [Char.ofNat n])

def catLetters (letters : Octets) : Octets :=
  letters.flatMap fun c =>
    if c = 'A' then lit "vET" else if c = 'e' then lit "vE" else if c = 't' then lit "vT" else [c]

def catShow (options : Octets) (t : Octets) : Octets :=
  let visible (l : Octets) : Octets :=
    l.flatMap (visibleByte (options.contains 'T') (options.contains 'v'))
  let ls := (Octets.lines t).map fun l => (visible l.1, l.2)
  let ls := if options.contains 's' then squeezeBlank false ls else ls
  let ls := if options.contains 'E' then
    ls.map fun l => if l.2 then (l.1 ++ ['$'], true) else l else ls
  if options.contains 'b' then numberLines true 1 ls
  else if options.contains 'n' then numberLines false 1 ls
  else ls.flatMap Octets.ofLine

def catOptions : OptionSet where
  plain := "AbeEnstTuv"
  names := [("number-nonblank", 'b', .nothing), ("number", 'n', .nothing),
    ("squeeze-blank", 's', .nothing), ("show-nonprinting", 'v', .nothing),
    ("show-ends", 'E', .nothing), ("show-tabs", 'T', .nothing), ("show-all", 'A', .nothing)]

def cat : Utility :=
  withOptions catOptions fun k _ d =>
    let letters := catLetters (k.options.map (·.1))
    let pieces := (operandsOrInput k.operands).map fun name => (name, openOperand d name)
    let flood := pieces.findSome? fun p => match p.2 with
      | .ok (.endless t) => some t
      | _ => none
    match flood with
    | some t => ⟨[], 0, .flooding t⟩
    | none =>
      let writes := pieces.map fun (name, c) =>
        match c with
        | .ok (.finite t) => Write.out t
        | .ok (.endless _) => Write.out []
        | .error e => Write.err (d.message (quotedName name ++ lit ": " ++ e.description))
      let status := if writes.any (·.toError) then 1 else 0
      if letters.any fun c => c != 'u' then
        let text := (writes.filter (!·.toError)).flatMap (·.text)
        ⟨writes.filter (·.toError) ++ [.out (catShow letters text)], status, .after 0⟩
      else ⟨writes, status, .after 0⟩

def countWords (inWord : Bool) : Octets → Nat
  | [] => 0
  | c :: r =>
    let blank := c == ' ' || ('\t' ≤ c && c ≤ '\r')
    if blank then countWords false r
    else (if inWord then 0 else 1) + countWords true r

/-- The width of the widest line. A tabulator goes on to the next stop. -/
def widestLine (t : Octets) : Nat :=
  (t.foldl (fun (acc : Nat × Nat) c =>
    let column :=
      if c = '\n' ∨ c = '\r' ∨ c = '\x0c' then 0
      else if c = '\t' then (acc.2 / 8 + 1) * 8
      else if isPrintable c then acc.2 + 1 else acc.2
    (max acc.1 column, column)) (0, 0)).1

structure Counts where
  lines : Nat
  words : Nat
  bytes : Nat
  widest : Nat

namespace Counts

def zero : Counts := ⟨0, 0, 0, 0⟩

def of (t : Octets) : Counts := ⟨t.count '\n', countWords false t, t.length, widestLine t⟩

def add (a b : Counts) : Counts :=
  ⟨a.lines + b.lines, a.words + b.words, a.bytes + b.bytes, max a.widest b.widest⟩

def chosen (k : Chosen) (n : Counts) : List Nat :=
  if k.options = [] then [n.lines, n.words, n.bytes]
  else
    [('l', n.lines), ('w', n.words), ('m', n.bytes), ('c', n.bytes), ('L', n.widest)].filterMap
      fun (c, n) => if k.has c then some n else none

end Counts

def countRow (width : Nat) (ns : List Nat) (name : Octets) : Octets :=
  Text.joinWith [' '] (ns.map fun n => padLeft width (Text.ofNat n))
    ++ (if name = [] then [] else ' ' :: name) ++ ['\n']

def wcOptions : OptionSet where
  plain := "clmwL"
  names := [("bytes", 'c', .nothing), ("chars", 'm', .nothing), ("lines", 'l', .nothing),
    ("words", 'w', .nothing), ("max-line-length", 'L', .nothing)]

def wc : Utility :=
  withOptions wcOptions fun k _ d =>
    let files := (operandsOrInput k.operands).map fun name => (name, openOperand d name)
    if files.any fun p => match p.2 with
      | .ok (.endless _) => true
      | _ => false then .never
    else
      let sizes := files.map fun p => match p.2 with
        | .ok (.finite t) => Counts.of t
        | _ => .zero
      let total := sizes.foldl Counts.add .zero
      let single := (total.chosen k).length = 1 && files.length = 1
      let isDirectory (f : Octets × Except Errno Content) : Bool := match f.2 with
        | .error e => e == .isDirectory
        | .ok _ => false
      let isOdd (f : Octets × Except Errno Content) : Bool :=
        isDirectory f || (f.1 == ['-'] && !d.fromFile)
      let digits := (Text.ofNat total.bytes).length
      let width := if single then 1 else if files.any isOdd then max 7 digits else digits
      let row (name : Octets) (n : Counts) : Write :=
        .out (countRow width (n.chosen k) (if k.operands = [] then [] else name))
      let writes := (List.zip files sizes).flatMap fun (f, n) =>
        match f.2 with
        | .error e =>
          .err (d.message (if f.1 = [] then lit "invalid zero-length file name"
            else quotedName f.1 ++ lit ": " ++ e.description))
            :: (if isDirectory f then [row f.1 n] else [])
        | .ok _ => [row f.1 n]
      let sum := if files.length > 1 then [row (lit "total") total] else []
      ⟨writes ++ sum, if writes.any (·.toError) then 1 else 0, .after 0⟩

end Utility

end LayoutCheck
