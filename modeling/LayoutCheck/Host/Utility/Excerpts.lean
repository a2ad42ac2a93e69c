import LayoutCheck.Host.Pattern
import LayoutCheck.Host.Utility

/-! # Programs that take parts of texts

`cut` takes bytes or fields out of every line, `head` and `tail` the first or the last lines or bytes,
`grep` the lines that hold a match, with lines around them if asked. -/

namespace LayoutCheck

namespace Utility

/-- What `cut` is asked for; ranges are of bytes or of fields, and may have no end. -/
structure Cutting where
  byFields : Bool
  ranges : List (Nat × Option Nat)
  delimiter : Char
  onlyDelimited : Bool
  complement : Bool
  joint : Option Octets

structure RangeStart where
  low : Option Nat
  dashed : Bool
  high : Option Nat

namespace RangeStart

def none : RangeStart := ⟨.none, false, .none⟩

def fromOne (fields : Bool) : Octets :=
  lit (if fields then "fields" else "byte/character positions") ++ lit " are numbered from 1"

def add (s : RangeStart) (c : Char) : RangeStart :=
  let more (n : Option Nat) : Option Nat := some (n.getD 0 * 10 + (c.toNat - 48))
  if s.dashed then { s with high := more s.high } else { s with low := more s.low }

def finish (fields : Bool) (s : RangeStart) : Except Octets (Nat × Option Nat) :=
  if s.dashed then
    if s.low = .none ∧ s.high = .none then .error (lit "invalid range with no endpoint: -")
    else if (s.high.map fun h => decide (h < s.low.getD 1)).getD false then
      .error (lit "invalid decreasing range")
    else .ok (s.low.getD 1, s.high)
  else
    match s.low with
    | .none | some 0 => .error (fromOne fields)
    | some n => .ok (n, some n)

def read (fields : Bool) (s : RangeStart) : Octets → Except Octets (List (Nat × Option Nat))
  | [] => do return [← s.finish fields]
  | c :: r =>
    if c = '-' then
      if s.dashed then
        .error (lit (if fields then "invalid field range" else "invalid byte or character range"))
      else if s.low = some 0 then .error (fromOne fields)
      else read fields { s with dashed := true } r
    else if c = ',' ∨ c = ' ' ∨ c = '\t' then do
      let range ← s.finish fields
      return range :: (← read fields .none r)
    else if c.isDigit then read fields (s.add c) r
    else
      .error (lit (if fields then "invalid field value " else "invalid byte/character position ")
        ++ alwaysQuoted (c :: r))

end RangeStart

def inRanges (ranges : List (Nat × Option Nat)) (k : Nat) : Bool :=
  ranges.any fun (low, high) => low ≤ k && (high.map fun h => decide (k ≤ h)).getD true

def cutLine (k : Cutting) (t : Octets) : Option Octets :=
  let wanted (n : Nat) : Bool := inRanges k.ranges (n + 1) != k.complement
  if k.byFields then
    if ¬t.contains k.delimiter then (if k.onlyDelimited then none else some t)
    else
      let fields := (Text.splitOn k.delimiter t).zipIdx.filter fun f => wanted f.2
      some (Text.joinWith (k.joint.getD [k.delimiter]) (fields.map (·.1)))
  else
    let parts := (t.zipIdx.splitBy fun a b => wanted a.2 == wanted b.2).filter fun part =>
      (part.head?.map fun c => wanted c.2).getD false
    some (Text.joinWith (k.joint.getD []) (parts.map fun part => part.map (·.1)))

def cutOptions : OptionSet where
  plain := "snz"
  valued := "bcfd"
  names := [("bytes", 'b', .value), ("characters", 'c', .value), ("fields", 'f', .value),
    ("delimiter", 'd', .value), ("only-delimited", 's', .nothing),
    ("zero-terminated", 'z', .nothing), ("complement", 'C', .nothing),
    ("output-delimiter", 'D', .value)]

def readCutting (k : Chosen) : Except Octets Cutting := do
  let lists := k.options.filter fun o => "bcf".toList.contains o.1
  match lists with
  | [] => throw (lit "you must specify a list of bytes, characters, or fields")
  | _ :: _ :: _ => throw (lit "only one list may be specified")
  | [(c, list)] =>
    let fields := c == 'f'
    let delimiter := (k.value? 'd').getD ['\t']
    if delimiter.length > 1 then throw (lit "the delimiter must be a single character")
    if ¬fields ∧ k.has 'd' then
      throw (lit "an input delimiter may be specified only when operating on fields")
    if ¬fields ∧ k.has 's' then
      throw (lit "suppressing non-delimited lines makes sense\n\tonly when operating on fields")
    let ranges ← RangeStart.none.read fields list
    return ⟨fields, ranges, delimiter.headD '\x00', k.has 's', k.has 'C', k.value? 'D'⟩

def cut : Utility :=
  withOptions cutOptions fun k _ d =>
    match readCutting k with
    | .error words => d.refuse words
    | .ok cutting =>
      let parts := (operandsOrInput k.operands).map fun name => (name, openOperand d name)
      if parts.any fun p => match p.2 with
        | .ok (.endless _) => true
        | _ => false then .never
      else
        let swap (t : Octets) : Octets := if k.has 'z' then Octets.swapEnds t else t
        let writes := parts.map fun (name, c) =>
          match c with
          | .ok c =>
            let ls := Octets.lines (swap (c.finite?.getD []))
            Write.out (swap (ls.flatMap fun l => ((cutLine cutting l.1).map (· ++ ['\n'])).getD []))
          | .error e => Write.err (d.message (quotedName name ++ lit ": " ++ e.description))
        ⟨writes, if writes.any (·.toError) then 1 else 0, .after 0⟩

structure Extent where
  bytes : Bool
  count : Nat
  /-- A minus for `head`, a plus for `tail`. -/
  signed : Bool

structure Excerpt where
  extent : Extent
  titles : Option Bool
  nul : Bool
  follow : Bool
  names : List Octets

def unit? (t : Octets) : Option Nat :=
  match String.ofList t with
  | "" => some 1
  | "b" => some 512
  | "k" | "K" | "KiB" => some 1024
  | "kB" | "KB" => some 1000
  | "m" | "M" | "MiB" => some (Nat.pow 1024 2)
  | "MB" => some (Nat.pow 1000 2)
  | "G" | "GiB" => some (Nat.pow 1024 3)
  | "GB" => some (Nat.pow 1000 3)
  | _ => none

def counted? (t : Octets) : Option Nat := do
  let digits := t.takeWhile Char.isDigit
  let n ← Octets.nat? digits
  let unit ← unit? (t.drop digits.length)
  return n * unit

def extentOf? (bytes : Bool) (sign : Char) (t : Octets) : Option Extent :=
  match t with
  | c :: r =>
    if c = sign then (counted? r).map fun n => ⟨bytes, n, true⟩
    else (counted? (if c = '-' || c = '+' then r else t)).map fun n => ⟨bytes, n, false⟩
  | [] => none

def excerptOptions (follow : Bool) : OptionSet where
  plain := if follow then "qvzfF" else "qvz"
  valued := "cn"
  names := [("bytes", 'c', .value), ("lines", 'n', .value), ("quiet", 'q', .nothing),
    ("silent", 'q', .nothing), ("verbose", 'v', .nothing), ("zero-terminated", 'z', .nothing)]

/-- Settings that stand directly behind a number, as in `-5c`. What cannot be read comes back. -/
def attached (bytes : Bool) (unit : Nat) (q : Excerpt) : Octets → Except Char Excerpt
  | [] => .ok { q with extent := { q.extent with bytes := bytes, count := q.extent.count * unit } }
  | 'c' :: r => attached true 1 q r
  | 'b' :: r => attached true 512 q r
  | 'k' :: r => attached true 1024 q r
  | 'm' :: r => attached true (Nat.pow 1024 2) q r
  | 'l' :: r => attached false 1 q r
  | 'q' :: r => attached bytes unit { q with titles := some false } r
  | 'v' :: r => attached bytes unit { q with titles := some true } r
  | 'z' :: r => attached bytes unit { q with nul := true } r
  | c :: _ => .error c

def Excerpt.take (sign : Char) (q : Excerpt) : List (Char × Octets) → Except Octets Excerpt
  | [] => .ok q
  | (c, v) :: r =>
    match c with
    | 'q' => Excerpt.take sign { q with titles := some false } r
    | 'v' => Excerpt.take sign { q with titles := some true } r
    | 'z' => Excerpt.take sign { q with nul := true } r
    | 'f' | 'F' => Excerpt.take sign { q with follow := true } r
    | c =>
      match extentOf? (c == 'c') sign v with
      | some e => Excerpt.take sign { q with extent := e } r
      | none =>
        let kind := if c = 'c' then lit "bytes" else lit "lines"
        let shown := if sign = '-' ∧ v.head? = some '-' then v.drop 1 else v
        .error (lit "invalid number of " ++ kind ++ lit ": " ++ alwaysQuoted shown)

def isCount (t : Octets) : Bool :=
  match t with
  | '-' :: c :: _ => c.isDigit
  | _ => false

/-- Reads the arguments. A count with nothing but a dash in front has to come first. -/
def readExcerpt (sign : Char) (args : List Octets) (d : Desk) : Except Completion Excerpt := do
  let begun : Excerpt := ⟨⟨false, 10, false⟩, none, false, false, []⟩
  let (begun, args) ← (match args with
    | t :: r =>
      let digits := (t.drop 1).takeWhile Char.isDigit
      let old := { begun with extent := ⟨false, (Octets.nat? digits).getD 0, t.head? == some '+'⟩ }
      let isOld := isCount t ∨ (sign = '+' ∧ r.length ≤ 1 ∧ t.head? = some '+' ∧ digits ≠ [])
      if ¬isOld then .ok (begun, args)
      else
        let invalid := Completion.fail 1 (d.message (lit "option used in invalid context -- "
          ++ digits.take 1))
        match attached false 1 old (t.drop (digits.length + 1)) with
        | .ok q => if sign = '+' ∧ r.length > 1 then .error invalid else .ok (q, r)
        | .error c =>
          .error (if sign = '+' then invalid
            else d.refuse (lit "invalid trailing option -- " ++ [c]))
    | [] => .ok (begun, []) : Except Completion (Excerpt × List Octets))
  let k ← ((excerptOptions (sign == '+')).read args).mapError fun e =>
    match e with
    | .letter c =>
      if ¬c.isDigit then d.refuse e.words
      else if sign = '+' then
        .fail 1 (d.message (lit "option used in invalid context -- " ++ [c]))
      else d.refuse (lit "invalid trailing option -- " ++ [c])
    | e => d.refuse e.words
  match begun.take sign k.options with
  | .ok q => return { q with names := k.operands }
  | .error words => throw (.fail 1 (d.message words))

def headText (e : Extent) (t : Octets) : Octets :=
  if e.bytes then t.take (if e.signed then t.length - e.count else e.count)
  else
    let ls := Octets.lines t
    (ls.take (if e.signed then ls.length - e.count else e.count)).flatMap Octets.ofLine

def tailText (e : Extent) (t : Octets) : Octets :=
  if e.bytes then t.drop (if e.signed then e.count - 1 else t.length - e.count)
  else
    let ls := Octets.lines t
    (ls.drop (if e.signed then e.count - 1 else ls.length - e.count)).flatMap Octets.ofLine

/-- An endless content has a head of so many bytes or lines, and nothing else that ends. -/
def headContent (e : Extent) : Content → Option Octets
  | .finite t => some (headText e t)
  | .endless t =>
    if e.signed || t = [] || (!e.bytes && !t.contains '\n') then none
    else some (headText e (List.replicate e.count t).flatten)

def shownName (name : Octets) : Octets := if name = ['-'] then lit "standard input" else name

/-- What is written for one file: perhaps its title, then its part. `begun` tells whether
another title came before. -/
def excerptOf (d : Desk) (titled begun : Bool) (name : Octets) (part : Except Errno Octets) :
    List Write :=
  let gap := if begun then ['\n'] else []
  let line := gap ++ lit "==> " ++ shownName name ++ lit " <==\n"
  let title := if titled then [Write.out line] else []
  let quoted := alwaysQuoted (shownName name)
  match part with
  | .ok t => title ++ [.out t]
  | .error .isDirectory =>
    title ++ [.err (d.message (lit "error reading " ++ quoted ++ lit ": "
      ++ Errno.isDirectory.description))]
  | .error e =>
    [.err (d.message (lit "cannot open " ++ quoted ++ lit " for reading: " ++ e.description))]

def excerpt (sign : Char) (cut : Extent → Content → Option Octets) : Utility := fun args d =>
  match readExcerpt sign args d with
  | .error c => c
  | .ok q =>
    let names := operandsOrInput q.names
    let titled := q.titles.getD (names.length > 1)
    let swapped (c : Content) : Content :=
      if q.nul then
        match c with
        | .finite t => .finite (Octets.swapEnds t)
        | .endless t => .endless (Octets.swapEnds t)
      else c
    let taken (c : Content) : Option Octets :=
      (cut q.extent (swapped c)).map fun t => if q.nul then Octets.swapEnds t else t
    let parts := names.map fun name => (name, (openOperand d name).map taken)
    if q.follow ∨ parts.any fun p => match p.2 with
      | .ok none => true
      | _ => false then .never
    else
      let writes := parts.foldl (fun (ws : List Write) (name, part) =>
        ws ++ excerptOf d titled (ws.any (!·.toError)) name (part.map fun t => t.getD [])) []
      ⟨writes, if writes.any (·.toError) then 1 else 0, .after 0⟩

def head : Utility := excerpt '-' headContent

def tail : Utility := excerpt '+' fun e c => c.finite?.map (tailText e)

def grepOptions : OptionSet where
  plain := "EFGPabchHiyLlnoqrRsTUvwxz0123456789"
  valued := "efmABC"
  names := [("regexp", 'e', .value), ("file", 'f', .value), ("max-count", 'm', .value),
    ("after-context", 'A', .value), ("before-context", 'B', .value), ("context", 'C', .value),
    ("extended-regexp", 'E', .nothing), ("fixed-strings", 'F', .nothing),
    ("basic-regexp", 'G', .nothing), ("perl-regexp", 'P', .nothing),
    ("ignore-case", 'i', .nothing), ("invert-match", 'v', .nothing),
    ("word-regexp", 'w', .nothing), ("line-regexp", 'x', .nothing), ("count", 'c', .nothing),
    ("files-without-match", 'L', .nothing), ("files-with-matches", 'l', .nothing),
    ("only-matching", 'o', .nothing), ("quiet", 'q', .nothing), ("silent", 'q', .nothing),
    ("no-messages", 's', .nothing), ("byte-offset", 'b', .nothing),
    ("with-filename", 'H', .nothing), ("no-filename", 'h', .nothing),
    ("line-number", 'n', .nothing), ("text", 'a', .nothing), ("null-data", 'z', .nothing),
    ("line-buffered", 'a', .nothing), ("color", 'a', .rest), ("colour", 'a', .rest)]

/-- What `grep` is asked for. Without numbers of lines around the wanted ones there are no
marks between groups either. -/
structure Search where
  chosen : Chosen
  patterns : List Regex
  most : Option Nat
  before : Option Nat
  after : Option Nat
  named : Bool

structure Found where
  number : Nat
  offset : Nat
  text : Octets
  wanted : Bool

def literalRegex (t : Octets) : Regex := t.foldr (fun c r => .seq (.byte c) r) .empty

def searchRegex (k : Chosen) (p : Octets) : Except Regex.Fault Regex := do
  let r ← if k.has 'F' then .ok (literalRegex p) else Regex.read (k.hasAny "EP") p
  return if k.has 'x' then .seq .lineStart (.seq r .lineEnd)
    else if k.has 'w' then .seq .noWordBefore (.seq r .noWordAfter) else r

namespace Search

def mode (s : Search) : Regex.Mode := ⟨s.chosen.hasAny "iy", false⟩

def linesOf (s : Search) (t : Octets) : List Found :=
  let t := if s.chosen.has 'z' then Octets.swapEnds t else t
  let rec number (k offset : Nat) : List (Octets × Bool) → List Found
    | [] => []
    | l :: ls =>
      let hit := s.patterns.any (·.matchesIn s.mode l.1) != s.chosen.has 'v'
      ⟨k, offset, l.1, hit⟩ :: number (k + 1) (offset + l.1.length + 1) ls
  number 1 0 (Octets.lines t)

def limited (most : Nat) : List Found → List Found
  | [] => []
  | f :: fs =>
    if ¬f.wanted then f :: limited most fs
    else { f with wanted := decide (0 < most) } :: limited (most - 1) fs

/-- Lines that are shown: the wanted ones, and so many before and after each. `since` is how
many lines ago the last wanted one was. -/
def around (before after : Nat) (since : Option Nat) : List Found → List Found
  | [] => []
  | f :: fs =>
    let since := if f.wanted then some 0 else since.map (· + 1)
    let near := (since.map fun n => decide (n ≤ after)).getD false
      || (fs.take before).any (·.wanted)
    let rest := around before after since fs
    if near then f :: rest else rest

def matchesOf (s : Search) (r : Regex) : Nat → Octets → Octets → List (Nat × Octets)
  | 0, _, _ => []
  | fuel + 1, before, t =>
    match r.find? s.mode before t with
    | none => []
    | some m =>
      match m.matched, m.after with
      | [], [] => []
      | [], c :: rest => matchesOf s r fuel (c :: m.before.reverse) rest
      | own, after =>
        (m.before.length, own) :: matchesOf s r fuel (own.reverse ++ m.before.reverse) after

def row (s : Search) (name : Octets) (f : Found) : Octets :=
  let mark := if f.wanted then ':' else '-'
  let numbered (wanted : Bool) (n : Nat) : Octets :=
    if wanted then Text.ofNat n ++ [mark] else []
  let lead (offset : Nat) : Octets := (if s.named then name ++ [mark] else [])
    ++ numbered (s.chosen.has 'n') f.number ++ numbered (s.chosen.has 'b') (f.offset + offset)
  let ended (t : Octets) : Octets :=
    if s.chosen.has 'z' then Octets.swapEnds t ++ ['\x00'] else t ++ ['\n']
  if ¬s.chosen.has 'o' then ended (lead 0 ++ f.text)
  else if ¬f.wanted ∨ s.chosen.has 'v' then []
  else
    (s.patterns.flatMap fun r => s.matchesOf r (f.text.length + 1) [] f.text).flatMap
      fun (place, own) => ended (lead place ++ own)

def rows (s : Search) (name : Octets) (last : Option Nat) : List Found → Octets
  | [] => []
  | f :: fs =>
    let apart := (last.map fun n => decide (n + 1 ≠ f.number)).getD false
    let gap := if apart && (s.before.isSome || s.after.isSome) then lit "--\n" else []
    gap ++ s.row name f ++ rows s name (some f.number) fs

def report (s : Search) (name : Octets) (begun : Bool) (t : Octets) : Octets × Bool :=
  let all := s.linesOf t
  let kept := (s.most.map fun n => limited n all).getD all
  let count := kept.countP (·.wanted)
  let any := count ≠ 0
  let shown :=
    if s.chosen.has 'q' then []
    else if s.chosen.has 'l' then (if any then name ++ ['\n'] else [])
    else if s.chosen.has 'L' then (if any then [] else name ++ ['\n'])
    else if s.chosen.has 'c' then
      (if s.named then name ++ [':'] else []) ++ Text.ofNat count ++ ['\n']
    else
      s.rows name (if begun then some 0 else none)
        (around (s.before.getD 0) (s.after.getD 0) none kept)
  (shown, any)

end Search

def contextOf (k : Chosen) (letter : Char) : Except Octets (Option Nat) := do
  let own ← (k.value? letter).mapM number
  let both ← (k.value? 'C').mapM number
  let digits := (k.options.map (·.1)).filter Char.isDigit
  return own.or (both.or (Octets.nat? digits))
where
  number (t : Octets) : Except Octets Nat :=
    match Octets.nat? t with
    | some n => .ok n
    | none => .error (t ++ lit ": invalid context length argument")

def patternsOf (k : Chosen) (d : Desk) : Except Octets (List Octets × List Octets) := do
  let fromFiles ← (k.values 'f').mapM fun name =>
    match openOperand d name with
    | .ok c => .ok ((Octets.lines (c.finite?.getD [])).map (·.1))
    | .error e => .error (name ++ lit ": " ++ e.description)
  let given := (k.values 'e').flatMap (Text.splitOn '\n')
  if k.hasAny "ef" then return (given ++ fromFiles.flatten, k.operands)
  else return (((k.operands.head?).map (Text.splitOn '\n')).getD [], k.operands.drop 1)

def readSearch (k : Chosen) (patterns : List Octets) (files : Nat) : Except Octets Search := do
  let before ← contextOf k 'B'
  let after ← contextOf k 'A'
  let most ← (k.value? 'm').mapM fun t =>
    match Octets.nat? t with
    | some n => .ok n
    | none => .error (lit "invalid max count")
  let rs ← (patterns.mapM (searchRegex k)).mapError fun e => e.words.toList
  let naming := (k.options.map (·.1)).filter fun c => c == 'H' || c == 'h'
  let named := (naming.getLast?.map (· == 'H')).getD (files > 1)
  return ⟨k, rs, most, before, after, named⟩

/-- Searches one file after the other. Only the start of an endless one is looked at. -/
def searchFiles (s : Search) (d : Desk) (parts : List (Octets × Except Errno Content)) :
    List Write × Bool :=
  parts.foldl (fun (acc : List Write × Bool) (name, c) =>
    let shown := if name = ['-'] then lit "(standard input)" else name
    match c with
    | .error e =>
      if s.chosen.has 's' then (acc.1 ++ [.err []], acc.2)
      else (acc.1 ++ [.err (d.message (name ++ lit ": " ++ e.description))], acc.2)
    | .ok c =>
      let begun := acc.1.any fun w => !w.toError && !w.text.isEmpty
      let (out, any) := s.report shown begun c.opening
      (acc.1 ++ [.out out], acc.2 || any)) ([], false)

def grep : Utility := fun args d =>
  let usage := lit "Usage: " ++ d.called ++ lit " [OPTION]... PATTERNS [FILE]...\nTry \x27"
    ++ d.called ++ lit " --help\x27 for more information.\n"
  match grepOptions.read args with
  | .error e => .fail 2 (d.message e.words ++ usage)
  | .ok k =>
    if k.operands = [] ∧ ¬k.hasAny "ef" then .fail 2 usage
    else
      match (patternsOf k d).bind fun (patterns, names) =>
        (readSearch k patterns names.length).map (·, names) with
      | .error words => .fail 2 (d.message words)
      | .ok (s, names) =>
        let parts := (operandsOrInput names).map fun name => (name, openOperand d name)
        let isEndless := parts.any fun p => match p.2 with
          | .ok (.endless _) => true
          | _ => false
        let (writes, any) := searchFiles s d parts
        let stopsEarly := any && (s.most.isSome || k.hasAny "qlL")
        if isEndless ∧ ¬stopsEarly then .never
        else
          let status := if writes.any (·.toError) && !(any && k.has 'q') then 2
            else if any then 0 else 1
          ⟨writes, status, .after 0⟩

end Utility

end LayoutCheck
