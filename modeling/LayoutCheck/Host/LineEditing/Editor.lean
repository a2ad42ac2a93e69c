import LayoutCheck.Host.FileTree
import LayoutCheck.Host.LineEditing.Script
import LayoutCheck.Host.Utility

/-! # Editing lines

Runs an editing script on the lines of a text. `sed` has options, and edits files in place if asked. -/

namespace LayoutCheck

namespace LineEditing

abbrev Line := Octets × Bool

inductive Step where
  | goOn (at_ : List LineCommand)
  | endCycle
  | newCycle
  | sameCycle
  | stop (printing : Bool)

/-- An editor in the middle of a text. `ranges` holds the open ranges by the index of their
command, with their last line if it is known; `done` those that can only be opened anew.
`shown` is what has been written, latest first. -/
structure Editor where
  quiet : Bool
  terminator : Char
  name : Octets
  openFile : Octets → Option Octets
  space : Octets
  ended : Bool
  held : Octets
  heldEnded : Bool
  width : Nat
  number : Nat
  rest : List Line
  ranges : List (Nat × Option Nat)
  queued : List Octets
  replaced : Bool
  lastPattern : Option Regex
  shown : List Octets
  complete : Bool
  status : Nat
  lost : Bool

namespace Editor

/-- Writes. A line that came without its newline gets it as soon as more follows. -/
def add (e : Editor) (t : Octets) (ended : Bool) : Editor :=
  let gap := if e.complete then [] else [[e.terminator]]
  { e with
    shown := (t ++ if ended then [e.terminator] else []) :: gap ++ e.shown, complete := ended }

def show_ (e : Editor) (t : Octets) : Editor := e.add t e.ended

def addRaw (e : Editor) (t : Octets) : Editor := { e.add t false with complete := true }

/-- Writes a line into a file. Only the output itself can be written to. -/
def write (e : Editor) (name : Octets) : Editor :=
  if name = "/dev/stdout".toList then e.show_ e.space else e

def isLast (e : Editor) : Bool := e.rest.isEmpty

def resolve (e : Editor) (p : Pattern) : Option Regex × Editor :=
  match p.regex with
  | some r => (some r, { e with lastPattern := some r })
  | none => (e.lastPattern, if e.lastPattern.isNone then { e with lost := true } else e)

def hits (e : Editor) : Address → Bool × Editor
  | .line n => (e.number = n, e)
  | .last => (e.isLast, e)
  | .every first step => (first ≤ e.number ∧ (e.number - first) % step = 0, e)
  | .pattern p =>
    let (r, e) := e.resolve p
    ((r.map (·.matchesIn p.mode e.space)).getD false, e)

def openRange (e : Editor) (index : Nat) (last : Option Nat) : Editor :=
  { e with ranges := (index, last) :: e.ranges.filter (·.1 != index) }

def closeRange (e : Editor) (index : Nat) : Editor :=
  { e with ranges := e.ranges.filter (·.1 != index) }

def multipleAbove (line n : Nat) : Nat := if n = 0 then line else (line / n + 1) * n

def enter (e : Editor) (index : Nat) (stop : Stop) : Editor :=
  let upTo (n : Nat) : Editor := if n ≤ e.number then e else e.openRange index (some n)
  match stop with
  | .at (.line n) => upTo n
  | .at .last => if e.isLast then e else e.openRange index none
  | .at _ => e.openRange index none
  | .after n => upTo (e.number + n)
  | .multiple n => upTo (multipleAbove e.number n)

def selects (e : Editor) (edit : LineCommand) : Bool × Editor :=
  match edit.start, edit.stop with
  | none, _ => (true, e)
  | some a, none => e.hits a
  | some a, some stop =>
    match e.ranges.lookup edit.index with
    | some (some n) =>
      let closed := e.closeRange edit.index
      if n < e.number then
        let (hit, e) := closed.hits a
        (hit, if hit then e.enter edit.index stop else e)
      else (true, if n = e.number then closed else e)
    | some none =>
      match stop with
      | .at b =>
        let (hit, e) := e.hits b
        (true, if hit then e.closeRange edit.index else e)
      | _ => (true, e)
    | none =>
      let (hit, e) := e.hits a
      (hit, if hit then e.enter edit.index stop else e)

structure Casing where
  all : Option Bool
  one : Option Bool

def Casing.apply (k : Casing) (c : Char) : Char :=
  match k.one.or k.all with
  | some true => c.toUpper
  | some false => c.toLower
  | none => c

def Casing.text (k : Casing) : Octets → Octets × Casing
  | [] => ([], k)
  | c :: r =>
    let (t, k') := Casing.text { k with one := none } r
    (k.apply c :: t, k')

def expand (m : Regex.Match) (k : Casing) : List Substitute → Octets
  | [] => []
  | .byte c :: r => k.apply c :: expand m { k with one := none } r
  | .capture n :: r =>
    let own := if n = 0 then m.matched else (m.captures.lookup n).getD []
    let (t, k) := k.text own
    t ++ expand m k r
  | .case_ (.upper true) :: r => expand m { k with one := some true } r
  | .case_ (.upper false) :: r => expand m ⟨some true, none⟩ r
  | .case_ (.lower true) :: r => expand m { k with one := some false } r
  | .case_ (.lower false) :: r => expand m ⟨some false, none⟩ r
  | .case_ .stop :: r => expand m ⟨none, none⟩ r

/-- Replaces matches in what is left of a text; `before` is what comes in front, latest first,
and `count` the number of the next match. An empty match right behind another is none. The flag
tells whether anything was replaced. -/
def substituteFrom (s : Substitution) (r : Regex) :
    Nat → Nat → Bool → Octets → Octets → Octets × Bool
  | 0, _, _, _, t => (t, false)
  | fuel + 1, count, afterMatch, before, t =>
    match r.find? s.pattern.mode before t with
    | none => (t, false)
    | some m =>
      let skipped := m.before.drop before.length
      let behind := m.matched.reverse ++ m.before.reverse
      if m.matched = [] ∧ skipped = [] ∧ afterMatch then
        match t with
        | [] => ([], false)
        | c :: rest =>
          let (t', done) := substituteFrom s r fuel count false (c :: before) rest
          (c :: t', done)
      else
        let hit := count = s.nth ∨ (s.every ∧ s.nth ≤ count)
        let own := if hit then expand m ⟨none, none⟩ s.by_ else m.matched
        if hit ∧ ¬s.every then (skipped ++ own ++ m.after, true)
        else
          match m.matched, m.after with
          | [], [] => (skipped ++ own, hit)
          | [], c :: rest =>
            let (t', done) := substituteFrom s r fuel (count + 1) false (c :: behind) rest
            (skipped ++ own ++ c :: t', done || hit)
          | _, after =>
            let (t', done) := substituteFrom s r fuel (count + 1) true behind after
            (skipped ++ own ++ t', done || hit)

def substitute (e : Editor) (s : Substitution) : Editor :=
  match e.resolve s.pattern with
  | (none, e) => e
  | (some r, e) =>
    let (t, done) := substituteFrom s r (2 * e.space.length + 2) 1 false [] e.space
    let e := { e with space := t, replaced := e.replaced || done }
    let e := if done && s.show_ then e.show_ e.space else e
    if done then (s.writeTo.map e.write).getD e else e

/-- A line in a form that shows every byte, folded to a width. -/
def unambiguous (width : Nat) (t : Octets) : Octets :=
  let piece (c : Char) : Octets :=
    match c with
    | '\\' => ['\\', '\\']
    | '\x07' => ['\\', 'a']
    | '\x08' => ['\\', 'b']
    | '\x0c' => ['\\', 'f']
    | '\n' => ['\\', 'n']
    | '\r' => ['\\', 'r']
    | '\t' => ['\\', 't']
    | '\x0b' => ['\\', 'v']
    | c =>
      if ' ' ≤ c ∧ c ≤ '~' then [c]
      else '\\' :: [c.toNat / 64, c.toNat / 8 % 8, c.toNat % 8].map fun d => Char.ofNat (48 + d)
  let (out, _) := t.foldl (fun (acc : Octets × Nat) c =>
    let p := piece c
    if width > 0 ∧ acc.2 + p.length > width - 1 then (acc.1 ++ '\\' :: '\n' :: p, p.length)
    else (acc.1 ++ p, acc.2 + p.length)) ([], 0)
  out ++ ['$']

def dump (e : Editor) : Editor := { e.queued.foldl addRaw e with queued := [] }

def readNext (e : Editor) (adding : Bool) : Option Editor :=
  match e.rest with
  | [] => none
  | (t, ended) :: rest =>
    let e := e.dump
    some { e with
      space := if adding then e.space ++ '\n' :: t else t
      ended := ended, number := e.number + 1, rest := rest }

def skipBlock : Nat → List LineCommand → List LineCommand
  | _, [] => []
  | depth, edit :: edits =>
    match edit.action with
    | .opening => skipBlock (depth + 1) edits
    | .closing => if depth = 0 then edits else skipBlock (depth - 1) edits
    | _ => skipBlock depth edits

def behindLabel (program : List LineCommand) (name : Octets) : List LineCommand :=
  if name = [] then [] else (program.dropWhile fun edit => edit.action != .label name).drop 1

def act (program : List LineCommand) (e : Editor) (edit : LineCommand)
    (following : List LineCommand) : Editor × Step :=
  let on (e : Editor) : Editor × Step := (e, .goOn following)
  match edit.action with
  | .opening | .closing | .label _ | .nothing => on e
  | .jump name => (e, .goOn (behindLabel program name))
  | .jumpIf wanted name =>
    let taken := e.replaced == wanted
    ({ e with replaced := false }, .goOn (if taken then behindLabel program name else following))
  | .delete firstLine =>
    if firstLine ∧ e.space.contains '\n' then
      ({ e with space := (e.space.dropWhile (· != '\n')).drop 1 }, .sameCycle)
    else (e, .newCycle)
  | .print firstLine =>
    if firstLine then on (e.add (e.space.takeWhile (· != '\n')) true) else on (e.show_ e.space)
  | .next adding =>
    if e.isLast then (e, .stop true)
    else
      let e := if adding ∨ e.quiet then e else e.show_ e.space
      match e.readNext adding with
      | some e => on e
      | none => (e, .stop true)
  | .quit silently status => ({ e with status := status }, .stop (!silently))
  | .number => on (e.add (Text.ofNat e.number) true)
  | .name => on (e.add e.name true)
  | .unambiguous width => on (e.add (unambiguous (width.getD e.width) e.space) true)
  | .substitute s => on (e.substitute s)
  | .translate table => on { e with space := e.space.map fun c => (table.lookup c).getD c }
  | .append t => on { e with queued := e.queued ++ [t] }
  | .insert t => on (e.addRaw t)
  | .change t =>
    let within := (e.ranges.lookup edit.index).isSome && !edit.negated
    (if within then e else e.addRaw t, .newCycle)
  | .readFile name =>
    on { e with queued := e.queued ++ (e.openFile name).toList.filter (! ·.isEmpty) }
  | .writeFile name => on (e.write name)
  | .hold adding =>
    on { e with
      held := if adding then e.held ++ '\n' :: e.space else e.space, heldEnded := e.ended }
  | .recall adding =>
    on { e with
      space := if adding then e.space ++ '\n' :: e.held else e.held, ended := e.heldEnded }
  | .swap =>
    on { e with held := e.space, heldEnded := e.ended, space := e.held, ended := e.heldEnded }
  | .empty => on { e with space := [] }

def runEdits (program : List LineCommand) : Nat → Editor → List LineCommand → Option (Editor × Step)
  | 0, _, _ => none
  | _ + 1, e, [] => some (e, .endCycle)
  | fuel + 1, e, edit :: edits =>
    let (hit, e) := e.selects edit
    if hit != edit.negated then
      match act program e edit edits with
      | (e, .goOn rest) => runEdits program fuel e rest
      | done => some done
    else runEdits program fuel e (if edit.action = .opening then skipBlock 0 edits else edits)

def runLines (program : List LineCommand) : Nat → Editor → Option Editor
  | 0, _ => none
  | fuel + 1, e => do
    let (e, step) ← runEdits program fuel e program
    let shown (e : Editor) : Editor := if e.quiet then e else e.show_ e.space
    let further (e : Editor) : Option Editor :=
      match e.readNext false with
      | some e => runLines program fuel { e with replaced := false }
      | none => some e.dump
    match step with
    | .endCycle | .goOn _ => further (shown e)
    | .newCycle => further e
    | .sameCycle => runLines program fuel e.dump
    | .stop printing => some (if printing then (shown e).dump else e)

/-- The ranges that are open before the first line: they start at line zero. -/
def openAtStart (program : List LineCommand) : List (Nat × Option Nat) :=
  program.filterMap fun edit =>
    if edit.start = some (.line 0) then some (edit.index, none) else none

end Editor

def stepLimit : Nat := 4000

def edit (program : List LineCommand) (e : Editor) (lines : List Line) : Option Editor :=
  match lines with
  | [] => some e
  | (t, ended) :: rest =>
    Editor.runLines program (stepLimit + lines.length + program.length)
      { e with space := t, ended := ended, number := e.number + 1, rest := rest, replaced := false }

def Editor.start (quiet : Bool) (terminator : Char) (width : Nat) (program : List LineCommand)
    (openFile : Octets → Option Octets) : Editor where
  quiet := quiet
  terminator := terminator
  name := ['-']
  openFile := openFile
  space := []
  ended := true
  held := []
  heldEnded := true
  width := width
  number := 0
  rest := []
  ranges := Editor.openAtStart program
  queued := []
  replaced := false
  lastPattern := none
  shown := []
  complete := true
  status := 0
  lost := false

def Editor.text (e : Editor) : Octets := e.shown.reverse.flatten

open Utility

def sedOptions : OptionSet where
  plain := "nErsuz"
  valued := "efl"
  attached := "i"
  names := [("quiet", 'n', .nothing), ("silent", 'n', .nothing), ("expression", 'e', .value),
    ("file", 'f', .value), ("regexp-extended", 'E', .nothing), ("in-place", 'i', .rest),
    ("line-length", 'l', .value), ("separate", 's', .nothing), ("unbuffered", 'u', .nothing),
    ("null-data", 'z', .nothing), ("posix", 'u', .nothing), ("sandbox", 'u', .nothing),
    ("follow-symlinks", 'u', .nothing), ("debug", 'u', .nothing)]

structure Request where
  chosen : Chosen
  scripts : List Octets
  names : List Octets

namespace Request

/-- Without an option for it, the first operand is the script. -/
def ofChosen (k : Chosen) : Request :=
  if k.hasAny "ef" then ⟨k, k.values 'e', k.operands⟩
  else ⟨k, k.operands.take 1, k.operands.drop 1⟩

def extended (r : Request) : Bool := r.chosen.hasAny "Er"

def inPlace (r : Request) : Bool := r.chosen.has 'i'

def separate (r : Request) : Bool := r.chosen.hasAny "is"

def backup (r : Request) : Octets := (r.chosen.value? 'i').getD []

def nul (r : Request) : Bool := r.chosen.has 'z'

def width (r : Request) : Nat := ((r.chosen.value? 'l').bind Octets.nat?).getD 70

end Request

def linesOf (nul : Bool) (t : Octets) : List Line :=
  if nul then (Octets.lines (Octets.swapEnds t)).map fun l => (Octets.swapEnds l.1, l.2)
  else Octets.lines t

end LineEditing

namespace Utility

open LineEditing

/-- What editing has come to: the program's own end, and new contents for files. -/
structure Edited where
  completion : Completion
  files : List (Octets × Octets)

def editEach (o : Request) (program : List LineCommand) :
    Editor → List (Octets × Octets) → Option (Editor × List (Octets × Octets))
  | e, [] => some (e, [])
  | e, (name, text) :: rest => do
    let begun := { e with number := 0, name := name, ranges := Editor.openAtStart program }
    let done ← edit program begun (linesOf o.nul text)
    if o.inPlace then
      let (last, files) ← editEach o program { done with shown := [], complete := true } rest
      return (last, (name, done.text) :: files)
    else editEach o program done rest

def editFailure (o : Request) (name : Octets) (e : Errno) : Octets :=
  if e ≠ .isDirectory then lit "can\x27t read " ++ name ++ lit ": " ++ e.description
  else if o.inPlace then lit "couldn\x27t edit " ++ name ++ lit ": not a regular file"
  else lit "read error on " ++ name ++ lit ": " ++ e.description

/-- Runs a script that has been read. Only the start of an endless input is looked at, and a
script that does not stop there never does. -/
def runSed (o : Request) (quiet : Bool) (program : List LineCommand) (d : Desk) : Edited :=
  let parts := (operandsOrInput o.names).map fun name => (name, openOperand d name)
  let isEndless := parts.any fun p => match p.2 with
    | .ok (.endless _) => true
    | _ => false
  let errors := parts.filterMap fun (name, c) =>
    match c with
    | .ok _ => none
    | .error e => some (Write.err (d.message (editFailure o name e)))
  let texts := parts.filterMap fun (name, c) => match c with
    | .ok c => some (name, c.opening)
    | .error _ => none
  let openText (name : Octets) : Option Octets :=
    match openOperand d (if name = lit "/dev/stdin" then ['-'] else name) with
    | .ok (.finite t) => some t
    | _ => none
  let e := Editor.start quiet (if o.nul then '\x00' else '\n') o.width program openText
  let result :=
    if o.separate then editEach o program e texts
    else (edit program e (texts.flatMap fun p => linesOf o.nul p.2)).map fun e => (e, [])
  match result with
  | none => ⟨.never, []⟩
  | some (e, files) =>
    if isEndless ∧ e.rest = [] then ⟨.never, []⟩
    else if e.lost then
      ⟨.fail 1 (d.message (lit "-e expression #1, char 0: no previous regular expression")), []⟩
    else
      let broken := parts.any fun p => match p.2 with
        | .error e => e == .isDirectory
        | .ok _ => false
      let failed := if broken then 4 else if errors = [] then 0 else 2
      let status := if e.status = 0 then failed else e.status
      ⟨⟨errors ++ [.out e.text], status, .after 0⟩, files⟩

inductive Origin where
  | expression (number : Nat)
  | file (name : Octets)

/-- The words for a mistake in one of the parts that make up a script, with its place in the
part; in a file its line is told instead. -/
def mistakeWords (m : Mistake) : List (Origin × Octets) → Octets
  | [] => m.words
  | (origin, t) :: parts =>
    if t.length < m.place ∧ ¬parts.isEmpty then
      mistakeWords { m with place := m.place - (t.length + 1) } parts
    else
      let place := match origin with
        | .expression n =>
          lit "-e expression #" ++ Text.ofNat n ++ lit ", char " ++ Text.ofNat m.place
        | .file name =>
          lit "file " ++ name ++ lit " line " ++ Text.ofNat ((t.take m.place).count '\n' + 1)
      place ++ lit ": " ++ m.words

def editFiles (args : List Octets) (d : Desk) : Edited :=
  let stop (c : Completion) : Edited := ⟨c, []⟩
  match sedOptions.read args with
  | .error e => stop (d.refuse e.words)
  | .ok k =>
    let o := Request.ofChosen k
    let files := (k.values 'f').map fun f => (f, openOperand d f)
    if o.scripts = [] ∧ files = [] then
      stop (.fail 1 (lit "Usage: " ++ d.called
        ++ lit " [OPTION]... \x7bscript-only-if-no-other-script\x7d [input-file]...\n\n"))
    else
      match files.find? fun f => match f.2 with
        | .ok (.finite _) => false
        | _ => true with
      | some (name, .error e) =>
        let words := lit "couldn\x27t open file " ++ name ++ lit ": " ++ e.description
        stop (.fail 4 (d.message words))
      | some _ => stop .never
      | none =>
        let parts := (o.scripts.zipIdx 1).map (fun s => (Origin.expression s.2, s.1))
          ++ files.map fun f => match f.2 with
            | .ok (.finite t) => (.file f.1, t)
            | _ => (.file f.1, [])
        let whole := Text.joinWith ['\n'] (parts.map (·.2))
        let quiet := k.has 'n' ∨ whole.take 3 = lit "#n\n" ∨ whole = lit "#n"
        match readScript o.extended whole with
        | .error m =>
          stop (if m.alone then .fail 4 (d.message m.words)
            else .fail 1 (d.message (mistakeWords m parts)))
        | .ok program =>
          match lostLabel? program with
          | some l =>
            stop (.fail 4 (d.message (lit "can\x27t find label for jump to \x60" ++ l ++ ['\x27'])))
          | none =>
            if o.inPlace ∧ o.names = [] then stop (.fail 4 (d.message (lit "no input files")))
            else runSed o quiet program d

/-- Without a file tree nothing is edited in place. -/
def sed : Utility := fun args d => (editFiles args d).completion

def sedInPlace (args : List Octets) (d : Desk) (tree : FileTree) : FileTree :=
  let backup := match sedOptions.read args with
    | .ok k => (Request.ofChosen k).backup
    | .error _ => []
  (editFiles args d).files.foldl (fun t (name, text) =>
    let write (t : FileTree) (name text : Octets) : FileTree :=
      (t.write (Octets.toPath name) (Octets.toBytes text)).toOption.getD t
    let old := ((t.contents (Octets.toPath name)).toOption.map Octets.ofBytes).getD []
    write (if backup = [] then t else write t (name ++ backup) old) name text) tree

end Utility

end LayoutCheck
