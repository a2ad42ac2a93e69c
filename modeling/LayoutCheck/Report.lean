import LayoutCheck.Comparison
import LayoutCheck.Fault
import LayoutCheck.Text

/-! # Batches and reports

A batch of files is checked one after the other, with running totals. Each file has a block of
emissions of its own, and no outcome stops the batch. An emission is a piece of text with the tone
it is shown in. A stream takes bytes, perhaps only so many in all: a write takes what still fits and
fails when something is left over; the rest of that emission is abandoned, later ones are tried
anew. -/

namespace LayoutCheck

inductive Tone where
  | plain
  | success
  | failure
  | removed
  | added
  | hunkHeader
  | emphasis
  deriving DecidableEq, Repr

inductive Color where
  | red
  | green
  | cyan
  deriving DecidableEq, Repr

structure Style where
  bold : Bool
  foreground : Option Color
  deriving DecidableEq, Repr

namespace Style

def plain : Style := ⟨false, none⟩

end Style

def Tone.style : Tone → Style
  | .plain => .plain
  | .success => ⟨true, some .green⟩
  | .failure => ⟨true, some .red⟩
  | .removed => ⟨false, some .red⟩
  | .added => ⟨false, some .green⟩
  | .hunkHeader => ⟨false, some .cyan⟩
  | .emphasis => ⟨true, none⟩

structure Emission where
  text : Text
  tone : Tone
  deriving DecidableEq, Repr

namespace Emission

def say (text : Text) : Emission := ⟨text, .plain⟩

def line (text : Text) (tone : Tone) : List Emission := [⟨text, tone⟩, say ['\n']]

def plainText (es : List Emission) : Text := es.flatMap text

end Emission

namespace Color

def code : Color → Text
  | .red => "31".toList
  | .green => "32".toList
  | .cyan => "36".toList

end Color

def escape (code : Text) : Text := '\x1b' :: '[' :: code ++ ['m']

def resetEscape : Text := escape ['0']

namespace Style

/-- The escapes that bring a terminal to a style from any other. -/
def escapes (s : Style) : List Text :=
  resetEscape :: ((if s.bold then [escape ['1']] else [])
    ++ (s.foreground.map fun c => escape c.code).toList)

end Style

namespace Emission

/-- The separate writes of an emission. Only a coloured stream gets escapes, and plain text
has none. -/
def writes (colored : Bool) (e : Emission) : List Bytes :=
  if colored && e.tone != .plain then
    (e.tone.style.escapes ++ [e.text, resetEscape]).map Text.utf8
  else [e.text.utf8]

end Emission

/-- `room` is what the stream still accepts; `none` is no limit. -/
structure Stream where
  room : Option Nat
  received : Bytes
  failed : Bool
  deriving DecidableEq, Repr

namespace Stream

def withRoom (room : Option Nat) : Stream := ⟨room, [], false⟩

/-- Takes what fits. The flag tells whether all of it did. -/
def write (s : Stream) (bs : Bytes) : Stream × Bool :=
  match s.room with
  | none => ({ s with received := s.received ++ bs }, true)
  | some n =>
    ({ s with room := some (n - bs.length), received := s.received ++ bs.take n },
      bs.length ≤ n)

/-- Writes in order up to the first failure, which is remembered. -/
def writeAll (s : Stream) : List Bytes → Stream
  | [] => s
  | bs :: rest =>
    match s.write bs with
    | (s', true) => s'.writeAll rest
    | (s', false) => { s' with failed := true }

def emit (colored : Bool) (s : Stream) (e : Emission) : Stream :=
  s.writeAll (e.writes colored)

def emitAll (colored : Bool) (s : Stream) (es : List Emission) : Stream :=
  es.foldl (emit colored) s

end Stream

inductive Outcome where
  | checked (verdict : Verdict)
  | errored (fault : Fault)
  deriving DecidableEq, Repr

def Outcome.passed : Outcome → Bool
  | .checked .equivalent => true
  | _ => false

structure FileReport where
  path : Path
  outcome : Outcome
  deriving DecidableEq, Repr

def FileReport.passed (r : FileReport) : Bool := r.outcome.passed

structure Batch where
  files : List FileReport
  passed : Nat
  failed : Nat
  deriving DecidableEq, Repr

namespace Batch

def empty : Batch := ⟨[], 0, 0⟩

def record (b : Batch) (r : FileReport) : Batch :=
  if r.passed then { b with files := b.files ++ [r], passed := b.passed + 1 }
  else { b with files := b.files ++ [r], failed := b.failed + 1 }

def total (b : Batch) : Nat := b.files.length

/-- No file failed; an empty batch passes. -/
def isPass (b : Batch) : Bool := b.failed == 0

def exitCode (b : Batch) : Nat := if b.isPass then 0 else 1

end Batch

inductive Status where
  | equivalent
  | divergent
  | error
  deriving DecidableEq, Repr

def Status.name : Status → Text
  | .equivalent => "equivalent".toList
  | .divergent => "divergent".toList
  | .error => "error".toList

structure SummaryEntry where
  path : Text
  status : Status
  errorKind : Option Text
  message : Option Text
  deriving DecidableEq, Repr

namespace SummaryEntry

def ofReport (r : FileReport) : SummaryEntry :=
  match r.outcome with
  | .checked .equivalent => ⟨r.path.display, .equivalent, none, none⟩
  | .checked (.divergent _) => ⟨r.path.display, .divergent, none, none⟩
  | .errored f => ⟨r.path.display, .error, some f.kind.name, some f.message⟩

end SummaryEntry

structure Summary where
  passed : Nat
  failed : Nat
  files : List SummaryEntry
  deriving DecidableEq, Repr

def Batch.summary (b : Batch) : Summary :=
  ⟨b.passed, b.failed, b.files.map SummaryEntry.ofReport⟩

structure ReportOptions where
  showCanonical : Bool
  deriving DecidableEq, Repr

def Edit.tone : Edit → Tone
  | .keep _ => .plain
  | .drop _ => .removed
  | .insert _ => .added

namespace Hunk

def emissions (h : Hunk) : List Emission :=
  Emission.line h.header .hunkHeader ++ h.edits.flatMap fun e => Emission.line e.render e.tone

end Hunk

namespace Diff

def emissions (d : Diff) : List Emission :=
  if d.isEmpty then []
  else
    Emission.line ("--- ".toList ++ d.sourceLabel) .emphasis
      ++ Emission.line ("+++ ".toList ++ d.formattedLabel) .emphasis
      ++ d.hunks.flatMap Hunk.emissions

end Diff

namespace Fault

def emissions (f : Fault) : List Emission :=
  let word := if f.kind = .fileUnreadable then "ERROR (".toList else "FAILURE (".toList
  Emission.line (word ++ f.message ++ [')']) .failure
    ++ match f.capturedStderr with
      | none => []
      | some text =>
        .say text :: if text.getLast? = some '\n' then [] else [.say ['\n']]

end Fault

namespace Outcome

def emissions (options : ReportOptions) : Outcome → List Emission
  | checked .equivalent => Emission.line "SUCCESS (equivalent)".toList .success
  | checked (.divergent why) =>
    Emission.line "FAILURE (content differs even when normalized)".toList .failure
      ++ (if options.showCanonical then
          Emission.line ("canonical original:  ".toList ++ why.source) .plain
            ++ Emission.line ("canonical formatted: ".toList ++ why.formatted) .plain
        else [])
      ++ why.diff.emissions
  | errored f => f.emissions

end Outcome

namespace Batch

def summaryEmissions (b : Batch) : List Emission :=
  .say ['\n'] :: Emission.line (List.replicate 50 '-') .plain
    ++ [⟨"Test Summary: ".toList, .emphasis⟩,
      ⟨Text.ofNat b.passed ++ " passed".toList, if b.passed > 0 then .success else .plain⟩,
      .say ", ".toList]
    ++ Emission.line (Text.ofNat b.failed ++ " failed".toList)
        (if b.failed > 0 then .failure else .plain)

end Batch

abbrev Reader := Path → Except IoCause Text

/-- Gives the formatted text of a file, or the fault that kept it from being made. -/
abbrev Formatter := Path → Except Fault Text

def checkFile (read : Reader) (format : Formatter) (path : Path) : Outcome :=
  match read path with
  | .error cause => .errored (.fileUnreadable path cause)
  | .ok source =>
    match format path with
    | .ok formatted => .checked (evaluate source formatted)
    | .error fault => .errored fault

def testingEmission (path : Path) : Emission :=
  .say ("Testing ".toList ++ path.display ++ "... ".toList)

structure BatchRun where
  batch : Batch
  shown : List Emission
  deriving DecidableEq, Repr

namespace BatchRun

def start : BatchRun := ⟨.empty, []⟩

def step (read : Reader) (format : Formatter) (options : ReportOptions)
    (run : BatchRun) (path : Path) : BatchRun :=
  let outcome := checkFile read format path
  { batch := run.batch.record ⟨path, outcome⟩
    shown := run.shown ++ testingEmission path :: outcome.emissions options }

end BatchRun

def runBatch (read : Reader) (format : Formatter) (options : ReportOptions)
    (paths : List Path) : BatchRun :=
  paths.foldl (BatchRun.step read format options) .start

inductive JsonValue where
  | number (n : Nat)
  | string (t : Text)
  | list (items : List JsonValue)
  | object (fields : List (Text × JsonValue))

namespace JsonValue

def hexDigits (n : Nat) : Text := [n / 16, n % 16].map Nat.digitChar

/-- A character inside a string. Only quotes, backslashes and controls are escaped. -/
def escapeChar (c : Char) : Text :=
  if c = '\x22' then ['\\', '\x22']
  else if c = '\\' then ['\\', '\\']
  else if c = '\n' then ['\\', 'n']
  else if c = '\r' then ['\\', 'r']
  else if c = '\t' then ['\\', 't']
  else if c = '\x08' then ['\\', 'b']
  else if c = '\x0c' then ['\\', 'f']
  else if c.toNat < 32 then "\\u00".toList ++ hexDigits c.toNat
  else [c]

def quote (t : Text) : Text := '\x22' :: t.flatMap escapeChar ++ ['\x22']

def newline (depth : Nat) : Text := '\n' :: List.replicate (2 * depth) ' '

mutual

def render (depth : Nat) : JsonValue → Text
  | .number n => Text.ofNat n
  | .string t => quote t
  | .list [] => "[]".toList
  | .list (v :: vs) =>
    '[' :: newline (depth + 1) ++ render (depth + 1) v ++ renderItems (depth + 1) vs
      ++ newline depth ++ [']']
  | .object [] => "\x7b\x7d".toList
  | .object ((k, v) :: fs) =>
    '\x7b' :: newline (depth + 1) ++ quote k ++ ": ".toList ++ render (depth + 1) v
      ++ renderFields (depth + 1) fs ++ newline depth ++ ['\x7d']

def renderItems (depth : Nat) : List JsonValue → Text
  | [] => []
  | v :: vs => ',' :: newline depth ++ render depth v ++ renderItems depth vs

def renderFields (depth : Nat) : List (Text × JsonValue) → Text
  | [] => []
  | (k, v) :: fs =>
    ',' :: newline depth ++ quote k ++ ": ".toList ++ render depth v ++ renderFields depth fs

end

end JsonValue

def SummaryEntry.json (e : SummaryEntry) : JsonValue :=
  .object ([("path".toList, .string e.path), ("status".toList, .string e.status.name)]
    ++ (e.errorKind.map fun k => ("error_kind".toList, JsonValue.string k)).toList
    ++ (e.message.map fun m => ("message".toList, JsonValue.string m)).toList)

def Summary.json (s : Summary) : JsonValue :=
  .object [("passed".toList, .number s.passed), ("failed".toList, .number s.failed),
    ("files".toList, .list (s.files.map SummaryEntry.json))]

def Summary.fileText (s : Summary) : Text := s.json.render 0 ++ ['\n']

end LayoutCheck
