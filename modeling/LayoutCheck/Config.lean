import LayoutCheck.CommandLine
import LayoutCheck.Decimal
import LayoutCheck.Fault
import LayoutCheck.Host.FileTree
import LayoutCheck.Text
import LayoutCheck.Yaml.Document
import LayoutCheck.Yaml.Resolution

/-! # Configuration

A configuration file is one YAML mapping. Every key is optional and may have no value; a key that
is unknown or given twice is refused, so that a slip does not fall back to a default. Settings are
layers: defaults, a configuration file if one is named, then the switches of the command line; a
later layer wins where it gives a value. -/

namespace LayoutCheck

structure ConfigFile where
  executable : Option Path
  fixtureDir : Option Path
  extension : Option Text
  timeoutSecs : Option Nat
  showCanonical : Option Bool
  deriving DecidableEq, Repr

namespace ConfigFile

def empty : ConfigFile := ⟨none, none, none, none, none⟩

end ConfigFile

inductive ConfigKey where
  | executable
  | fixtureDir
  | extension
  | timeoutSecs
  | showCanonical
  deriving DecidableEq, Repr

namespace ConfigKey

def all : List ConfigKey := [executable, fixtureDir, extension, timeoutSecs, showCanonical]

def name : ConfigKey → Text
  | executable => "executable_to_test".toList
  | fixtureDir => "fixture_dir".toList
  | extension => "fixture_extension".toList
  | timeoutSecs => "timeout_secs".toList
  | showCanonical => "show_canonical".toList

def ofName? (t : Text) : Option ConfigKey := all.find? (·.name == t)

def expected : ConfigKey → Text
  | executable => "path string".toList
  | fixtureDir => "path string".toList
  | extension => "a string".toList
  | timeoutSecs => "u64".toList
  | showCanonical => "a boolean".toList

end ConfigKey

namespace ConfigFile

inductive Problem where
  | mismatch (m : Yaml.Mismatch)
  | unknownKey (name : Text)
  | duplicateKey (key : ConfigKey)
  deriving DecidableEq, Repr

/-- A problem at a place. `within` is the key whose value is meant; no name is known for a
key that is an alias. -/
structure DataFault where
  within : Option Text
  problem : Problem
  mark : Yaml.Mark
  deriving DecidableEq, Repr

namespace Problem

def message : Problem → Text
  | mismatch m => m.message
  | unknownKey name =>
    "unknown field ".toList ++ Yaml.Found.ticked name ++ ", expected one of ".toList
      ++ Text.joinWith ", ".toList (ConfigKey.all.map fun k => Yaml.Found.ticked k.name)
  | duplicateKey k => "duplicate field ".toList ++ Yaml.Found.ticked k.name

end Problem

namespace DataFault

/-- Places count from one; the very start is not told. -/
def message (f : DataFault) : Text :=
  (match f.within with
    | some key => key ++ ": ".toList
    | none => [])
  ++ f.problem.message
  ++ (if f.mark.line = 0 ∧ f.mark.column = 0 then []
    else " at line ".toList ++ Text.ofNat (f.mark.line + 1)
      ++ " column ".toList ++ Text.ofNat (f.mark.column + 1))

end DataFault

inductive Refusal where
  | malformed
  | data (fault : DataFault)
  deriving DecidableEq, Repr

namespace Refusal

def message : Refusal → Text
  | malformed => "malformed document".toList
  | data f => f.message

end Refusal

abbrev Decoded := Except Refusal

/-- What each key was given so far; `some none` is a key without a value. -/
structure Given where
  executable : Option (Option Path)
  fixtureDir : Option (Option Path)
  extension : Option (Option Text)
  timeoutSecs : Option (Option Nat)
  showCanonical : Option (Option Bool)
  deriving DecidableEq, Repr

namespace Given

def empty : Given := ⟨none, none, none, none, none⟩

def has (p : Given) : ConfigKey → Bool
  | .executable => p.executable.isSome
  | .fixtureDir => p.fixtureDir.isSome
  | .extension => p.extension.isSome
  | .timeoutSecs => p.timeoutSecs.isSome
  | .showCanonical => p.showCanonical.isSome

def finish (p : Given) : ConfigFile :=
  ⟨p.executable.join, p.fixtureDir.join, p.extension.join, p.timeoutSecs.join,
    p.showCanonical.join⟩

end Given

open Yaml

def nameOf (key : Located) (text : Text) : Text := if key.aliased then ['?'] else text

def complaint (x : Item) (expected : Text) : Mismatch :=
  match x with
  | .scalar s => s.mismatch expected
  | .sequenceStart => .type .sequence expected
  | .sequenceEnd => .type .sequence expected
  | .mappingStart => .type .mapping expected
  | .mappingEnd => .type .mapping expected

/-- A value read by `read`, or none for an item that gives no value. A wrong null tag is
reported at `outer`, the start of the mapping. -/
def optional {α : Type} (outer : Mark) (within expected : Text) (value : Located)
    (read : Scalar → Option α) : Decoded (Option α) :=
  let refuse : Decoded (Option α) :=
    .error (.data ⟨some within, .mismatch (complaint value.item expected), value.mark⟩)
  match value.item with
  | .scalar s =>
    match s.isAbsent? with
    | none => .error (.data ⟨none, .mismatch (.value (.string s.text) "null".toList), outer⟩)
    | some true => .ok none
    | some false =>
      match read s with
      | some a => .ok (some a)
      | none => refuse
  | _ => refuse

def readPath (s : Scalar) : Option Path := some (.ofText s.text)

def readText (s : Scalar) : Option Text := some s.text

def readSeconds (s : Scalar) : Option Nat :=
  if s.readsAs (standardTag "int") then unsigned? (Nat.pow 2 64) s.text else none

def readFlag (s : Scalar) : Option Bool :=
  if s.readsAs (standardTag "bool") then boolean? s.text else none

def store (outer : Mark) (p : Given) (key : ConfigKey) (within : Text) (value : Located) :
    Decoded Given :=
  let get {α : Type} (read : Scalar → Option α) : Decoded (Option α) :=
    optional outer within key.expected value read
  match key with
  | .executable => (get readPath).map fun v => { p with executable := some v }
  | .fixtureDir => (get readPath).map fun v => { p with fixtureDir := some v }
  | .extension => (get readText).map fun v => { p with extension := some v }
  | .timeoutSecs => (get readSeconds).map fun v => { p with timeoutSecs := some v }
  | .showCanonical => (get readFlag).map fun v => { p with showCanonical := some v }

def keyOf (outer : Mark) (p : Given) (x : Located) : Decoded (ConfigKey × Text) :=
  match x.item with
  | .scalar s =>
    match ConfigKey.ofName? s.text with
    | none => .error (.data ⟨none, .unknownKey s.text, x.mark⟩)
    | some k =>
      if p.has k then .error (.data ⟨none, .duplicateKey k, outer⟩) else .ok (k, nameOf x s.text)
  | item => .error (.data ⟨none, .mismatch (complaint item "field identifier".toList), x.mark⟩)

/-- The entries of a mapping that starts at `outer`. Items that run out before its end
belong to a broken document. -/
def entries (outer : Mark) (p : Given) : List Located → Decoded Given
  | [] => .error .malformed
  | [x] =>
    if x.item = .mappingEnd then .ok p
    else (keyOf outer p x).bind fun _ => .error .malformed
  | x :: value :: rest =>
    if x.item = .mappingEnd then .ok p
    else do
      let (k, within) ← keyOf outer p x
      entries outer (← store outer p k within value) rest

/-- The configuration of a document. No node at all, or an empty one, is an empty mapping.
-/
def ofItems (items : List Located) : Decoded ConfigFile :=
  match items with
  | [] => .ok empty
  | root :: rest =>
    match root.item with
    | .mappingStart => (entries root.mark .empty rest).map Given.finish
    | item =>
      let refuse : Decoded ConfigFile :=
        .error (.data ⟨none, .mismatch (complaint item "struct ConfigFile".toList), root.mark⟩)
      match item with
      | .scalar s => if s.text.isEmpty && s.style == .plain then .ok empty else refuse
      | _ => refuse

/-- Items are decoded first; only then does a break or a second document count. -/
def ofDocument (d : Document) : Decoded ConfigFile := do
  if d.items.isEmpty && !d.intact then .error .malformed
  let file ← ofItems d.items
  if d.isWellFormed then .ok file else .error .malformed

/-- A blank text is an empty configuration. -/
def parse (t : Text) : Decoded ConfigFile :=
  if t.all isBlank then .ok empty else ofDocument (.ofText t)

end ConfigFile

structure Settings where
  executable : Path
  fixtureDir : Path
  extension : Text
  timeout : Duration
  useColors : Bool
  showCanonical : Bool
  deriving DecidableEq, Repr

/-- Blanks go from both ends, then dots from the front. -/
def normalizeExtension (t : Text) : Text := t.trim.dropWhile (· == '.')

namespace Settings

def default (onTerminal : Bool) : Settings where
  executable := .ofText "../../prpfmt".toList
  fixtureDir := .ofText "../full_pyrope".toList
  extension := "prp".toList
  timeout := .ofSecs 30
  useColors := onTerminal
  showCanonical := false

def withExecutable (s : Settings) (p : Path) : Settings := { s with executable := p }

def withFixtureDir (s : Settings) (p : Path) : Settings := { s with fixtureDir := p }

def withExtension (s : Settings) (t : Text) : Settings :=
  { s with extension := normalizeExtension t }

def withTimeout (s : Settings) (d : Duration) : Settings := { s with timeout := d }

def applyFile (s : Settings) (f : ConfigFile) : Settings where
  executable := f.executable.getD s.executable
  fixtureDir := f.fixtureDir.getD s.fixtureDir
  extension := (f.extension.map normalizeExtension).getD s.extension
  timeout := (f.timeoutSecs.map Duration.ofSecs).getD s.timeout
  useColors := s.useColors
  showCanonical := f.showCanonical.getD s.showCanonical

end Settings

/-- Relative paths in a file are meant from the directory of that file. -/
def ConfigFile.resolveFrom (location : Path) (f : ConfigFile) : ConfigFile :=
  match location.parent with
  | none => f
  | some base =>
    { f with executable := f.executable.map base.join, fixtureDir := f.fixtureDir.map base.join }

def FileTree.readText (t : FileTree) : Path → Except IoCause Text := fun p =>
  if FileTree.hasNul p then .error .nulInPath
  else
    match t.contents p with
    | .error e => .error (.system e)
    | .ok bytes =>
      match Utf8.decode? bytes with
      | some text => .ok text
      | none => .error .notUtf8

def ConfigFile.load (t : FileTree) (p : Path) : Except Fault ConfigFile :=
  match t.readText p with
  | .error cause => .error (.configUnreadable p cause)
  | .ok text =>
    match ConfigFile.parse text with
    | .error refusal => .error (.configInvalid p refusal.message)
    | .ok file => .ok (file.resolveFrom p)

/-- The conditions of a run, in the order they are checked. -/
def Settings.validate (t : FileTree) (s : Settings) : Except Fault Unit :=
  if s.timeout.isZero then .error .zeroTimeout
  else if !t.exists? s.executable then .error (.missingExecutable s.executable)
  else if !t.isDirectory s.fixtureDir then .error (.missingFixtureDir s.fixtureDir)
  else .ok ()

namespace Settings

def applyOptions (s : Settings) (o : CheckOptions) : Settings where
  executable := o.formatter.getD s.executable
  fixtureDir := o.fixtures.getD s.fixtureDir
  extension := (o.extension.map normalizeExtension).getD s.extension
  timeout := (o.timeoutSecs.map Duration.ofSecs).getD s.timeout
  useColors := s.useColors && !o.noColor
  showCanonical := s.showCanonical || o.showCanonical

def ofConfig (t : FileTree) (onTerminal : Bool) : Option Path → Except Fault Settings
  | none => .ok (.default onTerminal)
  | some p => (ConfigFile.load t p).map (Settings.default onTerminal).applyFile

def resolve (t : FileTree) (onTerminal : Bool) (o : CheckOptions) : Except Fault Settings :=
  (ofConfig t onTerminal o.config).map (·.applyOptions o)

end Settings

end LayoutCheck
