import LayoutCheck.Text

/-! # Command lines

A command line is a command with its switches and operands. Verbosity may be raised before the
command or after it; what is given after it wins. Arguments are taken one by one. A value that
stands in an argument of its own is kept pending and checked only when the next switch or operand
has been recognized, or at the end; so an argument that is not understood is reported before a bad
value in front of it. -/

namespace LayoutCheck

inductive Token where
  | escape
  | long (name : Text) (value : Option Text)
  | cluster (letters : Text)
  | word (text : Text)
  deriving DecidableEq, Repr

namespace Token

def cutAtEquals : Text → Text × Option Text
  | [] => ([], none)
  | c :: r =>
    if c = '=' then ([], some r)
    else ((c :: (cutAtEquals r).1), (cutAtEquals r).2)

def ofArgument : Text → Token
  | ['-', '-'] => escape
  | '-' :: '-' :: r => long (cutAtEquals r).1 (cutAtEquals r).2
  | ['-'] => word ['-']
  | '-' :: r => cluster r
  | t => word t

end Token

inductive Switch where
  | help
  | version
  | verbose
  | config
  | formatter
  | fixtures
  | extension
  | timeoutSecs
  | jsonSummary
  | showCanonical
  | noColor
  deriving DecidableEq, Repr

namespace Switch

def name : Switch → Text
  | help => "help".toList
  | version => "version".toList
  | verbose => "verbose".toList
  | config => "config".toList
  | formatter => "formatter".toList
  | fixtures => "fixtures".toList
  | extension => "extension".toList
  | timeoutSecs => "timeout-secs".toList
  | jsonSummary => "json-summary".toList
  | showCanonical => "show-canonical".toList
  | noColor => "no-color".toList

def letter? : Switch → Option Char
  | help => some 'h'
  | version => some 'V'
  | verbose => some 'v'
  | config => some 'c'
  | _ => none

def valueName? : Switch → Option Text
  | config => some "CONFIG".toList
  | formatter => some "PATH".toList
  | fixtures => some "DIR".toList
  | extension => some "EXT".toList
  | timeoutSecs => some "SECS".toList
  | jsonSummary => some "FILE".toList
  | _ => none

def takesValue (s : Switch) : Bool := s.valueName?.isSome

/-- A switch as usage lines show it. One that may be repeated has three points. -/
def form (s : Switch) : Text :=
  "--".toList ++ s.name ++ match s.valueName? with
    | some v => " <".toList ++ v ++ ['>']
    | none => if s = verbose then "...".toList else []

end Switch

inductive CommandName where
  | check
  | canonicalize
  | compare
  deriving DecidableEq, Repr

/-- The command `help` is one that takes the names of others. -/
inductive Scope where
  | program
  | command (name : CommandName)
  | help
  deriving DecidableEq, Repr

structure Operand where
  form : Text
  summary : Text
  deriving DecidableEq, Repr

namespace CommandName

def name : CommandName → Text
  | check => "check".toList
  | canonicalize => "canonicalize".toList
  | compare => "compare".toList

def all : List CommandName := [check, canonicalize, compare]

def ofName? (t : Text) : Option CommandName := all.find? (·.name == t)

def operands : CommandName → List Operand
  | check => []
  | canonicalize => [⟨"<FILE>".toList, "The file to canonicalize".toList⟩]
  | compare => [⟨"<ORIGINAL>".toList, "The original text".toList⟩,
      ⟨"<FORMATTED>".toList, "The formatted text".toList⟩]

def ownSwitches : CommandName → List Switch
  | check => [.config, .formatter, .fixtures, .extension, .timeoutSecs, .showCanonical, .noColor,
      .jsonSummary]
  | canonicalize => []
  | compare => [.showCanonical, .noColor]

end CommandName

namespace Scope

def helpWord : Text := "help".toList

def commandWords : List Text := CommandName.all.map CommandName.name ++ [helpWord]

def isCommandWord (t : Text) : Bool := commandWords.contains t

def switches : Scope → List Switch
  | program => [.verbose, .help, .version]
  | command n => n.ownSwitches ++ [.verbose, .help]
  | help => []

def operands : Scope → List Operand
  | program => []
  | command n => n.operands
  | help => [⟨"[COMMAND]...".toList, "Print help for the subcommand(s)".toList⟩]

def programName : Text := "fmtequiv".toList

def path : Scope → Text
  | program => programName
  | command n => programName ++ ' ' :: n.name
  | help => programName ++ ' ' :: helpWord

def usageWith (s : Scope) (options : List Text) : Text :=
  let command := if s = program then ["<COMMAND>".toList] else []
  "Usage: ".toList
    ++ Text.joinWith [' '] (s.path :: options ++ s.operands.map Operand.form ++ command)

def usage (s : Scope) : Text :=
  s.usageWith (if s.switches = [] then [] else ["[OPTIONS]".toList])

def usageNaming (s : Scope) (given : List Switch) : Text := s.usageWith (given.map Switch.form)

end Scope

/-- What is wrong with a command line. `mentioned` holds the switches understood so far. -/
inductive Misuse where
  | missingCommand
  | unknownCommand (word : Text)
  | unknownTopic (word : Text)
  | commandBehindEscape (word : Text)
  | unknownLetter (letter : Char)
  | unknownName (name : Text) (mentioned : List Switch) (rest : List Text)
  | extraOperand (value : Text)
  | emptyValue (which : Switch)
  | emptyOperand (position : Nat)
  | badValue (which : Switch) (value : Text)
  | repeated (which : Switch)
  | unwantedValue (which : Switch) (value : Text) (mentioned : List Switch)
  | missingOperand (count : Nat) (mentioned : List Switch)
  deriving DecidableEq, Repr

inductive UsageStop where
  | help (scope : Scope)
  | version
  | nothingGiven
  | misused (scope : Scope) (why : Misuse)
  deriving DecidableEq, Repr

namespace UsageStop

def exitCode : UsageStop → Nat
  | help _ | version => 0
  | nothingGiven | misused _ _ => 2

end UsageStop

/-- A number of seconds: an optional plus sign, decimal digits, 64 bits, not zero. -/
def timeoutOfText? (t : Text) : Option Nat :=
  let digits := (Text.dropLead? ['+'] t).getD t
  if digits = [] ∨ ¬digits.all Char.isDigit then none
  else
    let n := Nat.ofDigitChars 10 digits 0
    if 1 ≤ n ∧ n < Nat.pow 2 64 then some n else none

def Switch.faultOf? (s : Switch) (value : Text) : Option Misuse :=
  match s with
  | .timeoutSecs => if (timeoutOfText? value).isSome then none else some (.badValue s value)
  | .extension => none
  | _ => if value = [] then some (.emptyValue s) else none

inductive Pending where
  | nothing
  | switch (which : Switch) (value : Option Text)
  | operand (value : Text)
  deriving DecidableEq, Repr

/-- What has been understood so far. A switch without a value is kept with an empty one. -/
structure Collected where
  scope : Scope
  verbose : Nat
  given : List (Switch × Text)
  operands : List Text
  pending : Pending
  onlyOperands : Bool
  deriving DecidableEq, Repr

namespace Collected

def start (scope : Scope) : Collected := ⟨scope, 0, [], [], .nothing, false⟩

def maxVerbose : Nat := 255

def has (c : Collected) (s : Switch) : Bool := c.given.any (·.1 == s)

def value? (c : Collected) (s : Switch) : Option Text := c.given.lookup s

def misused (c : Collected) (why : Misuse) : Except UsageStop Collected :=
  .error (.misused c.scope why)

def mentioned (c : Collected) : List Switch := c.given.map (·.1)

/-- The switches that have been given, with what is pending. A switch that is pending for the
second time is left out. -/
def mentionedAll (c : Collected) : List Switch :=
  match c.pending with
  | .switch s (some _) =>
    if c.has s then c.mentioned.filter (· != s) else c.mentioned ++ [s]
  | _ => c.mentioned

def give (c : Collected) (s : Switch) (value : Text) : Except UsageStop Collected :=
  if c.has s then c.misused (.repeated s)
  else
    match if s.takesValue then s.faultOf? value else none with
    | some why => c.misused why
    | none => .ok { c with given := c.given ++ [(s, value)] }

def settle (c : Collected) : Except UsageStop Collected :=
  let rest := { c with pending := .nothing }
  match c.pending with
  | .nothing => .ok c
  | .switch s none => c.misused (.emptyValue s)
  | .switch s (some value) => rest.give s value
  | .operand value =>
    if value = [] then c.misused (.emptyOperand c.operands.length)
    else .ok { rest with operands := rest.operands ++ [value] }

/-- Verbosity is counted, and counts as given where it was last raised. -/
def raise (c : Collected) : Collected :=
  { c with
    verbose := min maxVerbose (c.verbose + 1)
    given := c.given.filter (·.1 != .verbose) ++ [(.verbose, [])] }

def flip (c : Collected) (s : Switch) : Except UsageStop Collected := do
  let c ← c.settle
  match s with
  | .help => .error (.help c.scope)
  | .version => .error .version
  | .verbose => return c.raise
  | _ => c.give s []

def attach (c : Collected) (s : Switch) (value : Text) : Except UsageStop Collected := do
  (← c.settle).give s value

def expect (c : Collected) (s : Switch) : Except UsageStop Collected := do
  return { ← c.settle with pending := .switch s none }

/-- Single-letter switches in one argument. The first that takes a value takes what is left,
less one `=`. -/
def takeCluster (c : Collected) : Text → Except UsageStop Collected
  | [] => .ok c
  | l :: r =>
    match c.scope.switches.find? (·.letter? == some l) with
    | none => c.misused (.unknownLetter l)
    | some s =>
      if s.takesValue then
        match r with
        | [] => c.expect s
        | '=' :: value => c.attach s value
        | value => c.attach s value
      else do takeCluster (← c.flip s) r

def takeLong (c : Collected) (name : Text) (value : Option Text) (rest : List Text) :
    Except UsageStop Collected :=
  match c.scope.switches.find? (·.name == name), value with
  | none, _ => c.misused (.unknownName name c.mentionedAll rest)
  | some s, some v =>
    if s.takesValue then c.attach s v else c.misused (.unwantedValue s v c.mentioned)
  | some s, none => if s.takesValue then c.expect s else c.flip s

def operandCount (c : Collected) : Nat :=
  c.operands.length + match c.pending with
    | .operand _ => 1
    | _ => 0

def takeOperand (c : Collected) (value : Text) : Except UsageStop Collected :=
  if c.operandCount < c.scope.operands.length then do
    return { ← c.settle with pending := .operand value }
  else c.misused (.extraOperand value)

def take (c : Collected) (argument : Text) (rest : List Text) : Except UsageStop Collected :=
  if c.onlyOperands then c.takeOperand argument
  else
    match Token.ofArgument argument with
    | .escape => .ok { c with onlyOperands := true }
    | .long name value => c.takeLong name value rest
    | .cluster letters => c.takeCluster letters
    | .word text =>
      match c.pending with
      | .switch s none => .ok { c with pending := .switch s (some text) }
      | _ => c.takeOperand text

def takeAll (c : Collected) : List Text → Except UsageStop Collected
  | [] => .ok c
  | argument :: rest => do takeAll (← c.take argument rest) rest

def finish (c : Collected) : Except UsageStop Collected := do
  let c ← c.settle
  if c.operands.length < c.scope.operands.length then
    c.misused (.missingOperand c.operands.length c.mentioned)
  else return c

end Collected

/-- What a check is asked for; values that are absent fall back to the configuration. -/
structure CheckOptions where
  config : Option Path
  formatter : Option Path
  fixtures : Option Path
  extension : Option Text
  timeoutSecs : Option Nat
  showCanonical : Bool
  noColor : Bool
  jsonSummary : Option Path
  deriving DecidableEq, Repr

structure CompareOptions where
  source : Path
  formatted : Path
  showCanonical : Bool
  noColor : Bool
  deriving DecidableEq, Repr

inductive Command where
  | check (options : CheckOptions)
  | canonicalize (file : Path)
  | compare (options : CompareOptions)
  deriving DecidableEq, Repr

structure CommandLine where
  verbose : Nat
  command : Command
  deriving DecidableEq, Repr

namespace CheckOptions

def ofCollected (c : Collected) : CheckOptions where
  config := (c.value? .config).map .ofText
  formatter := (c.value? .formatter).map .ofText
  fixtures := (c.value? .fixtures).map .ofText
  extension := c.value? .extension
  timeoutSecs := (c.value? .timeoutSecs).bind timeoutOfText?
  showCanonical := c.has .showCanonical
  noColor := c.has .noColor
  jsonSummary := (c.value? .jsonSummary).map .ofText

end CheckOptions

namespace Command

def ofCollected (name : CommandName) (c : Collected) : Except UsageStop Command :=
  match name, c.operands with
  | .check, [] => .ok (.check (.ofCollected c))
  | .canonicalize, [file] => .ok (.canonicalize (.ofText file))
  | .compare, [source, formatted] =>
    .ok (.compare
      ⟨.ofText source, .ofText formatted, c.has .showCanonical, c.has .noColor⟩)
  | name, operands =>
    .error (.misused (.command name) (.missingOperand operands.length c.mentioned))

end Command

namespace CommandLine

def ofCommand (verbose : Nat) (name : CommandName) (arguments : List Text) :
    Except UsageStop CommandLine := do
  let c ← (← (Collected.start (.command name)).takeAll arguments).finish
  let command ← Command.ofCollected name c
  return ⟨if c.verbose > 0 then c.verbose else verbose, command⟩

/-- The words behind `help` lead to a command or to `help` itself, and no further. -/
def stopForHelp : List Text → UsageStop
  | [] => .help .program
  | t :: rest =>
    let scope? : Option Scope :=
      if t = Scope.helpWord then some .help else (CommandName.ofName? t).map .command
    match scope?, rest with
    | none, _ => .misused .program (.unknownTopic t)
    | some scope, [] => .help scope
    | some scope, t' :: _ => .misused scope (.unknownTopic t')

def read (c : Collected) : List Text → Except UsageStop CommandLine
  | [] => if c.verbose = 0 then .error .nothingGiven else .error (.misused .program .missingCommand)
  | argument :: rest =>
    if c.onlyOperands then
      .error (.misused .program
        (if Scope.isCommandWord argument then .commandBehindEscape argument
          else .unknownCommand argument))
    else
      match Token.ofArgument argument with
      | .word t =>
        if t = Scope.helpWord then .error (stopForHelp rest)
        else
          match CommandName.ofName? t with
          | some name => ofCommand c.verbose name rest
          | none => .error (.misused .program (.unknownCommand t))
      | _ => do read (← c.take argument rest) rest

def parse (arguments : List Text) : Except UsageStop CommandLine := read (.start .program) arguments

end CommandLine

end LayoutCheck
