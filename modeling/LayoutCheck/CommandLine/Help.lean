import LayoutCheck.CommandLine
import LayoutCheck.Text

/-! # Help pages and complaints

A page says what a scope is for, how it is used, and what its commands, operands and switches are.
A complaint is a message, perhaps tips, the usage line where it helps, and a pointer to the help. A
tip names the known word that is most like the one that was given. -/

namespace LayoutCheck

namespace Likeness

def reach (a b : Text) : Nat := max a.length b.length / 2 - 1

/-- The first free place of `b` that agrees with a place of `a`. -/
def partner? (a b : Text) (taken : List Nat) (place : Nat) (c : Char) : Option Nat :=
  (List.range b.length).find? fun j =>
    b[j]? == some c && place ≤ j + reach a b && j ≤ place + reach a b && !taken.contains j

def pairs (a b : Text) : List (Nat × Nat) :=
  a.zipIdx.foldl (fun found (c, i) =>
    match partner? a b (found.map (·.2)) i c with
    | some j => found ++ [(i, j)]
    | none => found) []

/-- Half the number of agreeing places whose characters differ when both words are read in
order. -/
def disorder (a b : Text) (found : List (Nat × Nat)) : Nat :=
  let left := found.filterMap fun p => a[p.1]?
  let right := (List.range b.length).filterMap fun j =>
    if found.any (·.2 == j) then b[j]? else none
  ((left.zip right).filter fun p => p.1 ≠ p.2).length / 2

/-- The mean of three shares, as a fraction: of either word the part that agrees, and of the
agreeing places those in order. -/
def fraction (a b : Text) : Nat × Nat :=
  let found := pairs a b
  let m := found.length
  if m = 0 then (if a = b then 1 else 0, 1)
  else
    (m * m * (a.length + b.length) + (m - disorder a b found) * a.length * b.length,
      3 * m * a.length * b.length)

/-- More than seven tenths. -/
def areAlike (a b : Text) : Bool :=
  let f := fraction a b
  7 * f.2 < 10 * f.1

def similar (t : Text) (words : List Text) : List Text :=
  (words.filter (areAlike t)).mergeSort fun x y =>
    (fraction t x).1 * (fraction t y).2 ≤ (fraction t y).1 * (fraction t x).2

def mostSimilar? (t : Text) (words : List Text) : Option Text := (similar t words).getLast?

end Likeness

namespace Switch

def summary (s : Switch) : Text :=
  let words : String := match s with
    | help => "Print help"
    | version => "Print version"
    | verbose => "Raise log verbosity (-v info, -vv debug, -vvv trace). Logs go to stderr"
    | config => "YAML config file; flags given here override its values"
    | formatter => "Path to the formatter executable under test"
    | fixtures => "Directory holding the fixtures (not searched recursively)"
    | extension => "Fixture file extension, with or without the leading dot"
    | timeoutSecs => "Seconds to wait for the formatter on each file"
    | jsonSummary => "Also write a JSON summary of the run to this file"
    | showCanonical => "Print both canonical forms when a file diverges"
    | noColor => "Disable colored output"
  words.toList

def heading (s : Switch) : Text :=
  (match s.letter? with
    | some l => ['-', l, ',', ' ']
    | none => List.replicate 4 ' ') ++ s.form

end Switch

namespace CommandName

def summary : CommandName → Text
  | check => "Run the formatter over every fixture and compare canonical forms".toList
  | canonicalize => "Print the canonical form of a file".toList
  | compare => "Compare two files directly, without running a formatter".toList

def summaryOf (n : CommandName) (s : Switch) : Text :=
  if n = compare ∧ s = .showCanonical then
    "Print both canonical forms when the files diverge".toList
  else s.summary

/-- The switches in the order of the help: verbosity follows the first of its own. -/
def listed (n : CommandName) : List Switch :=
  n.ownSwitches.take 1 ++ .verbose :: n.ownSwitches.drop 1 ++ [.help]

end CommandName

namespace Help

def version : Text := "fmtequiv 0.1.0\n".toList

def helpSummary : Text := "Print this message or the help of the given subcommand(s)".toList

def table (title : String) (rows : List (Text × Text)) : List Text :=
  let width := (rows.map fun r => r.1.length).foldl max 0
  let line (r : Text × Text) : Text :=
    "  ".toList ++ r.1 ++ List.replicate (width + 2 - r.1.length) ' ' ++ r.2 ++ ['\n']
  if rows = [] then [] else [title.toList ++ ":\n".toList ++ rows.flatMap line]

def about : Scope → Text
  | .program =>
    "Checks that a source formatter only changes layout, comments and terminators.".toList
  | .command n => n.summary
  | .help => helpSummary

def commandRows : List (Text × Text) :=
  CommandName.all.map (fun n => (n.name, n.summary)) ++ [(Scope.helpWord, helpSummary)]

def switchRows : Scope → List (Text × Text)
  | .program => Scope.program.switches.map fun s => (s.heading, s.summary)
  | .command n => n.listed.map fun s => (s.heading, n.summaryOf s)
  | .help => []

def page (s : Scope) : Text :=
  let tables := (if s = .program then table "Commands" commandRows else [])
    ++ table "Arguments" (s.operands.map fun o => (o.form, o.summary))
    ++ table "Options" (switchRows s)
  about s ++ "\n\n".toList ++ s.usage ++ "\n\n".toList ++ Text.joinWith ['\n'] tables

end Help

namespace Misuse

def quoted (t : Text) : Text := '\'' :: t ++ ['\'']

def timeoutFault (t : Text) : Text :=
  let digits := (Text.dropLead? ['+'] t).getD t
  let lead := digits.takeWhile Char.isDigit
  if t = [] then "cannot parse integer from empty string".toList
  else if Nat.ofDigitChars 10 lead 0 ≥ Nat.pow 2 64 then
    "number too large to fit in target type".toList
  else if digits = [] ∨ lead ≠ digits then "invalid digit found in string".toList
  else "0 is not in 1..".toList ++ Text.ofNat (Nat.pow 2 64 - 1)

def noValue (form : Text) : Text :=
  "a value is required for ".toList ++ quoted form ++ " but none was supplied".toList

def unexpected (argument : Text) : Text :=
  "unexpected argument ".toList ++ quoted argument ++ " found".toList

def longForm (name : Text) : Text := "--".toList ++ name

def message (scope : Scope) : Misuse → Text
  | missingCommand => quoted scope.path
      ++ " requires a subcommand but one was not provided\n  [subcommands: ".toList
      ++ Text.joinWith ", ".toList Scope.commandWords ++ [']']
  | unknownCommand t | unknownTopic t => "unrecognized subcommand ".toList ++ quoted t
  | commandBehindEscape t | extraOperand t => unexpected t
  | unknownLetter l => unexpected ['-', l]
  | unknownName t _ _ => unexpected (longForm t)
  | emptyValue s => noValue s.form
  | emptyOperand k => noValue ((scope.operands[k]?.map Operand.form).getD [])
  | badValue s v =>
    "invalid value ".toList ++ quoted v ++ " for ".toList ++ quoted s.form ++ ": ".toList
      ++ timeoutFault v
  | repeated s => "the argument ".toList ++ quoted s.form ++ " cannot be used multiple times".toList
  | unwantedValue s v _ =>
    "unexpected value ".toList ++ quoted v ++ " for ".toList ++ quoted s.form
      ++ " found; no more were expected".toList
  | missingOperand k _ => "the following required arguments were not provided:".toList
      ++ (scope.operands.drop k).flatMap fun o => "\n  ".toList ++ o.form

def meant? (scope : Scope) (name : Text) : Option Switch := do
  let t ← Likeness.mostSimilar? name (scope.switches.map Switch.name)
  scope.switches.find? (·.name == t)

def meantOf? (name : Text) (rest : List Text) : Option (CommandName × Text) :=
  rest.findSome? fun t => do
    let command ← CommandName.ofName? t
    let switches := (Scope.command command).switches.map Switch.name
    return (command, ← Likeness.mostSimilar? name switches)

def asValue (scope : Scope) (argument : Text) : List Text :=
  if scope.operands = [] then []
  else ["to pass ".toList ++ quoted argument ++ " as a value, use ".toList
    ++ quoted ("-- ".toList ++ argument)]

def tips (scope : Scope) : Misuse → List Text
  | unknownCommand t =>
    match Likeness.similar t Scope.commandWords with
    | [] => []
    | [w] => ["a similar subcommand exists: ".toList ++ quoted w]
    | ws => ["some similar subcommands exist: ".toList
        ++ Text.joinWith ", ".toList (ws.map quoted)]
  | commandBehindEscape t =>
    ["subcommand ".toList ++ quoted t ++ " exists; to use it, remove the ".toList
      ++ quoted "--".toList ++ " before it".toList]
  | unknownLetter l => asValue scope ['-', l]
  | unknownName t _ rest =>
    match meant? scope t with
    | some s => ["a similar argument exists: ".toList ++ quoted (longForm s.name)]
    | none =>
      match if scope = .program then meantOf? t rest else none with
      | some (command, w) => [quoted (command.name ++ ' ' :: longForm w) ++ " exists".toList]
      | none => asValue scope (longForm t)
  | _ => []

def withSwitch (s : Switch) (given : List Switch) : List Switch :=
  if given.contains s then given else given ++ [s]

/-- The usage line; none for a bad value. It names the switches when some of them matter. -/
def usage? (scope : Scope) : Misuse → Option Text
  | emptyValue _ | emptyOperand _ | badValue _ _ => none
  | unknownName t given _ =>
    let mattering := match meant? scope t with
      | some s => withSwitch s given
      | none => given
    some (if mattering = [] then scope.usage else scope.usageNaming mattering)
  | unwantedValue s _ given => some (scope.usageNaming (withSwitch s given))
  | missingOperand _ given => some (scope.usageNaming given)
  | _ => some scope.usage

def complaint (scope : Scope) (why : Misuse) : Text :=
  let tips := (why.tips scope).flatMap fun t => "\n  tip: ".toList ++ t
  "error: ".toList ++ why.message scope ++ (if tips = [] then [] else '\n' :: tips)
    ++ ((why.usage? scope).map ("\n\n".toList ++ ·)).getD []
    ++ (if scope = .help then [] else "\n\nFor more information, try \x27--help\x27.".toList)
    ++ ['\n']

end Misuse

end LayoutCheck
