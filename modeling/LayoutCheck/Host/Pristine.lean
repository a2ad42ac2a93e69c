import LayoutCheck.Host.FileTree
import LayoutCheck.Host.Pattern

/-! # A fresh host and its programs

The programs in their directories, the devices, and an empty working directory two levels below a
temporary one. A file can be started if it is one of the programs, or if its first line names an
interpreter that can. The interpreter gets the rest of that line as one argument, then the path of
the file. -/

namespace LayoutCheck

def Program.name : Program → Text
  | .basename => "basename".toList
  | .cat => "cat".toList
  | .chmod => "chmod".toList
  | .cp => "cp".toList
  | .cut => "cut".toList
  | .dirname => "dirname".toList
  | .echo => "echo".toList
  | .env => "env".toList
  | .exitFalse => "false".toList
  | .exitTrue => "true".toList
  | .grep => "grep".toList
  | .head => "head".toList
  | .kill => "kill".toList
  | .ln => "ln".toList
  | .ls => "ls".toList
  | .mkdir => "mkdir".toList
  | .mv => "mv".toList
  | .printf => "printf".toList
  | .rev => "rev".toList
  | .rm => "rm".toList
  | .rmdir => "rmdir".toList
  | .sed => "sed".toList
  | .seq => "seq".toList
  | .sh => "sh".toList
  | .sleep => "sleep".toList
  | .sort => "sort".toList
  | .tac => "tac".toList
  | .tail => "tail".toList
  | .tee => "tee".toList
  | .test => "test".toList
  | .touch => "touch".toList
  | .tr => "tr".toList
  | .uniq => "uniq".toList
  | .wc => "wc".toList
  | .yes => "yes".toList

def Program.all : List Program :=
  [.basename, .cat, .chmod, .cp, .cut, .dirname, .echo, .env, .exitFalse, .exitTrue, .grep,
    .head, .kill, .ln, .ls, .mkdir, .mv, .printf, .rev, .rm, .rmdir, .sed, .seq, .sh, .sleep,
    .sort, .tac, .tail, .tee, .test, .touch, .tr, .uniq, .wc, .yes]

namespace FileTree

def searchDirs : List Path :=
  ["/usr/local/bin", "/usr/bin", "/bin"].map fun d => .ofText d.toList

def pristine : FileTree :=
  let programs : Node := .directory (Program.all.map fun p => (p.name.utf8, .program p))
  let name (s : String) : Name := Text.utf8 s.toList
  { root := .directory
      [ (name "bin", .link (.ofText "usr/bin".toList)),
        (name "dev", .directory
          [(name "full", .device .full), (name "null", .device .null),
            (name "stderr", .device .errors), (name "stdout", .device .output),
            (name "zero", .device .zero)]),
        (name "tmp", .directory
          [(name "area", .directory
            [(name "outer", .directory [(name "work", .directory [])])])]),
        (name "usr", .directory
          [(name "bin", programs), (name "local", .directory [(name "bin", .directory [])])]) ]
    workingDir := ["tmp", "area", "outer", "work"].map name }

end FileTree

/-- A program, the name it is called by, and the arguments that come before those of the
caller. -/
structure Executable where
  program : Program
  called : Octets
  arguments : List Octets

namespace Executable

def headLength : Nat := 256

def isBlankByte (c : Char) : Bool := c == ' ' || c == '\t'

def trimBlankEnd (t : Octets) : Octets := (t.reverse.dropWhile isBlankByte).reverse

/-- The interpreter and its argument on a first line that starts with `#!`. A line that is
blank, or that may be cut short within the name, is no such line. A file that ends before the
name leaves an empty one. -/
def interpreter? (content : Octets) : Except Errno (Octets × Option Octets) :=
  match content.take headLength with
  | '#' :: '!' :: body =>
    let line := body.takeWhile (· != '\n')
    let ends := line.length < body.length
    let named := line.dropWhile isBlankByte
    let name := named.takeWhile fun c => !isBlankByte c && c != '\x00'
    let rest := named.drop name.length
    let argument := (trimBlankEnd (rest.dropWhile isBlankByte)).takeWhile (· != '\x00')
    if named = [] && (ends || content.length ≥ headLength) then .error .badExecutable
    else if rest = [] && !ends && content.length ≥ headLength then .error .badExecutable
    else .ok (name, if argument = [] then none else some argument)
  | _ => .error .badExecutable

def maxChain : Nat := 5

def ofPath (t : FileTree) : Nat → Path → Except Errno Executable
  | 0, _ => .error .tooManyLinks
  | fuel + 1, p => do
    match ← t.node p with
    | .program which => return ⟨which, Octets.ofPath p, []⟩
    | .file content true =>
      let (name, argument) ← interpreter? (Octets.ofBytes (content.take headLength))
      if name = [] then .error .noPermission
      let inner ← ofPath t fuel (Octets.toPath name)
      return { inner with
        arguments := inner.arguments ++ argument.toList ++ [Octets.ofPath p] }
    | _ => .error .noPermission

/-- Tries the directories in order. A file that is there and cannot be started is remembered
while the search goes on. A program that was looked up is called by its bare name. -/
def search (t : FileTree) (name : Path) (denied : Bool) : List Path → Except Errno Executable
  | [] => .error (if denied then .noPermission else .noEntry)
  | d :: ds =>
    match ofPath t maxChain (d.join name) with
    | .ok e => .ok (if e.arguments = [] then { e with called := Octets.ofPath name } else e)
    | .error e =>
      if e = .noEntry || e = .notDirectory then search t name denied ds
      else if e = .noPermission then search t name true ds
      else .error e

/-- A command with a separator is a path; any other is looked up. -/
def find (t : FileTree) (dirs : List Path) (command : Path) : Except Errno Executable :=
  if command.bytes = [] then .error .noEntry
  else if command.bytes.contains Path.slash then ofPath t maxChain command
  else if command.bytes.length > FileTree.maxNameLength then .error .nameTooLong
  else search t command false dirs

end Executable

end LayoutCheck
