import LayoutCheck.Fault
import LayoutCheck.Text

/-! # File trees

Directories, files and symbolic links as one value. Paths are resolved from a working directory the
way a system call does it: links are followed up to a limit, and `..` leaves the directory that was
really reached. -/

namespace LayoutCheck

abbrev Name := Bytes

inductive Program where
  | basename
  | cat
  | chmod
  | cp
  | cut
  | dirname
  | echo
  | env
  | exitFalse
  | exitTrue
  | grep
  | head
  | kill
  | ln
  | ls
  | mkdir
  | mv
  | printf
  | rev
  | rm
  | rmdir
  | sed
  | seq
  | sh
  | sleep
  | sort
  | tac
  | tail
  | tee
  | test
  | touch
  | tr
  | uniq
  | wc
  | yes
  deriving DecidableEq, Repr

/-- `output` and `errors` lead to the streams of the process. -/
inductive Device where
  | null
  | zero
  | full
  | output
  | errors
  deriving DecidableEq, Repr

inductive Node where
  | file (content : Bytes) (executable : Bool)
  | directory (entries : List (Name × Node))
  | link (target : Path)
  | program (which : Program)
  | device (which : Device)

inductive FileKind where
  | regular
  | directory
  | other
  deriving DecidableEq, Repr

namespace Node

def kind : Node → FileKind
  | file _ _ => .regular
  | directory _ => .directory
  | link _ => .other
  | program _ => .regular
  | device _ => .other

def child? : Node → Name → Option Node
  | directory entries, n => entries.lookup n
  | _, _ => none

/-- The node at the end of a list of names, links not followed. -/
def get? (node : Node) : List Name → Option Node
  | [] => some node
  | n :: ns => (node.child? n).bind (·.get? ns)

/-- Puts an entry in the place of the one with the same name, or last. -/
def setEntry (n : Name) (x : Node) : List (Name × Node) → List (Name × Node)
  | [] => [(n, x)]
  | (m, y) :: rest => if m = n then (n, x) :: rest else (m, y) :: setEntry n x rest

/-- Puts a node at the end of a list of names; directories on the way are made. -/
def put (node : Node) (x : Node) : List Name → Node
  | [] => x
  | n :: ns =>
    let below := (node.child? n).getD (.directory [])
    match node with
    | .directory entries => .directory (setEntry n (below.put x ns) entries)
    | _ => .directory [(n, below.put x ns)]

def remove (node : Node) : List Name → Node
  | [] => node
  | [n] =>
    match node with
    | .directory entries => .directory (entries.filter (·.1 != n))
    | _ => node
  | n :: ns =>
    match node, node.child? n with
    | .directory entries, some below => .directory (setEntry n (below.remove ns) entries)
    | _, _ => node

end Node

/-- `unlistable` tells the directories that the host does not list, with the error it gives. Such
a directory can still be walked through. -/
structure FileTree where
  root : Node
  workingDir : List Name
  unlistable : List Name → Option Errno := fun _ => none

namespace FileTree

def selfName : Name := [Path.dot]

def parentName : Name := [Path.dot, Path.dot]

structure Place where
  names : List Name
  node : Option Node

def maxLinks : Nat := 40

def maxNameLength : Nat := 255

def maxPathLength : Nat := 4095

/-- What lies behind a separator at the end; it asks for a directory. -/
def emptyName : Name := []

def steps (p : Path) : List Name :=
  p.components ++ if p.asksDirectory then [emptyName] else []

/-- What a path is resolved for: the link itself, what it leads to, or a file to be made where
there is none. -/
inductive Purpose where
  | link
  | target
  | making
  deriving DecidableEq, Repr

/-- Walks from a directory. `links` is how many links may still be followed. The last name
may be missing, and no directory can be made. -/
def walk (t : FileTree) (purpose : Purpose) (links : Nat) (here : List Name)
    (todo : List Name) : Except Errno Place :=
  match todo with
  | [] => .ok ⟨here, t.root.get? here⟩
  | n :: rest =>
    match t.root.get? here with
    | none => .error .noEntry
    | some (.directory _) =>
      if n = selfName ∨ n = emptyName then walk t purpose links here rest
      else if n = parentName then walk t purpose links here.dropLast rest
      else if purpose = .making ∧ rest = [emptyName] then .error .isDirectory
      else if n.length > maxNameLength then .error .nameTooLong
      else
        let there := here ++ [n]
        match t.root.get? there with
        | none => if rest = [] then .ok ⟨there, none⟩ else .error .noEntry
        | some (.link target) =>
          if rest = [] ∧ purpose = .link then .ok ⟨there, some (.link target)⟩
          else
            match links with
            | 0 => .error .tooManyLinks
            | links + 1 =>
              let base := if target.isAbsolute then [] else here
              walk t purpose links base (steps target ++ rest)
        | some _ => walk t purpose links there rest
    | some _ => .error .notDirectory
termination_by (links, todo.length)

def locate (t : FileTree) (purpose : Purpose) (p : Path) : Except Errno Place :=
  if p.bytes = [] then .error .noEntry
  else if p.bytes.length > maxPathLength then .error .nameTooLong
  else t.walk purpose maxLinks (if p.isAbsolute then [] else t.workingDir) (steps p)

/-- Whether a path can be walked at all does not depend on the tree. -/
theorem locate_eq_walk {t : FileTree} {purpose : Purpose} {p : Path} {place : Place}
    (hl : t.locate purpose p = .ok place) (t' : FileTree) (purpose' : Purpose) :
    t'.locate purpose' p =
      t'.walk purpose' maxLinks (if p.isAbsolute then [] else t'.workingDir) (steps p) := by
  unfold locate at hl ⊢
  split at hl
  · cases hl
  · next hne =>
    split at hl
    · cases hl
    · next hlong => rw [if_neg hne, if_neg hlong]

theorem bytes_ne_nil_of_locate {t : FileTree} {purpose : Purpose} {p : Path} {place : Place}
    (hl : t.locate purpose p = .ok place) : p.bytes ≠ [] := by
  intro hempty
  rw [locate, if_pos hempty] at hl
  cases hl

def node (t : FileTree) (p : Path) : Except Errno Node := do
  match (← t.locate .target p).node with
  | some n => .ok n
  | none => .error .noEntry

theorem node_of_locate {t : FileTree} {p : Path} {names : List Name} {x : Node}
    (hl : t.locate .target p = .ok ⟨names, some x⟩) : t.node p = .ok x := by
  rw [node, hl]
  rfl

def hasNul (p : Path) : Bool := p.bytes.contains 0

def kind? (t : FileTree) (p : Path) : Option FileKind :=
  if hasNul p then none
  else
    match t.node p with
    | .ok n => some n.kind
    | .error _ => none

def exists? (t : FileTree) (p : Path) : Bool := (t.kind? p).isSome

def isDirectory (t : FileTree) (p : Path) : Bool := t.kind? p == some .directory

def entries (t : FileTree) (p : Path) : Except Errno (List (Name × Node)) := do
  let place ← t.locate .target p
  match place.node, t.unlistable place.names with
  | some (.directory entries), none => .ok entries
  | some (.directory _), some e => .error e
  | some _, _ => .error .notDirectory
  | none, _ => .error .noEntry

def programBytes : Bytes := [0x7F, 0x45, 0x4C, 0x46, 0xFF]

/-- The bytes of a file. An endless device reads as empty here. -/
def contents (t : FileTree) (p : Path) : Except Errno Bytes := do
  match ← t.node p with
  | .file content _ => .ok content
  | .program _ => .ok programBytes
  | .device _ => .ok []
  | .directory _ => .error .isDirectory
  | .link _ => .error .tooManyLinks

def put (t : FileTree) (names : List Name) (node : Node) : FileTree :=
  { t with root := t.root.put node names }

/-- Replaces the content of a file, or makes the file. A device takes what it gets and keeps
nothing; a full one takes no byte. -/
def write (t : FileTree) (p : Path) (content : Bytes) : Except Errno FileTree := do
  let place ← t.locate .making p
  match place.node with
  | none => .ok (t.put place.names (.file content false))
  | some (.file _ exec) => .ok (t.put place.names (.file content exec))
  | some (.program _) => .ok (t.put place.names (.file content true))
  | some (.device .full) => if content = [] then .ok t else .error .noSpace
  | some (.device _) => .ok t
  | some (.directory _) => .error .isDirectory
  | some (.link _) => .error .tooManyLinks

def remove (t : FileTree) (names : List Name) : FileTree := { t with root := t.root.remove names }

def initialParts (names : List Name) : List (List Name) :=
  (List.range names.length).map fun k => names.take (k + 1)

def makeDirs (t : FileTree) (absolute : Bool) (names : List Name) : FileTree :=
  (initialParts names).foldl (fun t part =>
    match t.walk .target maxLinks (if absolute then [] else t.workingDir) part with
    | .ok ⟨place, none⟩ => { t with root := t.root.put (.directory []) place }
    | _ => t) t

inductive Furnishing where
  | file (content : Bytes) (executable : Bool)
  | directory
  | link (target : Path)

def furnish (t : FileTree) (p : Path) (what : Furnishing) : FileTree :=
  let names := p.components
  let t := t.makeDirs p.isAbsolute (match what with
    | .directory => names
    | _ => names.dropLast)
  let place (purpose : Purpose) (x : Node) : FileTree :=
    match t.locate purpose p with
    | .ok place => { t with root := t.root.put x place.names }
    | .error _ => t
  match what with
  | .directory => t
  | .file content exec => place .making (.file content exec)
  | .link target => place .link (.link target)

end FileTree

end LayoutCheck
