import DebugRecovery.Association
import DebugRecovery.Files.Path

/-!
A tree of files and directories and the operations on it. A path is followed
part by part from the working directory or the root; every part but the last has
to lead to a directory that may be searched, and a path with a zero character in
it leads nowhere. An operation that fails keeps what it did before: a file that
is overwritten is emptied first, and when its room runs out it holds what was
written until then.
-/

set_option autoImplicit false

namespace DebugRecovery

/-- A position in the tree: the names from there up to the root. -/
abbrev Place := List String

/-- A device takes what is written to it and keeps nothing. -/
inductive Node where
  | directory
  | file (content : ByteArray)
  | device

inductive Right where
  | read
  | write
  | search
  deriving DecidableEq, Repr

/-- What there can be too little of for a file to grow. -/
inductive Shortage where
  | space
  | fileSize
  deriving DecidableEq, Repr

structure Room where
  size : Nat
  shortage : Shortage
  deriving DecidableEq, Repr

/-- What is followed from level to level, as far as the stack reaches. -/
inductive Nesting where
  | document
  | output
  | type
  | directory
  deriving DecidableEq, Repr

/-- What the system denies, how large files can be and how deep its stack reaches. Where no number
is given there is no end. -/
structure Limits where
  closed : Right → Place → Bool := fun _ _ => false
  room : Place → Option Room := fun _ => none
  depth : Nesting → Option Nat := fun _ => none

structure FileTree where
  nodes : List (Place × Node)
  workingDirectory : Place
  limits : Limits := {}

inductive FileProblem where
  | zeroInPath
  | tooDeep
  | nowhere
  | missing
  | exists
  | notDirectory
  | isDirectory
  | denied
  | nameTooLong
  | short (shortage : Shortage)
  deriving DecidableEq, Repr

namespace FileProblem

def text : FileProblem → String
  | .zeroInPath => "embedded null byte"
  | .tooDeep => "maximum recursion depth exceeded"
  | .nowhere => "[Errno 2] No such file or directory"
  | .missing => "[Errno 2] No such file or directory"
  | .exists => "[Errno 17] File exists"
  | .notDirectory => "[Errno 20] Not a directory"
  | .isDirectory => "[Errno 21] Is a directory"
  | .denied => "[Errno 13] Permission denied"
  | .nameTooLong => "[Errno 36] File name too long"
  | .short .space => "[Errno 28] No space left on device"
  | .short .fileSize => "[Errno 27] File too large"

/-- Whether a problem is told with the path it came up for. -/
def hasPath : FileProblem → Bool
  | .zeroInPath => false
  | .tooDeep => false
  | .nowhere => false
  | .short _ => false
  | _ => true

/-- Whether a path with the problem counts as one that leads nowhere when it is looked up. -/
def isAbsence : FileProblem → Bool
  | .zeroInPath => true
  | .missing => true
  | .notDirectory => true
  | _ => false

end FileProblem

structure FileError where
  problem : FileProblem
  path : Path
  deriving DecidableEq, Repr

def FileError.message (error : FileError) : String :=
  if error.problem.hasPath then s!"{error.problem.text}: {error.path.quoted}"
  else error.problem.text

/-- Whether the stack reaches to a level. -/
def Limits.reaches (limits : Limits) (nesting : Nesting) (level : Nat) : Bool :=
  match limits.depth nesting with
  | none => true
  | some depth => level ≤ depth

/-- What is taken of some bytes after those that a file holds, and what there was too little of if
that is not all. -/
def Limits.taken (limits : Limits) (place : Place) (held more : ByteArray) :
    ByteArray × Option Shortage :=
  match limits.room place with
  | none => (more, none)
  | some room =>
      let left := room.size - held.size
      if more.size ≤ left then (more, none) else (more.extract 0 left, some room.shortage)

namespace FileTree

def node? (tree : FileTree) (place : Place) : Option Node :=
  if place.isEmpty then some .directory else tree.nodes.lookup place

/-- Where a part of a path leads from a place. -/
def enter (tree : FileTree) (place : Place) (part : String) : Except FileProblem Place :=
  match tree.node? place with
  | none => .error .missing
  | some (.file _) => .error .notDirectory
  | some .device => .error .notDirectory
  | some .directory =>
      if tree.limits.closed .search place then .error .denied
      else if Path.isLongName part then .error .nameTooLong
      else .ok (if part == ".." then place.drop 1 else part :: place)

/-- Where a list of parts leads from a place. -/
def walk (tree : FileTree) : Place → List String → Except FileProblem Place
  | place, [] => .ok place
  | place, part :: parts => do tree.walk (← tree.enter place part) parts

def locate (tree : FileTree) (path : Path) : Except FileProblem Place :=
  if path.hasZero then .error .zeroInPath
  else if path.isLong then .error .nameTooLong
  else tree.walk (if path.anchor == .workingDirectory then tree.workingDirectory else []) path.parts

/-- The path of the working directory, which may be gone. -/
def currentPath (tree : FileTree) : Except FileError Path :=
  match tree.node? tree.workingDirectory with
  | some .directory => .ok ⟨.root, tree.workingDirectory.reverse⟩
  | _ => .error ⟨.nowhere, ⟨.workingDirectory, []⟩⟩

/-- What a path leads to, if to anything. Not every path can be looked up. -/
def find? (tree : FileTree) (path : Path) : Except FileError (Option Node) :=
  match tree.locate path with
  | .ok place => .ok (tree.node? place)
  | .error problem => if problem.isAbsence then .ok none else .error ⟨problem, path⟩

def isFile (tree : FileTree) (path : Path) : Except FileError Bool :=
  (tree.find? path).map fun
    | some (.file _) => true
    | _ => false

def isDirectory (tree : FileTree) (path : Path) : Except FileError Bool :=
  (tree.find? path).map fun
    | some .directory => true
    | _ => false

/-- A device has nothing to read. -/
def read (tree : FileTree) (path : Path) : Except FileError ByteArray :=
  match tree.locate path with
  | .error problem => .error ⟨problem, path⟩
  | .ok place =>
      match tree.node? place with
      | none => .error ⟨.missing, path⟩
      | some node =>
          if tree.limits.closed .read place then .error ⟨.denied, path⟩
          else match node with
            | .directory => .error ⟨.isDirectory, path⟩
            | .file content => .ok content
            | .device => .ok .empty

/-- The tree with a node at a place, instead of the old one if there was any. -/
def put (tree : FileTree) (place : Place) (node : Node) : FileTree :=
  { tree with nodes := Association.put place node tree.nodes }

/-- A step on the tree that may fail. -/
abbrev Action := EStateM FileError FileTree

/-- Only who may write to a directory can make something in it. -/
def makeDirectory (path : Path) : Action Unit := fun tree =>
  match tree.locate path with
  | .error problem => .error ⟨problem, path⟩ tree
  | .ok place =>
      match tree.node? place with
      | some _ => .error ⟨.exists, path⟩ tree
      | none =>
          if tree.limits.closed .write (place.drop 1) then .error ⟨.denied, path⟩ tree
          else .ok () (tree.put place .directory)

/-- A directory that is there already is no failure. -/
def ensureDirectory (path : Path) : Action Unit := fun tree =>
  match makeDirectory path tree with
  | .ok done later => .ok done later
  | .error error later =>
      if error.problem == .missing then .error error later
      else match later.isDirectory path with
        | .ok true => .ok () later
        | .ok false => .error error later
        | .error unseen => .error unseen later

/-- Makes the directory with the given parts, the last one first, and those above it that are
missing; so many directories below it are waiting for it. -/
def makeDirectoriesAt (anchor : Anchor) (waiting : Nat) : List String → Action Unit
  | [] => ensureDirectory ⟨anchor, []⟩
  | part :: above => fun tree =>
      let path : Path := ⟨anchor, (part :: above).reverse⟩
      match ensureDirectory path tree with
      | .ok done later => .ok done later
      | .error error later =>
          if error.problem != .missing then .error error later
          else if !later.limits.reaches .directory (waiting + 1) then .error ⟨.tooDeep, path⟩ later
          else match makeDirectoriesAt anchor (waiting + 1) above later with
            | .ok _ ready => ensureDirectory path ready
            | failed => failed

def makeDirectories (path : Path) : Action Unit :=
  makeDirectoriesAt path.anchor 0 path.parts.reverse

/-- What was opened to be written to: what a file at a place holds, or a device. -/
inductive Target where
  | file (content : ByteArray)
  | device

/-- What stays of a target when it is opened. -/
def Target.kept (keep : ByteArray → ByteArray) : Target → ByteArray
  | .file content => keep content
  | .device => .empty

/-- The tree when a content went to a target. -/
def Target.holding (tree : FileTree) (place : Place) (content : ByteArray) : Target → FileTree
  | .file _ => tree.put place (.file content)
  | .device => tree

/-- The place to write to and what is there; a missing file is made. -/
def openToWrite (tree : FileTree) (path : Path) : Except FileError (Place × Target) :=
  match tree.locate path with
  | .error problem => .error ⟨problem, path⟩
  | .ok place =>
      match tree.node? place with
      | some .directory => .error ⟨.isDirectory, path⟩
      | some (.file content) =>
          if tree.limits.closed .write place then .error ⟨.denied, path⟩
          else .ok (place, .file content)
      | some .device =>
          if tree.limits.closed .write place then .error ⟨.denied, path⟩ else .ok (place, .device)
      | none =>
          if tree.limits.closed .write (place.drop 1) then .error ⟨.denied, path⟩
          else .ok (place, .file .empty)

/-- Opens what a path leads to, keeps some of what it holds and writes behind that. -/
def write (path : Path) (keep : ByteArray → ByteArray) (more : ByteArray) : Action Unit :=
  fun tree =>
    match tree.openToWrite path with
    | .error error => .error error tree
    | .ok (place, target) =>
        let kept := target.kept keep
        let (taken, shortage) := tree.limits.taken place kept more
        let later := target.holding tree place (kept ++ taken)
        match shortage with
        | none => .ok () later
        | some shortage => .error ⟨.short shortage, path⟩ later

def overwrite (path : Path) (content : ByteArray) : Action Unit :=
  write path (fun _ => .empty) content

def append (path : Path) (more : ByteArray) : Action Unit := write path id more

end FileTree

end DebugRecovery
