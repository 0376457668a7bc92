import DebugRecovery.Text.Quoted

/-!
File paths. A path is relative or starts at one of the two roots; empty parts
and single dots are dropped when it is read, double dots stay.
-/

set_option autoImplicit false

namespace DebugRecovery

inductive Anchor where
  | workingDirectory
  | root
  | doubleRoot
  deriving DecidableEq, Repr

def Anchor.text : Anchor → String
  | .workingDirectory => ""
  | .root => "/"
  | .doubleRoot => "//"

structure Path where
  anchor : Anchor
  parts : List String
  deriving DecidableEq, Repr

namespace Path

/-- The pieces between slashes, empty ones among them. -/
def splitSlashes : List Char → List (List Char)
  | [] => [[]]
  | character :: rest =>
      if character == '/' then [] :: splitSlashes rest
      else match splitSlashes rest with
        | [] => [[character]]
        | first :: others => (character :: first) :: others

def anchorOf : List Char → Anchor
  | ['/', '/'] => .doubleRoot
  | '/' :: '/' :: next :: _ => if next == '/' then .root else .doubleRoot
  | '/' :: _ => .root
  | _ => .workingDirectory

def ofText (text : String) : Path :=
  let characters := text.toList
  let pieces := (splitSlashes characters).map String.ofList
  ⟨anchorOf characters, pieces.filter fun piece => piece != "" && piece != "."⟩

def text (path : Path) : String :=
  if path.anchor == .workingDirectory && path.parts.isEmpty then "."
  else path.anchor.text ++ "/".intercalate path.parts

/-- The last part; empty for a path without parts. -/
def name (path : Path) : String := path.parts.getLastD ""

def parent (path : Path) : Path := { path with parts := path.parts.dropLast }

def child (path : Path) (name : String) : Path := { path with parts := path.parts ++ [name] }

/-- The path with an ending put on its last part, if it has one. -/
def extended? (path : Path) (ending : String) : Option Path :=
  if path.parts.isEmpty then none else some (path.parent.child (path.name ++ ending))

def quoted (path : Path) : String := Text.quoted path.text

/-- Whether the path has a zero character, which no file's path has. -/
def hasZero (path : Path) : Bool := path.parts.any fun part => part.contains '\x00'

/-- The most bytes that a name can have. -/
def longestName : Nat := 255

/-- The most bytes that the text of a path can have. -/
def longestText : Nat := 4095

def isLongName (name : String) : Bool := longestName < name.utf8ByteSize

def isLong (path : Path) : Bool := longestText < path.text.utf8ByteSize

end Path

end DebugRecovery
