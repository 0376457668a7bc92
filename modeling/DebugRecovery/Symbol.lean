/-!
What is asked for and what is found: a query tells how to locate one function or
global of an image, and a table holds the queries of one run.
-/

set_option autoImplicit false

namespace DebugRecovery

/-- A nonzero `startRva` names the place outright. Otherwise the place is the first match of
`pattern`, moved along `offsets` through the 32-bit words of the image, then by `extra`, then
along a displacement, and last taken relative to the image base. -/
structure SymbolQuery where
  name : String
  pattern : String := ""
  startRva : Int := 0
  offsets : List Int := []
  extra : Int := 0
  relative : Bool := false
  ripRelative : Bool := false
  ripOffset : Int := 0
  deriving DecidableEq, Repr

structure QueryTable where
  functions : List SymbolQuery := []
  globals : List SymbolQuery := []
  deriving DecidableEq, Repr

def QueryTable.size (table : QueryTable) : Nat :=
  table.functions.length + table.globals.length

/-- A symbol in a section of the image, with what is known of its type. -/
structure Symbol (TypeRef : Type) where
  name : String
  sectionIndex : Int
  offset : Int
  typeRef : Option TypeRef
  deriving DecidableEq, Repr

end DebugRecovery
