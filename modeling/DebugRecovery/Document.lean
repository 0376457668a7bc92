import DebugRecovery.DebugType
import DebugRecovery.Failure
import DebugRecovery.Symbol

/-!
The debug information of one binary: struct layouts, function prototypes and
symbols, each in the order of insertion. A function refers to its prototype by
position, a global holds its type. Struct names differ; those that are taken
stand beside the layouts. A position is only taken when a prototype stands there.
-/

set_option autoImplicit false

namespace DebugRecovery

/-- No struct is entered under one of the `structNames`. -/
structure Document where
  is64 : Bool
  imageBase : Int
  structs : List StructLayout := []
  structNames : List String := []
  prototypes : List Prototype := []
  functions : List (Symbol Nat) := []
  globals : List (Symbol DebugType) := []

/-- The same place and name with another type. -/
def Symbol.withType {Old New : Type} (symbol : Symbol Old) (typeRef : Option New) : Symbol New :=
  ⟨symbol.name, symbol.sectionIndex, symbol.offset, typeRef⟩

namespace Document

def addStruct (document : Document) (layout : StructLayout) : Except Failure Document :=
  if layout.name ∈ document.structNames then
    .error (.output s!"Duplicate struct {Text.quoted layout.name}")
  else
    .ok { document with
      structs := document.structs ++ [layout]
      structNames := document.structNames ++ [layout.name] }

/-- The position that the next prototype gets. -/
def nextPosition (document : Document) : Nat := document.prototypes.length

def addPrototype (document : Document) (function : Prototype) : Document :=
  { document with prototypes := document.prototypes ++ [function] }

/-- The position that a number stands for. -/
def position? (document : Document) (number : Int) : Option Nat :=
  if 0 ≤ number ∧ number < document.nextPosition then some number.toNat else none

def appendFunction (document : Document) (symbol : Symbol Nat) : Document :=
  { document with functions := document.functions ++ [symbol] }

def addFunction (document : Document) (symbol : Symbol Int) : Except Failure Document :=
  match symbol.typeRef with
  | none => .ok (document.appendFunction (symbol.withType none))
  | some number =>
      match document.position? number with
      | some position => .ok (document.appendFunction (symbol.withType (some position)))
      | none =>
          .error (.output
            s!"Unknown type index {Text.decimal number} for {Text.quoted symbol.name}")

def addGlobal (document : Document) (symbol : Symbol DebugType) : Document :=
  { document with globals := document.globals ++ [symbol] }

def version : String := "1.0"

def prototypeJson (function : Prototype) : Json :=
  .object [("name", .string function.name), ("signature", function.signature.toJson)]

/-- The name and the place of a symbol. -/
def placeMembers {TypeRef : Type} (symbol : Symbol TypeRef) : List (String × Json) :=
  [("name", .string symbol.name), ("section", .integer symbol.sectionIndex),
    ("offset", .integer symbol.offset)]

def functionJson (symbol : Symbol Nat) : Json :=
  let position := match symbol.typeRef with
    | none => .null
    | some position => .integer position
  .object (placeMembers symbol ++ [("type_index", position)])

def globalJson (symbol : Symbol DebugType) : Json :=
  let type := match symbol.typeRef with
    | none => .null
    | some type => type.toJson
  .object (placeMembers symbol ++ [("type", type)])

/-- The binary that a document describes. -/
structure Subject where
  path : String
  digest : String
  deriving DecidableEq, Repr

def Subject.toJson (subject : Subject) : Json :=
  .object [("path", .string subject.path), ("sha256", .string subject.digest)]

def toJson (document : Document) (subject : Option Subject) : Json :=
  let machine := Json.object
    [("is_64", .boolean document.is64), ("image_base", .integer document.imageBase)]
  let binary := match subject with
    | none => []
    | some subject => [("binary", subject.toJson)]
  .object ([("version", .string version), ("machine", machine),
    ("structs", .array (document.structs.map StructLayout.toJson)),
    ("function_types", .array (document.prototypes.map prototypeJson)),
    ("functions", .array (document.functions.map functionJson)),
    ("globals", .array (document.globals.map globalJson))] ++ binary)

end Document

end DebugRecovery
