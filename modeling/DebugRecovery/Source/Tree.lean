import DebugRecovery.Source.Kind

/-!
The tree of C types and declarations as a front end reports it. What the front
end cannot tell is `none`; a type without a canonical type of its own is its own
canonical type.
-/

set_option autoImplicit false

namespace DebugRecovery.Source

/-- What is known of the calling convention of a type. -/
inductive ConventionReport where
  | absent
  | known (convention : Convention)
  | unknown (number : Int)
  deriving DecidableEq, Repr

def ConventionReport.convention? : ConventionReport → Option Convention
  | .known convention => some convention
  | _ => none

mutual

/-- Sizes count bytes, offsets of fields count bits. -/
structure CType where
  kind : TypeKind
  spelling : String
  canonical : Option CType
  element : Option CType
  size : Option Int
  pointee : Option CType
  declaration : Option Declaration
  result : Option CType
  arguments : Option (List CType)
  convention : ConventionReport
  fields : Option (List Declaration)
  offsets : List (String × Int)

structure Declaration where
  kind : DeclarationKind
  displayName : Option String
  linkageName : Option String
  location : String
  inSystemHeader : Bool
  type : Option CType

end

def Declaration.mapType (change : CType → CType) (declaration : Declaration) : Declaration :=
  { declaration with type := declaration.type.map change }

/-- The type with a change in the types that it leads to. -/
def CType.mapParts (change : CType → CType) (type : CType) : CType :=
  { type with
    canonical := type.canonical.map change
    element := type.element.map change
    pointee := type.pointee.map change
    declaration := type.declaration.map (Declaration.mapType change)
    result := type.result.map change
    arguments := type.arguments.map (List.map change)
    fields := type.fields.map (List.map (Declaration.mapType change)) }

/-- An alias of itself. -/
def CType.endless (type : CType) : CType := { type with kind := .typedef, canonical := none }

/-- What lies deeper than can be followed is without an end. -/
def CType.within : Nat → CType → CType
  | 0, type => type.mapParts CType.endless
  | depth + 1, type => type.mapParts (CType.within depth)

def CType.offset? (type : CType) (field : String) : Option Int :=
  type.offsets.lookup field

/-- An empty name is no name. -/
def named? (name : Option String) : Option String :=
  match name with
  | some "" => none
  | other => other

structure Diagnostic where
  severity : Severity
  message : String
  deriving DecidableEq, Repr

/-- A parsed source file. -/
structure SourceFile where
  declarations : List Declaration
  diagnostics : List Diagnostic

/-- The file as far as its types can be followed. -/
def SourceFile.within (depth : Option Nat) (unit : SourceFile) : SourceFile :=
  match depth with
  | none => unit
  | some depth =>
      { unit with declarations := unit.declarations.map (Declaration.mapType (CType.within depth)) }

/-- The declarations of one kind that stand outside of system headers. -/
def SourceFile.ofKind (unit : SourceFile) (kind : DeclarationKind) : List Declaration :=
  unit.declarations.filter fun declaration =>
    declaration.kind == kind && !declaration.inSystemHeader

end DebugRecovery.Source
