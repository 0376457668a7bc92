import DebugRecovery.Meaning

/-!
Functions and structs of a source file: their names, signatures and layouts.
Offsets of members come in bits and have to be whole bytes. The defect reported
is the first in the order in which a declaration is looked at.
-/

set_option autoImplicit false

namespace DebugRecovery

open Source

inductive FunctionDefect where
  | nameless (location : String)
  | notFunction (place : String)
  | type (defect : TypeDefect)
  deriving DecidableEq, Repr

namespace FunctionDefect

def abort : FunctionDefect → Abort
  | .nameless location => .failure (.structural (.functionName location))
  | .notFunction place => .failure (.structural (.function place))
  | .type defect => defect.abort

def journal : FunctionDefect → Journal
  | .type defect => defect.journal
  | _ => []

end FunctionDefect

/-- The function that a declaration declares, under its linkage name. -/
def Prototype.ofDeclaration (declaration : Declaration) :
    Except FunctionDefect Prototype :=
  match named? declaration.linkageName with
  | none => .error (.nameless declaration.location)
  | some name =>
      match declaration.kind, declaration.type with
      | .function, some type =>
          match Meaning.signature type with
          | .error defect => .error (.type defect)
          | .ok signature => .ok ⟨name, signature⟩
      | _, _ =>
          .error (.notFunction ((named? declaration.displayName).getD declaration.location))

inductive FieldDefect where
  | nameless (location : String)
  | untyped (struct field : String)
  | type (defect : TypeDefect)
  | noOffset (struct field : String)
  | unaligned (struct field : String) (offset : Int)
  deriving DecidableEq, Repr

inductive StructDefect where
  | notStruct (location : String)
  | untyped (location : String)
  | nameless (location : String)
  | noMembers (name : String)
  | member (defect : FieldDefect)
  | noSize (name : String)
  deriving DecidableEq, Repr

namespace FieldDefect

def abort : FieldDefect → Abort
  | .nameless location => .failure (.structural (.name "field" location))
  | .untyped struct field => .failure (.structural (.field s!"{struct}.{field} has no type"))
  | .type defect => defect.abort
  | .noOffset struct field => .failure (.structural (.offset s!"of {struct}.{field}"))
  | .unaligned struct field offset =>
      .failure (.structural (.offset (s!"of {struct}.{field}: bit offset {offset} " ++
        "is not byte aligned (bit-fields are not supported)")))

def journal : FieldDefect → Journal
  | .type defect => defect.journal
  | _ => []

end FieldDefect

namespace StructDefect

def abort : StructDefect → Abort
  | .notStruct location => .failure (.structural (.struct location))
  | .untyped location => .failure (.structural (.name "struct" location))
  | .nameless location => .failure (.structural (.name "struct" location))
  | .noMembers name => .failure (.structural (.struct name))
  | .member defect => defect.abort
  | .noSize name => .failure (.structural (.structSize name))

def journal : StructDefect → Journal
  | .member defect => defect.journal
  | _ => []

end StructDefect

/-- The member of a struct that a declaration declares, at the offset that the struct's type has
under the member's name. -/
def StructMember.ofDeclaration (struct : String) (structType : CType)
    (member : Declaration) : Except FieldDefect StructMember :=
  match named? member.displayName with
  | none => .error (.nameless member.location)
  | some name =>
      match member.type with
      | none => .error (.untyped struct name)
      | some source =>
          match Meaning.type source with
          | .error defect => .error (.type defect)
          | .ok type =>
              match structType.offset? name with
              | none => .error (.noOffset struct name)
              | some bits =>
                  if bits % 8 = 0 then .ok ⟨name, type, bits / 8⟩
                  else .error (.unaligned struct name bits)

/-- The layout of the struct that a declaration defines. -/
def StructLayout.ofDeclaration (declaration : Declaration) : Except StructDefect StructLayout := do
  if declaration.kind ≠ .struct then .error (.notStruct declaration.location)
  match declaration.type, named? declaration.displayName with
  | none, _ => .error (.untyped declaration.location)
  | some _, none => .error (.nameless declaration.location)
  | some type, some name =>
      match type.fields with
      | none => .error (.noMembers name)
      | some members =>
          match members.mapM (StructMember.ofDeclaration name type) with
          | .error defect => .error (.member defect)
          | .ok fields =>
              match type.size with
              | none => .error (.noSize name)
              | some size => .ok ⟨name, fields, size⟩

def StructLayout.builtEntry (layout : StructLayout) : Entry :=
  ⟨.debug, Channel.structs,
    s!"Struct {layout.name}: {layout.fields.length} fields, {layout.size} bytes"⟩

def typeJournal {Value : Type} : Except TypeDefect Value → Journal
  | .ok _ => []
  | .error defect => defect.journal

def functionJournal : Except FunctionDefect Prototype → Journal
  | .ok _ => []
  | .error defect => defect.journal

def layoutJournal : Except StructDefect StructLayout → Journal
  | .ok layout => [layout.builtEntry]
  | .error defect => defect.journal

end DebugRecovery
