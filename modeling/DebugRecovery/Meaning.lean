import DebugRecovery.Abort
import DebugRecovery.Journal
import DebugRecovery.Source.Tree

/-!
The debug types that C types and functions stand for. Aliases are followed to their canonical
types; a record becomes a reference by name. The defect reported is the first on
the way through the type: an array's element and size come before what its
element is, a function's result before its arguments and its convention last.
-/

set_option autoImplicit false

namespace DebugRecovery

open Source

/-- Why a type has no debug type, with the spelling of the type in question. -/
inductive TypeDefect where
  | noElement (spelling : String)
  | noArraySize (spelling : String)
  | noPointee (spelling : String)
  | unnamedRecord (spelling : String)
  | noResult (spelling : String)
  | noArguments (spelling : String)
  | convention (spelling : String) (report : ConventionReport)
  | noRule (spelling : String) (kind : TypeKind)
  | endlessAlias (spelling : String)
  deriving DecidableEq, Repr

namespace TypeDefect

def structural (cause : StructuralFailure) : Abort := .failure (.structural cause)

def abort : TypeDefect → Abort
  | .noElement spelling =>
      structural (.type s!"Couldn't get element type for {Text.quoted spelling}")
  | .noArraySize spelling =>
      structural (.type s!"Couldn't get array size for {Text.quoted spelling}")
  | .noPointee spelling =>
      structural (.type s!"Couldn't get pointee type for {Text.quoted spelling}")
  | .unnamedRecord spelling => structural (.name "type" spelling)
  | .noResult spelling => structural (.result spelling)
  | .noArguments spelling => structural (.arguments spelling)
  | .convention spelling _ => structural (.convention spelling)
  | .noRule spelling kind => structural (.unknownType s!"{spelling} ({kind.label})")
  | .endlessAlias _ => .endless

def unknownConventionEntry (spelling : String) (number : Int) : Entry :=
  ⟨.debug, Channel.source,
    s!"Unknown libclang calling convention {number} on {Text.quoted spelling}"⟩

def conventionLabel : ConventionReport → String
  | .known value => s!"<SourceCallingConvention.{value.label}: {value.number}>"
  | _ => "None"

/-- What a defect leaves in the journal. -/
def journal : TypeDefect → Journal
  | .convention spelling report =>
      let unrecognised := match report with
        | .unknown number => [unknownConventionEntry spelling number]
        | _ => []
      unrecognised ++ [⟨.debug, Channel.functions,
        s!"Unsupported calling convention {conventionLabel report} on {Text.quoted spelling}"⟩]
  | .noRule spelling kind =>
      [⟨.debug, Channel.types,
        s!"No translation rule for {Text.quoted spelling} ({kind.label})"⟩]
  | _ => []

end TypeDefect

/-- The name that references to a declaration use. -/
def Source.Declaration.referenceName? (declaration : Option Declaration) : Option String :=
  declaration.bind fun declaration => named? declaration.displayName

namespace Meaning

/-- The convention to record, when it is among the supported ones. -/
def convention (spelling : String) (report : ConventionReport) :
    Except TypeDefect CallingConvention :=
  match report.convention?.bind Convention.recorded? with
  | some recorded => .ok recorded
  | none => .error (.convention spelling report)

def record (spelling : String) (declaration : Option Declaration) : Except TypeDefect DebugType :=
  match Declaration.referenceName? declaration with
  | some name => .ok (.struct name)
  | none => .error (.unnamedRecord spelling)

def array (spelling : String) (size : Option Int)
    (element : Option (Except TypeDefect DebugType)) : Except TypeDefect DebugType :=
  match element, size with
  | none, _ => .error (.noElement spelling)
  | some _, none => .error (.noArraySize spelling)
  | some element, some size => element.map fun element => .array element size

def pointer (spelling : String) (target : Option (Except TypeDefect DebugType)) :
    Except TypeDefect DebugType :=
  match target with
  | none => .error (.noPointee spelling)
  | some target => target.map .pointer

/-- An alias of itself leads nowhere. -/
def synonym (spelling : String) (canonical : Option (Except TypeDefect DebugType)) :
    Except TypeDefect DebugType :=
  canonical.getD (.error (.endlessAlias spelling))

def function (spelling : String) (report : ConventionReport)
    (result : Option (Except TypeDefect DebugType))
    (arguments : Option (Except TypeDefect (List DebugType))) :
    Except TypeDefect FunctionSignature := do
  let returnType ← result.getD (.error (.noResult spelling))
  let parameters ← arguments.getD (.error (.noArguments spelling))
  let convention ← convention spelling report
  .ok ⟨returnType, parameters, convention⟩

/-- The debug types of the types that a type leads to, as far as the front end tells them. -/
structure Parts where
  canonical : Option (Except TypeDefect DebugType)
  element : Option (Except TypeDefect DebugType)
  target : Option (Except TypeDefect DebugType)
  result : Option (Except TypeDefect DebugType)
  arguments : Option (Except TypeDefect (List DebugType))

def ofParts (kind : TypeKind) (spelling : String) (size : Option Int)
    (declaration : Option Declaration) (report : ConventionReport) (parts : Parts) :
    Except TypeDefect DebugType :=
  match kind.role with
  | .primitive primitive => .ok (.primitive primitive)
  | .synonym => synonym spelling parts.canonical
  | .array => array spelling size parts.element
  | .function => (function spelling report parts.result parts.arguments).map .function
  | .pointer => pointer spelling parts.target
  | .record => record spelling declaration
  | .unknown => .error (.noRule spelling kind)

mutual

def type : CType → Except TypeDefect DebugType
  | ⟨kind, spelling, canonical, element, size, pointee, declaration, result, arguments, report, _,
      _⟩ =>
      ofParts kind spelling size declaration report
        ⟨optionalType canonical, optionalType element, canonicalType pointee, optionalType result,
          optionalTypes arguments⟩

def optionalType : Option CType → Option (Except TypeDefect DebugType)
  | none => none
  | some source => some (type source)

/-- A pointer leads to the canonical type of its pointee. -/
def canonicalType : Option CType → Option (Except TypeDefect DebugType)
  | none => none
  | some ⟨_, _, some canonical, _, _, _, _, _, _, _, _, _⟩ => some (type canonical)
  | some ⟨kind, spelling, none, element, size, pointee, declaration, result, arguments, report, _,
      _⟩ =>
      some (ofParts kind spelling size declaration report
        ⟨none, optionalType element, canonicalType pointee, optionalType result,
          optionalTypes arguments⟩)

def optionalTypes : Option (List CType) → Option (Except TypeDefect (List DebugType))
  | none => none
  | some sources => some (types sources)

def types : List CType → Except TypeDefect (List DebugType)
  | [] => .ok []
  | source :: sources => do
      let first ← type source
      let rest ← types sources
      .ok (first :: rest)

end

/-- The canonical type of a type. -/
def canonical (source : CType) : CType := source.canonical.getD source

theorem canonical_type_some (source : CType) :
    canonicalType (some source) = some (type (canonical source)) := by
  obtain ⟨kind, spelling, own, element, size, pointee, declaration, result, arguments, report,
    fields, offsets⟩ := source
  cases own <;> simp [canonicalType, canonical, type, optionalType]

/-- The signature of a function of the given type, whatever the kind of the type. -/
def signature (source : CType) : Except TypeDefect FunctionSignature :=
  function source.spelling source.convention (optionalType source.result)
    (optionalTypes source.arguments)

end Meaning

end DebugRecovery
