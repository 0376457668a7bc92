import DebugRecovery.Proofs.Layout
import DebugRecovery.Proofs.Meaning

/-!
# Types without the bodies of their records

The outline of a type has no members, offsets and sizes of records, wherever
they stand in it. A type and its outline have the same debug type, or the same
defect, since a record is a reference by its name. Of a struct the layout
depends on more: on its own offsets and its own size, and on its members in
outline.
-/

set_option autoImplicit false

namespace DebugRecovery

namespace Source

mutual

/-- The type without what the records in it carry of their bodies. -/
def CType.outline : CType → CType
  | ⟨kind, spelling, canonical, element, size, pointee, declaration, result, arguments, convention,
      fields, offsets⟩ =>
      { kind, spelling
        canonical := outlineType canonical
        element := outlineType element
        size := if kind = .record then none else size
        pointee := outlineType pointee
        declaration := outlineDeclaration declaration
        result := outlineType result
        arguments := outlineArguments arguments
        convention
        fields := if kind = .record then none else outlineFields fields
        offsets := if kind = .record then [] else offsets }

def Declaration.outline : Declaration → Declaration
  | ⟨kind, displayName, linkageName, location, inSystemHeader, type⟩ =>
      { kind, displayName, linkageName, location, inSystemHeader, type := outlineType type }

def outlineType : Option CType → Option CType
  | none => none
  | some type => some type.outline

def outlineDeclaration : Option Declaration → Option Declaration
  | none => none
  | some declaration => some declaration.outline

def outlineArguments : Option (List CType) → Option (List CType)
  | none => none
  | some types => some (outlineTypes types)

def outlineFields : Option (List Declaration) → Option (List Declaration)
  | none => none
  | some declarations => some (outlineDeclarations declarations)

def outlineTypes : List CType → List CType
  | [] => []
  | type :: types => type.outline :: outlineTypes types

def outlineDeclarations : List Declaration → List Declaration
  | [] => []
  | declaration :: declarations => declaration.outline :: outlineDeclarations declarations

end

def SourceFile.outline (unit : SourceFile) : SourceFile :=
  ⟨unit.declarations.map Declaration.outline, unit.diagnostics⟩

theorem outline_type_eq (type : Option CType) : outlineType type = type.map CType.outline := by
  cases type with
  | none => rfl
  | some type => rfl

section Kept

variable (declaration : Declaration)

@[simp] theorem outline_kind : declaration.outline.kind = declaration.kind := by
  cases declaration
  rfl

@[simp] theorem outline_display_name :
    declaration.outline.displayName = declaration.displayName := by
  cases declaration
  rfl

@[simp] theorem outline_linkage_name :
    declaration.outline.linkageName = declaration.linkageName := by
  cases declaration
  rfl

@[simp] theorem outline_location : declaration.outline.location = declaration.location := by
  cases declaration
  rfl

@[simp] theorem outline_in_system_header :
    declaration.outline.inSystemHeader = declaration.inSystemHeader := by
  cases declaration
  rfl

@[simp] theorem outline_declared_type :
    declaration.outline.type = declaration.type.map CType.outline := by
  cases declaration
  rw [Declaration.outline, outline_type_eq]

end Kept

theorem outline_reference_name (declaration : Option Declaration) :
    Declaration.referenceName? (outlineDeclaration declaration) =
      Declaration.referenceName? declaration := by
  cases declaration with
  | none => rfl
  | some declaration =>
      simp only [Declaration.referenceName?, outlineDeclaration, Option.bind_some,
        outline_display_name]

theorem of_kind_outline (unit : SourceFile) (kind : DeclarationKind) :
    unit.outline.ofKind kind = (unit.ofKind kind).map Declaration.outline := by
  unfold SourceFile.ofKind SourceFile.outline
  rw [List.filter_map]
  apply congrArg (List.map Declaration.outline)
  apply List.filter_congr
  intro declaration _
  simp

end Source

open Source

namespace Meaning

/-- The size and the declaration of a type matter to one rule each, and a record has no use for its
size. -/
theorem of_parts_outline (kind : TypeKind) (spelling : String) (size : Option Int)
    (declaration : Option Declaration) (report : ConventionReport) (parts : Parts) :
    ofParts kind spelling (if kind = .record then none else size) (outlineDeclaration declaration)
        report parts =
      ofParts kind spelling size declaration report parts := by
  have named : record spelling (outlineDeclaration declaration) = record spelling declaration := by
    rw [record, record, outline_reference_name]
  by_cases isRecord : kind = .record
  · rw [isRecord]
    exact named
  · rw [if_neg isRecord]
    unfold ofParts
    rw [named]

mutual

theorem type_outline (source : CType) : type source.outline = type source := by
  match source with
  | ⟨kind, spelling, own, element, size, pointee, declaration, result, arguments, report, fields,
      offsets⟩ =>
      rw [CType.outline, type, optional_type_outline own, optional_type_outline element,
        canonical_type_outline pointee, optional_type_outline result,
        optional_types_outline arguments, of_parts_outline, type]

theorem optional_type_outline (source : Option CType) :
    optionalType (outlineType source) = optionalType source := by
  match source with
  | none => rfl
  | some source => rw [outlineType, optionalType, type_outline source, optionalType]

theorem canonical_type_outline (source : Option CType) :
    canonicalType (outlineType source) = canonicalType source := by
  match source with
  | none => rfl
  | some ⟨kind, spelling, some own, element, size, pointee, declaration, result, arguments, report,
      fields, offsets⟩ =>
      rw [outlineType, CType.outline, outlineType, canonicalType, type_outline own, canonicalType]
  | some ⟨kind, spelling, none, element, size, pointee, declaration, result, arguments, report,
      fields, offsets⟩ =>
      rw [outlineType, CType.outline, outlineType, canonicalType, optional_type_outline element,
        canonical_type_outline pointee, optional_type_outline result,
        optional_types_outline arguments, of_parts_outline, canonicalType]

theorem optional_types_outline (sources : Option (List CType)) :
    optionalTypes (outlineArguments sources) = optionalTypes sources := by
  match sources with
  | none => rfl
  | some sources => rw [outlineArguments, optionalTypes, types_outline sources, optionalTypes]

theorem types_outline (sources : List CType) : types (outlineTypes sources) = types sources := by
  match sources with
  | [] => rfl
  | source :: sources =>
      rw [outlineTypes, types, type_outline source, types_outline sources, types]

end

theorem signature_outline (source : CType) :
    Meaning.signature source.outline = Meaning.signature source := by
  obtain ⟨kind, spelling, own, element, size, pointee, declaration, result, arguments, report,
    fields, offsets⟩ := source
  rw [Meaning.signature, Meaning.signature, CType.outline]
  dsimp only
  rw [optional_type_outline, optional_types_outline]

end Meaning

variable {declaration : Declaration}

theorem prototype_outline (declaration : Declaration) :
    Prototype.ofDeclaration declaration.outline = Prototype.ofDeclaration declaration := by
  unfold Prototype.ofDeclaration
  simp only [outline_linkage_name, outline_kind, outline_declared_type, outline_location,
    outline_display_name]
  cases named? declaration.linkageName with
  | none => rfl
  | some name =>
      cases declaration.type with
      | none => rfl
      | some source =>
          cases declaration.kind with
          | function => simp only [Option.map_some, Meaning.signature_outline]
          | _ => rfl

/-- A member is known by its outline, and of the struct's type by the offsets. -/
theorem member_declares_outline_iff {structType : CType} {field : StructMember} :
    StructMember.Declares structType declaration.outline field ↔
      StructMember.Declares structType declaration field := by
  have typed : (∃ source, declaration.outline.type = some source ∧
        Meaning.type source = .ok field.type) ↔
      ∃ source, declaration.type = some source ∧ Meaning.type source = .ok field.type := by
    cases given : declaration.type with
    | none => simp [given]
    | some source => simp [given, Meaning.type_outline]
  constructor
  · intro declares
    have named := declares.named
    rw [outline_display_name] at named
    exact ⟨named, typed.mp declares.typed, declares.placed⟩
  · intro declares
    refine ⟨?_, typed.mpr declares.typed, declares.placed⟩
    rw [outline_display_name]
    exact declares.named

/-- The types have the same body for a struct: size, offsets, and members in outline. -/
structure Source.CType.SameBody (left right : CType) : Prop where
  size : left.size = right.size
  offsets : left.offsets = right.offsets
  members : left.fields.map (List.map Declaration.outline) =
    right.fields.map (List.map Declaration.outline)

def Source.Declaration.SameBody (left right : Declaration) : Prop :=
  ∀ leftType rightType, left.type = some leftType → right.type = some rightType →
    leftType.SameBody rightType

theorem members_of_same_body {left right : CType} (same : left.SameBody right)
    {leftMembers rightMembers : List Declaration} {fields : List StructMember}
    (leftGiven : left.fields = some leftMembers) (rightGiven : right.fields = some rightMembers)
    (each : List.Forall₂ (StructMember.Declares left) leftMembers fields) :
    List.Forall₂ (StructMember.Declares right) rightMembers fields := by
  have offsets : StructMember.Declares left = StructMember.Declares right := by
    funext declaration field
    apply propext
    have placed : left.offset? field.name = right.offset? field.name := by
      rw [CType.offset?, CType.offset?, same.offsets]
    constructor
    · intro declares
      exact ⟨declares.named, declares.typed, placed ▸ declares.placed⟩
    · intro declares
      exact ⟨declares.named, declares.typed, placed ▸ declares.placed⟩
  have outlines : leftMembers.map Declaration.outline = rightMembers.map Declaration.outline := by
    have members := same.members
    rw [leftGiven, rightGiven] at members
    exact Option.some.inj members
  have outlined : List.Forall₂ (StructMember.Declares right)
      (leftMembers.map Declaration.outline) fields := by
    rw [List.forall₂_map_left_iff, ← offsets]
    exact each.imp fun _ _ => member_declares_outline_iff.mpr
  rw [outlines, List.forall₂_map_left_iff] at outlined
  exact outlined.imp fun _ _ => member_declares_outline_iff.mp

section Layouts

variable {left right : Declaration} {leftLayout rightLayout : StructLayout}

theorem layout_name_of_outline (alike : left.outline = right.outline)
    (leftBuilt : StructLayout.ofDeclaration left = .ok leftLayout)
    (rightBuilt : StructLayout.ofDeclaration right = .ok rightLayout) :
    leftLayout.name = rightLayout.name := by
  have leftNamed := (StructLayout.of_declaration_ok_iff.mp leftBuilt).named
  have rightNamed := (StructLayout.of_declaration_ok_iff.mp rightBuilt).named
  have names := congrArg Declaration.displayName alike
  rw [outline_display_name, outline_display_name] at names
  rw [names, rightNamed] at leftNamed
  exact (Option.some.inj leftNamed).symm

/-- Declarations that are alike in outline and in their bodies have the same layout. -/
theorem layout_of_same_body (alike : left.outline = right.outline) (same : left.SameBody right)
    (leftBuilt : StructLayout.ofDeclaration left = .ok leftLayout)
    (rightBuilt : StructLayout.ofDeclaration right = .ok rightLayout) :
    leftLayout = rightLayout := by
  have leftDefines := StructLayout.of_declaration_ok_iff.mp leftBuilt
  have rightDefines := StructLayout.of_declaration_ok_iff.mp rightBuilt
  obtain ⟨leftType, leftMembers, leftTyped, leftGiven, leftSized, leftEach⟩ := leftDefines.typed
  obtain ⟨rightType, rightMembers, rightTyped, rightGiven, rightSized, _⟩ := rightDefines.typed
  have body := same leftType rightType leftTyped rightTyped
  have name := layout_name_of_outline alike leftBuilt rightBuilt
  -- The layout on the left is one for the declaration on the right, which has but one.
  have also : StructLayout.Defines right leftLayout := by
    constructor
    · exact rightDefines.kind
    · rw [name]
      exact rightDefines.named
    · refine ⟨rightType, rightMembers, rightTyped, rightGiven, ?_, ?_⟩
      · rw [← body.size]
        exact leftSized
      · exact members_of_same_body body leftGiven rightGiven leftEach
  have built := StructLayout.of_declaration_ok_iff.mpr also
  rw [rightBuilt] at built
  exact (Except.ok.inj built).symm

end Layouts

end DebugRecovery
