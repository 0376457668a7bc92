import DebugRecovery.Proofs.Layout
import DebugRecovery.Proofs.Meaning
import DebugRecovery.Proofs.Reconstruction.Records

/-!
# References to structs

A run enters the structs that the source yields, and refers to the records that
the types of its members, functions and globals come to. These need not be the
same: a record is only yielded as a struct when its definition stands by itself
outside of system headers. So the references of a document lead to its structs
exactly when each record that is mentioned has the name of a struct that is
yielded.
-/

set_option autoImplicit false

namespace DebugRecovery

/-- The names of the structs that a document refers to, one for each reference. -/
def Document.references (document : Document) : List String :=
  document.structs.flatMap (fun layout => layout.fields.flatMap fun field => field.type.references) ++
    document.prototypes.flatMap (fun prototype => prototype.signature.references) ++
    (document.globals.filterMap Symbol.typeRef).flatMap DebugType.references

theorem Document.mem_references_iff {document : Document} {name : String} :
    name ∈ document.references ↔
      (∃ layout ∈ document.structs, ∃ field ∈ layout.fields, name ∈ field.type.references) ∨
      (∃ prototype ∈ document.prototypes, name ∈ prototype.signature.references) ∨
      (∃ symbol ∈ document.globals, ∃ type, symbol.typeRef = some type ∧
        name ∈ type.references) := by
  unfold references
  simp only [List.mem_append, List.mem_flatMap, List.mem_filterMap, or_assoc]
  refine or_congr_right (or_congr_right ?_)
  constructor
  · rintro ⟨type, ⟨symbol, member, given⟩, inside⟩
    exact ⟨symbol, member, type, given, inside⟩
  · rintro ⟨symbol, member, type, given, inside⟩
    exact ⟨type, ⟨symbol, member, given⟩, inside⟩

namespace Reconstruction

open Source Meaning

/-- A type that the run enters into the document comes to a record of the name: the type of a member
of a struct, of the result or an argument of a function, or of a global that is found. -/
inductive Mentioned (material : Material) (table : QueryTable) (name : String) : Prop where
  | field (declaration member : Declaration) (structType source : CType)
      (members : List Declaration) (declared : declaration ∈ material.source.ofKind .struct)
      (typed : declaration.type = some structType) (fields : structType.fields = some members)
      (inside : member ∈ members) (given : member.type = some source)
      (mentions : Mentions name source)
  | signature (declaration : Declaration) (source part : CType)
      (declared : declaration ∈ material.source.ofKind .function)
      (typed : declaration.type = some source) (made : SignaturePart source part)
      (mentions : Mentions name part)
  | global (query : SymbolQuery) (index : Nat) (declaration : Declaration) (source : CType)
      (queried : query ∈ table.globals)
      (found : (material.territory.symbol? query).isSome = true)
      (last : LastAt (TypedAs query.name) (material.source.ofKind .variable) index declaration)
      (typed : declaration.type = some source) (mentions : Mentions name source)

section References

variable {declarations : List Declaration} {name : String}

theorem layouts_references_iff {layouts : List StructLayout}
    (built : Built declarations layouts) :
    (∃ layout ∈ layouts, ∃ field ∈ layout.fields, name ∈ field.type.references) ↔
      ∃ declaration ∈ declarations, ∃ structType members member source,
        declaration.type = some structType ∧ structType.fields = some members ∧
        member ∈ members ∧ member.type = some source ∧ Mentions name source := by
  constructor
  · rintro ⟨layout, inLayouts, field, inFields, refers⟩
    obtain ⟨declaration, declared, accepted⟩ := each_value built inLayouts
    obtain ⟨structType, members, typed, given, _, each⟩ :=
      (StructLayout.of_declaration_ok_iff.mp accepted).typed
    obtain ⟨member, inside, declares⟩ := each_value each inFields
    obtain ⟨source, memberType, translated⟩ := declares.typed
    exact ⟨declaration, declared, structType, members, member, source, typed, given, inside,
      memberType, (type_references_iff translated).mp refers⟩
  · rintro ⟨declaration, declared, structType, members, member, source, typed, given, inside,
      memberType, mentions⟩
    obtain ⟨layout, inLayouts, accepted⟩ := each_item built declared
    obtain ⟨own, ownMembers, ownTyped, ownGiven, _, each⟩ :=
      (StructLayout.of_declaration_ok_iff.mp accepted).typed
    obtain rfl : own = structType := Option.some.inj (ownTyped.symm.trans typed)
    obtain rfl : ownMembers = members := Option.some.inj (ownGiven.symm.trans given)
    obtain ⟨field, inFields, declares⟩ := each_item each inside
    obtain ⟨ownSource, ownType, translated⟩ := declares.typed
    obtain rfl : ownSource = source := Option.some.inj (ownType.symm.trans memberType)
    exact ⟨layout, inLayouts, field, inFields, (type_references_iff translated).mpr mentions⟩

theorem prototypes_references_iff {registered : List Prototype}
    (accepted : declarations.mapM Prototype.ofDeclaration = .ok registered) :
    (∃ prototype ∈ registered, name ∈ prototype.signature.references) ↔
      ∃ declaration ∈ declarations, ∃ source part, declaration.type = some source ∧
        SignaturePart source part ∧ Mentions name part := by
  have each := except_each accepted
  have refers : ∀ source signature, Meaning.signature source = .ok signature →
      (name ∈ signature.references ↔ ∃ part, SignaturePart source part ∧ Mentions name part) := by
    intro source signature translated
    exact signature_references_of_parts translated fun _ _ _ => type_references_iff
  constructor
  · rintro ⟨prototype, inside, reference⟩
    obtain ⟨declaration, declared, translated⟩ := each_value each inside
    obtain ⟨source, typed, signature⟩ := (Prototype.of_declaration_ok_iff.mp translated).typed
    obtain ⟨part, made, mentions⟩ := (refers source _ signature).mp reference
    exact ⟨declaration, declared, source, part, typed, made, mentions⟩
  · rintro ⟨declaration, declared, source, part, typed, made, mentions⟩
    obtain ⟨prototype, inside, translated⟩ := each_item each declared
    obtain ⟨own, ownTyped, signature⟩ := (Prototype.of_declaration_ok_iff.mp translated).typed
    obtain rfl : own = source := Option.some.inj (ownTyped.symm.trans typed)
    exact ⟨prototype, inside, (refers own _ signature).mpr ⟨part, made, mentions⟩⟩

theorem globals_references_iff {material : Material} {queries : List SymbolQuery}
    {globals : List (Symbol DebugType)}
    (records : List.Forall₂ (GlobalRecord material) queries globals) :
    (∃ symbol ∈ globals, ∃ type, symbol.typeRef = some type ∧ name ∈ type.references) ↔
      ∃ query ∈ queries, ∃ index declaration source,
        LastAt (TypedAs query.name) (material.source.ofKind .variable) index declaration ∧
        declaration.type = some source ∧ Mentions name source := by
  constructor
  · rintro ⟨symbol, member, type, given, refers⟩
    obtain ⟨query, queried, record⟩ := each_value records member
    rcases record.type with ⟨missing, _⟩ | ⟨own, index, declaration, source, known, last, typed,
      translated⟩
    · rw [missing] at given
      contradiction
    · obtain rfl : own = type := Option.some.inj (known.symm.trans given)
      exact ⟨query, queried, index, declaration, source, last, typed,
        (type_references_iff translated).mp refers⟩
  · rintro ⟨query, queried, index, declaration, source, last, typed, mentions⟩
    obtain ⟨symbol, member, record⟩ := each_item records queried
    rcases record.type with ⟨_, unknown⟩ | ⟨type, place, other, own, known, lastToo, ownTyped,
      translated⟩
    · have here := last_at_get last
      exact absurd here.2 (unknown declaration (List.mem_of_getElem? here.1))
    · obtain rfl := last_at_unique last lastToo
      obtain rfl : own = source := Option.some.inj (ownTyped.symm.trans typed)
      exact ⟨symbol, member, type, known, (type_references_iff translated).mpr mentions⟩

end References

section Runs

variable {material : Material} {table : QueryTable} {state later : Reconstruction}
  {report : Report} {is64 : Bool} {imageBase : Int}

/-- A document refers to the records that its run mentions. -/
theorem run_references_iff (fresh : state.document = Document.empty is64 imageBase)
    (finished : run material table state = .ok report later) (name : String) :
    name ∈ later.document.references ↔ Mentioned material table name := by
  obtain ⟨registered, typed, completed⟩ := run_completed finished
  have structs : later.document.structs = report.structs := by
    rw [completed.document, fresh]
    rfl
  have prototypes : later.document.prototypes = registered := by
    rw [completed.document, fresh]
    rfl
  have globals : later.document.globals = report.globals := by
    rw [completed.document, fresh]
    rfl
  rw [Document.mem_references_iff, structs, prototypes, globals,
    layouts_references_iff completed.structs, prototypes_references_iff completed.declared,
    globals_references_iff (global_records completed)]
  constructor
  · rintro (⟨declaration, declared, structType, members, member, source, typed, fields, inside,
      given, mentions⟩ | ⟨declaration, declared, source, part, typed, made, mentions⟩ |
      ⟨query, queried, index, declaration, source, last, typed, mentions⟩)
    · exact .field declaration member structType source members declared typed fields inside given
        mentions
    · exact .signature declaration source part declared typed made mentions
    · have asked := List.mem_filter.mp queried
      exact .global query index declaration source asked.1 asked.2 last typed mentions
  · intro mentioned
    cases mentioned with
    | field declaration member structType source members declared typed fields inside given
        mentions =>
        exact Or.inl ⟨declaration, declared, structType, members, member, source, typed, fields,
          inside, given, mentions⟩
    | signature declaration source part declared typed made mentions =>
        exact Or.inr (Or.inl ⟨declaration, declared, source, part, typed, made, mentions⟩)
    | global query index declaration source queried found last typed mentions =>
        exact Or.inr (Or.inr ⟨query, List.mem_filter.mpr ⟨queried, found⟩, index, declaration,
          source, last, typed, mentions⟩)

/-- A document has the structs that the source yields. -/
theorem run_struct_names_iff (fresh : state.document = Document.empty is64 imageBase)
    (finished : run material table state = .ok report later) (name : String) :
    name ∈ later.document.structs.map StructLayout.name ↔
      ∃ declaration ∈ material.source.ofKind .struct,
        named? declaration.displayName = some name := by
  obtain ⟨registered, typed, completed⟩ := run_completed finished
  have structs : later.document.structs = report.structs := by
    rw [completed.document, fresh]
    rfl
  rw [structs, List.mem_map]
  constructor
  · rintro ⟨layout, member, rfl⟩
    obtain ⟨declaration, declared, built⟩ := each_value completed.structs member
    exact ⟨declaration, declared, (StructLayout.of_declaration_ok_iff.mp built).named⟩
  · rintro ⟨declaration, declared, named⟩
    obtain ⟨layout, member, built⟩ := each_item completed.structs declared
    have same := (StructLayout.of_declaration_ok_iff.mp built).named.symm.trans named
    exact ⟨layout, member, Option.some.inj same⟩

/-- The references of a run's document lead to its structs exactly when each record that the run
mentions has the name of a struct that the source yields. -/
theorem references_resolved_iff (fresh : state.document = Document.empty is64 imageBase)
    (finished : run material table state = .ok report later) :
    (∀ name ∈ later.document.references,
        name ∈ later.document.structs.map StructLayout.name) ↔
      ∀ name, Mentioned material table name →
        ∃ declaration ∈ material.source.ofKind .struct,
          named? declaration.displayName = some name := by
  constructor
  · intro resolved name mentioned
    have refers := (run_references_iff fresh finished name).mpr mentioned
    exact (run_struct_names_iff fresh finished name).mp (resolved name refers)
  · intro yielded name refers
    have mentioned := (run_references_iff fresh finished name).mp refers
    exact (run_struct_names_iff fresh finished name).mpr (yielded name mentioned)

end Runs

def recordNamed (name : String) : CType :=
  { plainType .record none with
    declaration := some (declaredAs .struct name (plainType .record none)) }

/-- A struct with one member. -/
def structWith (name member : String) (type : CType) : Declaration :=
  declaredAs .struct name
    { plainType .record none with
      size := some 8, fields := some [declaredAs .variable member type], offsets := [(member, 0)] }

def emptyStart : Reconstruction := .ofDocument (Document.empty true 0) .origin

def nestedMaterial : Material :=
  { territory := repeatingMaterial.territory
    source :=
      { declarations := [structWith "Outer" "inside" (recordNamed "Inner")], diagnostics := [] } }

def noQueries : QueryTable := { functions := [], globals := [] }

/-- The record inside is referred to and is no struct of the document. -/
theorem nested_record_unresolved :
    ∃ report later, run nestedMaterial noQueries emptyStart = .ok report later ∧
      emptyStart.document = Document.empty true 0 ∧ "Inner" ∈ later.document.references ∧
      "Inner" ∉ later.document.structs.map StructLayout.name := by
  have outcome : (match run nestedMaterial noQueries emptyStart with
      | .ok _ later => some (later.document.references,
          later.document.structs.map StructLayout.name)
      | .error _ _ => none) = some (["Inner"], ["Outer"]) := by
    decide +kernel
  cases ran : run nestedMaterial noQueries emptyStart with
  | error abort later =>
      rw [ran] at outcome
      contradiction
  | ok report later =>
      rw [ran] at outcome
      obtain ⟨references, structs⟩ := Prod.mk.inj (Option.some.inj outcome)
      refine ⟨report, later, rfl, rfl, ?_, ?_⟩
      · rw [references]
        exact List.mem_singleton_self "Inner"
      · rw [structs]
        decide

def pointerTo (target : CType) : CType := { plainType .pointer none with pointee := some target }

def listMaterial : Material :=
  let node := recordNamed "Node"
  { territory := repeatingMaterial.territory
    source :=
      { declarations :=
          [structWith "Node" "next" (pointerTo node),
            declaredAs .function "last"
              { plainType .functionProto (some (pointerTo node)) with
                arguments := some [pointerTo node] },
            declaredAs .variable "v" node]
        diagnostics := [] } }

theorem list_references_resolved :
    ∃ report later, run listMaterial repeatingTable emptyStart = .ok report later ∧
      later.document.references = ["Node", "Node", "Node", "Node"] ∧
      ∀ name, Mentioned listMaterial repeatingTable name →
        ∃ declaration ∈ listMaterial.source.ofKind .struct,
          named? declaration.displayName = some name := by
  have outcome : (match run listMaterial repeatingTable emptyStart with
      | .ok _ later => some (later.document.references,
          later.document.structs.map StructLayout.name)
      | .error _ _ => none) = some (["Node", "Node", "Node", "Node"], ["Node"]) := by
    decide +kernel
  cases ran : run listMaterial repeatingTable emptyStart with
  | error abort later =>
      rw [ran] at outcome
      contradiction
  | ok report later =>
      rw [ran] at outcome
      obtain ⟨references, structs⟩ := Prod.mk.inj (Option.some.inj outcome)
      refine ⟨report, later, rfl, references, ?_⟩
      have fresh : emptyStart.document = Document.empty true 0 := rfl
      apply (references_resolved_iff fresh ran).mp
      intro name refers
      rw [references] at refers
      rw [structs]
      simpa using refers

end Reconstruction

end DebugRecovery
