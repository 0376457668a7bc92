import DebugRecovery.Proofs.Meaning
import Mathlib.Logic.Relation

/-!
# Types under other names

An alias has the debug type of its canonical type, and so has a chain of them.
In a tree in which every type but an alias is its own canonical type, aliases
change nothing wherever they are put: a pointer looks at the canonical type of
its pointee, an alias at its own, and all other types at their parts as they are,
but by each of these ways a part has the debug type, or the defect, that it has
without the aliases above it.
-/

set_option autoImplicit false

namespace DebugRecovery

open Source

namespace Meaning

variable {source part other : CType}

/-- The type is an alias, and the target is its canonical type. -/
def Names (name target : CType) : Prop :=
  (name.kind = .typedef ∨ name.kind = .elaborated) ∧ name.canonical = some target

theorem names_role {name target : CType} (names : Names name target) :
    name.kind.role = .synonym := by
  rcases names.1 with kind | kind
  · rw [kind]
    rfl
  · rw [kind]
    rfl

theorem names_type {name target : CType} (names : Names name target) : type name = type target := by
  rw [type_eq, ofParts, names_role names, names.2]
  rfl

/-- The first type is the second under a chain of aliases. -/
theorem chain_type {name target : CType} (chain : Relation.ReflTransGen Names name target) :
    type name = type target := by
  induction chain with
  | refl => rfl
  | tail _ names induction => rw [induction, names_type names]

/-- The second type is the first with any of its parts, itself among them, under aliases. -/
inductive Aliased : CType → CType → Prop where
  | same (source : CType) : Aliased source source
  | under (source other name : CType) (aliased : Aliased source other) (names : Names name other) :
      Aliased source name
  | within (source : CType) (canonical element pointee result : Option CType)
      (arguments : Option (List CType)) (own : Option.Rel Aliased source.canonical canonical)
      (elements : Option.Rel Aliased source.element element)
      (pointees : Option.Rel Aliased source.pointee pointee)
      (results : Option.Rel Aliased source.result result)
      (each : Option.Rel (List.Forall₂ Aliased) source.arguments arguments) :
      Aliased source { source with canonical, element, pointee, result, arguments }

/-- The type is an alias or its own canonical type. -/
def OwnCanonical (source : CType) : Prop := source.kind.role ≠ .synonym → source.canonical = none

/-- Every type of the tree is an alias or its own canonical type. -/
def Plain (source : CType) : Prop :=
  ∀ node, Relation.ReflTransGen Part source node → OwnCanonical node

theorem plain_part (plain : Plain source) (below : Part source part) : Plain part :=
  fun node within => plain node (.head below within)

theorem plain_of_parts (own : OwnCanonical source) (parts : ∀ part, Part source part → Plain part) :
    Plain source := by
  intro node within
  cases Relation.ReflTransGen.cases_head within with
  | inl same => exact same ▸ own
  | inr further =>
      obtain ⟨part, below, within⟩ := further
      exact parts part below node within

theorem own_canonical_type (own : OwnCanonical source) :
    canonicalType (some source) = some (type source) := by
  rw [canonical_type_some]
  cases given : source.canonical with
  | none => rw [canonical, given, Option.getD_none]
  | some target =>
      have role : source.kind.role = .synonym := by
        by_contra other
        rw [own other] at given
        contradiction
      rw [canonical, given, Option.getD_some, type_eq source, ofParts, role, given]
      rfl

theorem aliased_own_canonical (own : OwnCanonical source) (aliased : Aliased source other) :
    OwnCanonical other := by
  intro role
  cases aliased with
  | same => exact own role
  | under _ inner _ aliased names => exact absurd (names_role names) role
  | within _ canonical _ _ _ _ related _ _ _ _ =>
      rw [own role] at related
      cases related
      rfl

section Optional

variable {left right : Option CType}

theorem optional_type_of_aliased (related : Option.Rel Aliased left right)
    (same : ∀ part inner, left = some part → right = some inner → Aliased part inner →
      type inner = type part) : optionalType right = optionalType left := by
  cases related with
  | none => rfl
  | some aliased => rw [optionalType, optionalType, same _ _ rfl rfl aliased]

theorem canonical_type_of_aliased (related : Option.Rel Aliased left right)
    (own : ∀ part, left = some part → OwnCanonical part)
    (same : ∀ part inner, left = some part → right = some inner → Aliased part inner →
      type inner = type part) : canonicalType right = canonicalType left := by
  cases related with
  | none => rfl
  | some aliased =>
      have ownPart := own _ rfl
      rw [own_canonical_type (aliased_own_canonical ownPart aliased), own_canonical_type ownPart,
        same _ _ rfl rfl aliased]

end Optional

theorem types_of_each {sources others : List CType}
    (each : List.Forall₂ (fun source other => type other = type source) sources others) :
    types others = types sources := by
  induction each with
  | nil => rfl
  | cons same _ induction => rw [types, types, same, induction]

/-- In a tree in which only aliases have another canonical type, putting parts under aliases, as often
and as deep as one likes, changes neither the debug type nor the defect. -/
theorem aliases_transparent {source other : CType} (plain : Plain source)
    (aliased : Aliased source other) : type other = type source := by
  cases aliased with
  | same => rfl
  | under _ inner _ aliased names =>
      have smaller := part_size (.canonical inner names.2)
      rw [names_type names]
      exact aliases_transparent plain aliased
  | within _ canonical element pointee result arguments own elements pointees results each =>
      have parts : ∀ {part inner}, Part source part →
          Part { source with canonical, element, pointee, result, arguments } inner →
          Aliased part inner → type inner = type part := by
        intro part inner below inside aliased
        have smaller := part_size inside
        exact aliases_transparent (plain_part plain below) aliased
      have canonicalSame : optionalType canonical = optionalType source.canonical :=
        optional_type_of_aliased own fun _ _ below inside =>
          parts (.canonical _ below) (.canonical _ inside)
      have elementSame : optionalType element = optionalType source.element :=
        optional_type_of_aliased elements fun _ _ below inside =>
          parts (.element _ below) (.element _ inside)
      have pointeeSame : canonicalType pointee = canonicalType source.pointee := by
        apply canonical_type_of_aliased pointees
        · exact fun part below => plain_part plain (.pointee part below) part .refl
        · exact fun _ _ below inside => parts (.pointee _ below) (.pointee _ inside)
      have resultSame : optionalType result = optionalType source.result :=
        optional_type_of_aliased results fun _ _ below inside =>
          parts (.signature _ (.result _ below)) (.signature _ (.result _ inside))
      have argumentsSame : optionalTypes arguments = optionalTypes source.arguments := by
        generalize listed : source.arguments = sources at each
        cases each with
        | none => rfl
        | some each =>
            rw [optionalTypes, optionalTypes]
            apply congrArg some
            apply types_of_each
            exact each_imp each fun part below inner inside => parts
              (.signature _ (.argument _ part listed below))
              (.signature _ (.argument _ inner rfl inside))
      rw [type_eq, type_eq source, canonicalSame, elementSame, pointeeSame, resultSame,
        argumentsSame]
termination_by sizeOf other

def bareType (kind : TypeKind) (spelling : String) : CType :=
  { kind, spelling, canonical := none, element := none, size := none, pointee := none
    declaration := none, result := none, arguments := none, convention := .absent, fields := none
    offsets := [] }

def nameOf (spelling : String) (kind : TypeKind) (target : CType) : CType :=
  { bareType kind spelling with canonical := some target }

def rowOf (element : CType) : CType :=
  { bareType .constantArray "int [2]" with element := some element, size := some 8 }

def rowPointer (row : CType) : CType :=
  { bareType .pointer "int (*)[2]" with pointee := some row }

def plainRows : CType := rowPointer (rowOf (bareType .int "int"))

def namedRows : CType :=
  let row := nameOf "row" .typedef (rowOf (nameOf "s32" .typedef (bareType .int "int")))
  nameOf "rows" .elaborated (rowPointer (nameOf "row" .elaborated row))

/-- Without a canonical type and a signature, the parts of a type are its element and its pointee. -/
theorem plain_of_data (canonical : source.canonical = none) (result : source.result = none)
    (arguments : source.arguments = none) (element : ∀ part ∈ source.element, Plain part)
    (pointee : ∀ part ∈ source.pointee, Plain part) : Plain source := by
  apply plain_of_parts
  · exact fun _ => canonical
  · intro part below
    cases below with
    | canonical given =>
        rw [canonical] at given
        contradiction
    | element given => exact element part given
    | pointee given => exact pointee part given
    | signature made =>
        cases made with
        | result _ given =>
            rw [result] at given
            contradiction
        | argument others _ given member =>
            rw [arguments] at given
            contradiction

theorem bare_type_plain (kind : TypeKind) (spelling : String) : Plain (bareType kind spelling) := by
  apply plain_of_data rfl rfl rfl
  · exact fun _ given => by contradiction
  · exact fun _ given => by contradiction

theorem plain_rows_plain : Plain plainRows := by
  have row : Plain (rowOf (bareType .int "int")) := by
    apply plain_of_data rfl rfl rfl
    · exact fun _ given => Option.some.inj given ▸ bare_type_plain .int "int"
    · exact fun _ given => by contradiction
  apply plain_of_data rfl rfl rfl
  · exact fun _ given => by contradiction
  · exact fun _ given => Option.some.inj given ▸ row

theorem named_rows_aliased : Aliased plainRows namedRows := by
  have element : Aliased (bareType .int "int") (nameOf "s32" .typedef (bareType .int "int")) :=
    .under _ _ _ (.same _) ⟨Or.inl rfl, rfl⟩
  have row : Aliased (rowOf (bareType .int "int"))
      (rowOf (nameOf "s32" .typedef (bareType .int "int"))) :=
    .within (rowOf (bareType .int "int")) none _ none none none .none (.some element) .none .none
      .none
  have pointee : Aliased (rowOf (bareType .int "int")) (nameOf "row" .elaborated
      (nameOf "row" .typedef (rowOf (nameOf "s32" .typedef (bareType .int "int"))))) :=
    .under _ _ _ (.under _ _ _ row ⟨Or.inl rfl, rfl⟩) ⟨Or.inr rfl, rfl⟩
  have pointer := Aliased.within plainRows none none _ none none .none .none (.some pointee) .none
    .none
  exact .under _ _ _ pointer ⟨Or.inr rfl, rfl⟩

theorem row_aliases_transparent :
    Plain plainRows ∧ Aliased plainRows namedRows ∧ type namedRows = type plainRows ∧
      type plainRows = .ok (.pointer (.array (.primitive .int32) 8)) := by
  have same := aliases_transparent plain_rows_plain named_rows_aliased
  exact ⟨plain_rows_plain, named_rows_aliased, same, rfl⟩

end Meaning

end DebugRecovery
