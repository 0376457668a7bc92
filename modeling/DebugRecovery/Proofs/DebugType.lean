import DebugRecovery.DebugType
import DebugRecovery.Proofs.Json.Same
import Mathlib.Data.List.Nodup

/-!
# The JSON of types

Every debug type, signature and layout has plain JSON, and no two of them have
the same: each form of type has its own word under `kind`, and each of its parts
has a name of its own, under which the part is told apart in turn. The order of
parameters and of fields is that of arrays, which the JSON keeps.
-/

set_option autoImplicit false

namespace DebugRecovery

open Json (Plain Same)

theorem plain_map {Item : Type} {toJson : Item → Json} (items : List Item)
    (plain : ∀ item, Plain (toJson item)) : Plain (.array (items.map toJson)) := by
  apply Plain.array
  intro json inside
  obtain ⟨item, _, rfl⟩ := List.mem_map.mp inside
  exact plain item

mutual

theorem DebugType.to_json_plain : ∀ type : DebugType, Plain type.toJson
  | .primitive kind => by
      refine .object _ (by simp) ?_
      simp [Plain.string]
  | .pointer target => by
      have inner := DebugType.to_json_plain target
      refine .object _ (by simp) ?_
      simp [Plain.string, inner]
  | .array element size => by
      have inner := DebugType.to_json_plain element
      refine .object _ (by simp) ?_
      simp [Plain.string, Plain.integer, inner]
  | .struct name => by
      refine .object _ (by simp) ?_
      simp [Plain.string]
  | .function signature => by
      have inner := FunctionSignature.to_json_plain signature
      refine .object _ (by simp) ?_
      simp [Plain.string, inner]

theorem FunctionSignature.to_json_plain : ∀ signature : FunctionSignature, Plain signature.toJson
  | ⟨returnType, parameters, convention⟩ => by
      have returned := DebugType.to_json_plain returnType
      have taken := types_to_json_plain parameters
      refine .object _ (by simp) ?_
      simp [Plain.string, returned, Plain.array _ taken]

theorem types_to_json_plain : ∀ types : List DebugType, ∀ item ∈ typesToJson types, Plain item
  | [] => by simp [typesToJson]
  | type :: types => by
      have first := DebugType.to_json_plain type
      have others := types_to_json_plain types
      simpa [typesToJson, first] using others

end

theorem StructMember.to_json_plain (field : StructMember) : Plain field.toJson := by
  have type := field.type.to_json_plain
  refine .object _ (by simp) ?_
  simp [Plain.string, Plain.integer, type]

theorem StructLayout.to_json_plain (layout : StructLayout) : Plain layout.toJson := by
  have fields := plain_map layout.fields StructMember.to_json_plain
  refine .object _ (by simp) ?_
  simp [Plain.string, Plain.integer, fields]

def Primitive.all : List Primitive :=
  [.void, .bool8, .signedChar, .unsignedChar, .wideChar, .char16, .char32, .short, .unsignedShort,
    .int32, .uint32, .long, .unsignedLong, .int64, .uint64, .int128, .uint128, .float16, .float32,
    .float64, .float80, .float128]

theorem Primitive.mem_all (kind : Primitive) : kind ∈ Primitive.all := by
  cases kind <;> decide

theorem Primitive.key_injective {kind other : Primitive} (same : kind.key = other.key) :
    kind = other := by
  have distinct : (Primitive.all.map Primitive.key).Nodup := by decide
  exact List.inj_on_of_nodup_map distinct kind.mem_all other.mem_all same

theorem CallingConvention.key_injective {convention other : CallingConvention}
    (same : convention.key = other.key) : convention = other := by
  cases convention <;> cases other <;> first | rfl | exact absurd same (by decide)

/-- The word that the JSON of a type has under `kind`. -/
def DebugType.form : DebugType → String
  | .primitive _ => "primitive"
  | .pointer _ => "pointer"
  | .array _ _ => "array"
  | .struct _ => "struct"
  | .function _ => "function"

theorem DebugType.form_leads (type : DebugType) :
    ∃ rest, type.toJson = .object (("kind", .string type.form) :: rest) ∧
      ∀ found, ("kind", found) ∉ rest := by
  cases type <;> exact ⟨_, rfl, by simp⟩

theorem DebugType.form_of_same {left right : DebugType} (same : Same left.toJson right.toJson) :
    left.form = right.form := by
  obtain ⟨rest, written, _⟩ := left.form_leads
  obtain ⟨others, writtenToo, free⟩ := right.form_leads
  rw [written, writtenToo] at same
  apply Json.same_string
  apply Json.same_value "kind" same List.mem_cons_self
  intro found member
  rcases List.mem_cons.mp member with first | further
  · exact congrArg Prod.snd first
  · exact absurd further (free found)

mutual

theorem DebugType.eq_of_same :
    ∀ left right : DebugType, Same left.toJson right.toJson → left = right
  | .primitive kind, right, same => by
      have form := DebugType.form_of_same same
      cases right with
      | primitive other =>
          have word : Same (.string kind.key) (.string other.key) :=
            Json.same_value "primitive" same (by simp) (by simp)
          rw [Primitive.key_injective (Json.same_string word)]
      | _ => exact absurd form (by simp [DebugType.form])
  | .pointer target, right, same => by
      have form := DebugType.form_of_same same
      cases right with
      | pointer other =>
          have targets : Same target.toJson other.toJson :=
            Json.same_value "target" same (by simp) (by simp)
          rw [DebugType.eq_of_same target other targets]
      | _ => exact absurd form (by simp [DebugType.form])
  | .array element size, right, same => by
      have form := DebugType.form_of_same same
      cases right with
      | array other otherSize =>
          have elements : Same element.toJson other.toJson :=
            Json.same_value "element" same (by simp) (by simp)
          have sizes : Same (.integer size) (.integer otherSize) :=
            Json.same_value "size" same (by simp) (by simp)
          rw [DebugType.eq_of_same element other elements, Json.same_integer sizes]
      | _ => exact absurd form (by simp [DebugType.form])
  | .struct name, right, same => by
      have form := DebugType.form_of_same same
      cases right with
      | struct other =>
          have names : Same (.string name) (.string other) :=
            Json.same_value "name" same (by simp) (by simp)
          rw [Json.same_string names]
      | _ => exact absurd form (by simp [DebugType.form])
  | .function signature, right, same => by
      have form := DebugType.form_of_same same
      cases right with
      | function other =>
          have signatures : Same signature.toJson other.toJson :=
            Json.same_value "signature" same (by simp) (by simp)
          rw [FunctionSignature.eq_of_same signature other signatures]
      | _ => exact absurd form (by simp [DebugType.form])

theorem FunctionSignature.eq_of_same :
    ∀ left right : FunctionSignature, Same left.toJson right.toJson → left = right
  | ⟨returnType, parameters, convention⟩, ⟨otherReturn, otherParameters, otherConvention⟩, same => by
      have returned : Same returnType.toJson otherReturn.toJson :=
        Json.same_value "return_type" same (by simp) (by simp)
      have taken : Same (.array (typesToJson parameters)) (.array (typesToJson otherParameters)) :=
        Json.same_value "parameters" same (by simp) (by simp)
      have word : Same (.string convention.key) (.string otherConvention.key) :=
        Json.same_value "calling_convention" same (by simp) (by simp)
      rw [DebugType.eq_of_same returnType otherReturn returned,
        types_eq_of_same parameters otherParameters (Json.same_items taken),
        CallingConvention.key_injective (Json.same_string word)]

theorem types_eq_of_same : ∀ left right : List DebugType,
    List.Forall₂ Same (typesToJson left) (typesToJson right) → left = right
  | [], right, each => by
      cases right with
      | nil => rfl
      | cons type types => cases each
  | type :: types, right, each => by
      cases right with
      | nil => cases each
      | cons other others =>
          rw [typesToJson, typesToJson, List.forall₂_cons] at each
          rw [DebugType.eq_of_same type other each.1, types_eq_of_same types others each.2]

end

theorem StructMember.eq_of_same {left right : StructMember} (same : Same left.toJson right.toJson) :
    left = right := by
  obtain ⟨name, type, offset⟩ := left
  obtain ⟨otherName, otherType, otherOffset⟩ := right
  have names : Same (.string name) (.string otherName) :=
    Json.same_value "name" same (by simp) (by simp)
  have types : Same type.toJson otherType.toJson := Json.same_value "type" same (by simp) (by simp)
  have offsets : Same (.integer offset) (.integer otherOffset) :=
    Json.same_value "offset" same (by simp) (by simp)
  rw [Json.same_string names, type.eq_of_same otherType types, Json.same_integer offsets]

theorem fields_eq_of_same {left right : List StructMember}
    (each : List.Forall₂ Same (left.map StructMember.toJson) (right.map StructMember.toJson)) :
    left = right := by
  rw [List.forall₂_map_left_iff, List.forall₂_map_right_iff] at each
  rw [← List.forall₂_eq_eq_eq]
  exact each.imp fun _ _ => StructMember.eq_of_same

theorem StructLayout.eq_of_same {left right : StructLayout} (same : Same left.toJson right.toJson) :
    left = right := by
  obtain ⟨name, fields, size⟩ := left
  obtain ⟨otherName, otherFields, otherSize⟩ := right
  have names : Same (.string name) (.string otherName) :=
    Json.same_value "name" same (by simp) (by simp)
  have sizes : Same (.integer size) (.integer otherSize) :=
    Json.same_value "size" same (by simp) (by simp)
  have listed : Same (.array (fields.map StructMember.toJson))
      (.array (otherFields.map StructMember.toJson)) :=
    Json.same_value "fields" same (by simp) (by simp)
  rw [Json.same_string names, Json.same_integer sizes, fields_eq_of_same (Json.same_items listed)]

/-- Types, signatures and layouts are told apart by their JSON, however its members are ordered, and
by the text that is written for it. -/
theorem json_tells_types_apart :
    Json.Faithful DebugType.toJson ∧ Json.Faithful FunctionSignature.toJson ∧
      Json.Faithful StructLayout.toJson := by
  refine ⟨?_, ?_, ?_⟩
  · exact Json.faithful_of_plain DebugType.to_json_plain DebugType.eq_of_same
  · exact Json.faithful_of_plain FunctionSignature.to_json_plain FunctionSignature.eq_of_same
  · exact Json.faithful_of_plain StructLayout.to_json_plain fun _ _ => StructLayout.eq_of_same

end DebugRecovery
