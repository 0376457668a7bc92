import DebugRecovery.Layout
import DebugRecovery.Proofs.Each

/-!
# Declarations that are accepted

A function, a member of a struct and a struct are each accepted for exactly the
declarations that have all of their parts, and nothing of what they become is
left open: the names are those of the declarations, the types those that the C
types stand for, and an offset is an eighth of the offset in bits.
-/

set_option autoImplicit false

namespace DebugRecovery

open Source

variable {declaration : Declaration}

/-- The declaration is of a function under the name of the prototype, with its signature. -/
structure Prototype.Declares (declaration : Declaration) (prototype : Prototype) : Prop where
  kind : declaration.kind = .function
  named : named? declaration.linkageName = some prototype.name
  typed : ∃ source, declaration.type = some source ∧
    Meaning.signature source = .ok prototype.signature

theorem Prototype.of_declaration_ok_iff {prototype : Prototype} :
    Prototype.ofDeclaration declaration = .ok prototype ↔
      Prototype.Declares declaration prototype := by
  constructor
  · intro accepted
    unfold Prototype.ofDeclaration at accepted
    split at accepted
    · contradiction
    · rename_i name named
      split at accepted
      · rename_i source kind typed
        split at accepted
        · contradiction
        · rename_i signature translated
          rw [← Except.ok.inj accepted]
          exact ⟨kind, named, source, typed, translated⟩
      · contradiction
  · intro declares
    obtain ⟨source, typed, translated⟩ := declares.typed
    simp only [Prototype.ofDeclaration, declares.named, declares.kind, typed, translated]

/-- The declaration is of the member, which the type of the struct has at its offset. -/
structure StructMember.Declares (structType : CType) (declaration : Declaration)
    (field : StructMember) : Prop where
  named : named? declaration.displayName = some field.name
  typed : ∃ source, declaration.type = some source ∧ Meaning.type source = .ok field.type
  placed : structType.offset? field.name = some (8 * field.offset)

theorem StructMember.of_declaration_ok_iff {struct : String} {structType : CType}
    {field : StructMember} :
    StructMember.ofDeclaration struct structType declaration = .ok field ↔
      StructMember.Declares structType declaration field := by
  constructor
  · intro accepted
    unfold StructMember.ofDeclaration at accepted
    split at accepted
    · contradiction
    · rename_i name named
      split at accepted
      · contradiction
      · rename_i source typed
        split at accepted
        · contradiction
        · rename_i type translated
          split at accepted
          · contradiction
          · rename_i bits placed
            split at accepted
            · rename_i aligned
              have whole : bits = 8 * (bits / 8) := by omega
              rw [← Except.ok.inj accepted]
              rw [whole] at placed
              exact ⟨named, ⟨source, typed, translated⟩, placed⟩
            · contradiction
  · intro declares
    obtain ⟨source, typed, translated⟩ := declares.typed
    have aligned : 8 * field.offset % 8 = 0 := by omega
    have offset : 8 * field.offset / 8 = field.offset := by omega
    simp only [StructMember.ofDeclaration, declares.named, typed, translated, declares.placed,
      aligned, ↓reduceIte, offset]

/-- The declaration is of a struct, and the layout has its name, its size and its members. -/
structure StructLayout.Defines (declaration : Declaration) (layout : StructLayout) : Prop where
  kind : declaration.kind = .struct
  named : named? declaration.displayName = some layout.name
  typed : ∃ structType members, declaration.type = some structType ∧
    structType.fields = some members ∧ structType.size = some layout.size ∧
    List.Forall₂ (StructMember.Declares structType) members layout.fields

theorem StructLayout.of_declaration_ok_iff {layout : StructLayout} :
    StructLayout.ofDeclaration declaration = .ok layout ↔
      StructLayout.Defines declaration layout := by
  constructor
  · intro accepted
    unfold StructLayout.ofDeclaration at accepted
    dsimp only at accepted
    by_cases kind : declaration.kind ≠ .struct
    · rw [if_pos kind] at accepted
      contradiction
    · rw [if_neg kind] at accepted
      split at accepted
      · contradiction
      · contradiction
      · rename_i structType name typed named
        split at accepted
        · contradiction
        · rename_i members given
          split at accepted
          · contradiction
          · rename_i fields translated
            split at accepted
            · contradiction
            · rename_i size sized
              have each := (except_each translated).imp fun _ _ =>
                StructMember.of_declaration_ok_iff.mp
              rw [← Except.ok.inj accepted]
              exact ⟨not_not.mp kind, named, structType, members, typed, given, sized, each⟩
  · intro defines
    obtain ⟨structType, members, typed, given, sized, each⟩ := defines.typed
    have translated : members.mapM (StructMember.ofDeclaration layout.name structType) =
        .ok layout.fields :=
      except_each_iff.mpr (each.imp fun _ _ => StructMember.of_declaration_ok_iff.mpr)
    unfold StructLayout.ofDeclaration
    simp only [defines.kind, ne_eq, not_true_eq_false, ↓reduceIte, typed, defines.named, given,
      translated, sized]

end DebugRecovery
