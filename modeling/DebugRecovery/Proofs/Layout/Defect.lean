import DebugRecovery.Proofs.Layout
import DebugRecovery.Proofs.Meaning.Denotation

/-!
# Structs that are refused

A struct is refused for the first defect that is met in a fixed order: its kind,
its type, its name, its list of members, then the members one after the other,
and its size last. Of a member the order is its name, its type, what the type
stands for, its offset, and whether the offset is one of whole bytes. Each defect
is stated with all that came before it, so that of several defects one is told.
Every declaration either defines a layout or has such a defect.
-/

set_option autoImplicit false

namespace DebugRecovery

open Source

namespace StructMember

variable {struct : String} {structType : CType} {member : Declaration}

/-- The member has a name, a type that denotes one, and an offset of whole bytes under its name. -/
structure Complete (structType : CType) (member : Declaration) : Prop where
  typed : ∃ source value, member.type = some source ∧ Meaning.Denotes source value
  placed : ∃ name bits, named? member.displayName = some name ∧
    structType.offset? name = some bits ∧ 8 ∣ bits

/-- The first defect of a member of the struct. -/
inductive Fails (struct : String) (structType : CType) (member : Declaration) :
    FieldDefect → Prop where
  | nameless (unnamed : named? member.displayName = none) :
      Fails struct structType member (.nameless member.location)
  | untyped (name : String) (named : named? member.displayName = some name)
      (missing : member.type = none) : Fails struct structType member (.untyped struct name)
  | type (name : String) (source : CType) (defect : TypeDefect)
      (named : named? member.displayName = some name) (given : member.type = some source)
      (failed : Meaning.Fails source defect) : Fails struct structType member (.type defect)
  | noOffset (name : String) (source : CType) (value : DebugType)
      (named : named? member.displayName = some name) (given : member.type = some source)
      (denotes : Meaning.Denotes source value) (missing : structType.offset? name = none) :
      Fails struct structType member (.noOffset struct name)
  | unaligned (name : String) (source : CType) (value : DebugType) (bits : Int)
      (named : named? member.displayName = some name) (given : member.type = some source)
      (denotes : Meaning.Denotes source value) (placed : structType.offset? name = some bits)
      (split : ¬ 8 ∣ bits) : Fails struct structType member (.unaligned struct name bits)

theorem of_declaration_of_fails {defect : FieldDefect}
    (fails : Fails struct structType member defect) :
    StructMember.ofDeclaration struct structType member = .error defect := by
  cases fails with
  | nameless unnamed => simp only [StructMember.ofDeclaration, unnamed]
  | untyped name named missing => simp only [StructMember.ofDeclaration, named, missing]
  | type name source defect named given failed =>
      have translated := Meaning.type_of_fails failed
      simp only [StructMember.ofDeclaration, named, given, translated]
  | noOffset name source value named given denotes missing =>
      have translated := Meaning.type_of_denotes denotes
      simp only [StructMember.ofDeclaration, named, given, translated, missing]
  | unaligned name source value bits named given denotes placed split =>
      have translated := Meaning.type_of_denotes denotes
      have remainder : ¬ bits % 8 = 0 := by omega
      simp only [StructMember.ofDeclaration, named, given, translated, placed, if_neg remainder]

theorem declares_or_fails (struct : String) (structType : CType) (member : Declaration) :
    (∃ field, Declares structType member field) ∨
      ∃ defect, Fails struct structType member defect := by
  -- The parts in the order in which they are asked for, so that a case knows those before.
  cases named : named? member.displayName with
  | none => exact Or.inr ⟨_, .nameless named⟩
  | some name =>
      cases given : member.type with
      | none => exact Or.inr ⟨_, .untyped name named given⟩
      | some source =>
          rcases Meaning.denotes_or_fails source with ⟨value, denotes⟩ | ⟨defect, failed⟩
          · cases placed : structType.offset? name with
            | none => exact Or.inr ⟨_, .noOffset name source value named given denotes placed⟩
            | some bits =>
                by_cases whole : 8 ∣ bits
                · obtain ⟨offset, rfl⟩ := whole
                  have translated := Meaning.type_of_denotes denotes
                  exact Or.inl ⟨⟨name, value, offset⟩, named, ⟨source, given, translated⟩, placed⟩
                · exact Or.inr
                    ⟨_, .unaligned name source value bits named given denotes placed whole⟩
          · exact Or.inr ⟨_, .type name source defect named given failed⟩

theorem complete_of_declares {field : StructMember} (declares : Declares structType member field) :
    Complete structType member := by
  obtain ⟨source, given, translated⟩ := declares.typed
  have denotes := ((Meaning.type_iff_denotes source).1 field.type).mp translated
  exact ⟨⟨source, field.type, given, denotes⟩,
    field.name, 8 * field.offset, declares.named, declares.placed, Int.dvd_mul_right 8 field.offset⟩

theorem declares_of_complete (complete : Complete structType member) :
    ∃ field, Declares structType member field := by
  obtain ⟨source, value, given, denotes⟩ := complete.typed
  obtain ⟨name, bits, named, placed, offset, rfl⟩ := complete.placed
  have translated := Meaning.type_of_denotes denotes
  exact ⟨⟨name, value, offset⟩, named, ⟨source, given, translated⟩, placed⟩

end StructMember

namespace StructLayout

variable {declaration : Declaration}

/-- The declaration is of a struct with the name and the type. -/
structure Opens (declaration : Declaration) (name : String) (structType : CType) : Prop where
  kind : declaration.kind = .struct
  typed : declaration.type = some structType
  named : named? declaration.displayName = some name

/-- The declaration is of a struct with all of its parts. -/
structure Complete (declaration : Declaration) : Prop where
  kind : declaration.kind = .struct
  named : named? declaration.displayName ≠ none
  typed : ∃ structType members, declaration.type = some structType ∧
    structType.fields = some members ∧ structType.size ≠ none ∧
    ∀ member ∈ members, StructMember.Complete structType member

/-- The first defect of a struct. -/
inductive Fails (declaration : Declaration) : StructDefect → Prop where
  | notStruct (other : declaration.kind ≠ .struct) :
      Fails declaration (.notStruct declaration.location)
  | untyped (kind : declaration.kind = .struct) (missing : declaration.type = none) :
      Fails declaration (.untyped declaration.location)
  | nameless (structType : CType) (kind : declaration.kind = .struct)
      (typed : declaration.type = some structType)
      (unnamed : named? declaration.displayName = none) :
      Fails declaration (.nameless declaration.location)
  | noMembers (name : String) (structType : CType) (opens : Opens declaration name structType)
      (missing : structType.fields = none) : Fails declaration (.noMembers name)
  | member (name : String) (structType : CType) (front back : List Declaration)
      (member : Declaration) (fields : List StructMember) (defect : FieldDefect)
      (opens : Opens declaration name structType)
      (given : structType.fields = some (front ++ member :: back))
      (before : List.Forall₂ (StructMember.Declares structType) front fields)
      (failed : StructMember.Fails name structType member defect) :
      Fails declaration (.member defect)
  | noSize (name : String) (structType : CType) (members : List Declaration)
      (fields : List StructMember) (opens : Opens declaration name structType)
      (given : structType.fields = some members)
      (each : List.Forall₂ (StructMember.Declares structType) members fields)
      (missing : structType.size = none) : Fails declaration (.noSize name)

theorem of_declaration_of_fails {defect : StructDefect} (fails : Fails declaration defect) :
    StructLayout.ofDeclaration declaration = .error defect := by
  unfold StructLayout.ofDeclaration
  cases fails with
  | notStruct other => rw [if_pos other]; rfl
  | untyped kind missing => simp [kind, missing]
  | nameless structType kind typed unnamed => simp [kind, typed, unnamed]
  | noMembers name structType opens missing =>
      simp [opens.kind, opens.typed, opens.named, missing]
  | member name structType front back member fields defect opens given before failed =>
      have failing : (front ++ member :: back).mapM (StructMember.ofDeclaration name structType) =
          .error defect := by
        rw [except_each_error_iff]
        refine ⟨front, member, back, fields, rfl, ?_, StructMember.of_declaration_of_fails failed⟩
        exact before.imp fun _ _ => StructMember.of_declaration_ok_iff.mpr
      simp [opens.kind, opens.typed, opens.named, given, failing]
  | noSize name structType members fields opens given each missing =>
      have built : members.mapM (StructMember.ofDeclaration name structType) = .ok fields :=
        except_each_iff.mpr (each.imp fun _ _ => StructMember.of_declaration_ok_iff.mpr)
      simp [opens.kind, opens.typed, opens.named, given, built, missing]

theorem defines_or_fails (declaration : Declaration) :
    (∃ layout, Defines declaration layout) ∨ ∃ defect, Fails declaration defect := by
  by_cases kind : declaration.kind = .struct
  · cases typed : declaration.type with
    | none => exact Or.inr ⟨_, .untyped kind typed⟩
    | some structType =>
        cases named : named? declaration.displayName with
        | none => exact Or.inr ⟨_, .nameless structType kind typed named⟩
        | some name =>
            have opens : Opens declaration name structType := ⟨kind, typed, named⟩
            cases given : structType.fields with
            | none => exact Or.inr ⟨_, .noMembers name structType opens given⟩
            | some members =>
                have decided := each_or_first fun member (_ : member ∈ members) =>
                  StructMember.declares_or_fails name structType member
                rcases decided with ⟨fields, each⟩ |
                  ⟨front, member, back, fields, defect, rfl, before, failed⟩
                · cases sized : structType.size with
                  | none =>
                      refine Or.inr ⟨.noSize name, ?_⟩
                      exact .noSize name structType members fields opens given each sized
                  | some size =>
                      refine Or.inl ⟨⟨name, fields, size⟩, kind, named, ?_⟩
                      exact ⟨structType, members, typed, given, sized, each⟩
                · refine Or.inr ⟨.member defect, ?_⟩
                  exact .member name structType front back member fields defect opens given before
                    failed
  · exact Or.inr ⟨_, .notStruct kind⟩

theorem complete_of_defines {layout : StructLayout} (defines : Defines declaration layout) :
    Complete declaration := by
  obtain ⟨structType, members, typed, given, sized, each⟩ := defines.typed
  have named : named? declaration.displayName ≠ none := by
    rw [defines.named]
    exact Option.some_ne_none _
  have known : structType.size ≠ none := by
    rw [sized]
    exact Option.some_ne_none _
  refine ⟨defines.kind, named, structType, members, typed, given, known, ?_⟩
  intro member inside
  obtain ⟨field, _, declares⟩ := each_item each inside
  exact StructMember.complete_of_declares declares

theorem defines_of_complete (complete : Complete declaration) :
    ∃ layout, Defines declaration layout := by
  obtain ⟨name, named⟩ := Option.ne_none_iff_exists'.mp complete.named
  obtain ⟨structType, members, typed, given, known, parts⟩ := complete.typed
  obtain ⟨size, sized⟩ := Option.ne_none_iff_exists'.mp known
  obtain ⟨fields, each⟩ := each_of_all fun member inside =>
    StructMember.declares_of_complete (parts member inside)
  exact ⟨⟨name, fields, size⟩, complete.kind, named, structType, members, typed, given, sized, each⟩

/-- A struct with all of its parts, and no other declaration, has a layout. It has the name and the
size of the struct and its members in their order, each with its name, what its type translates to
and its offset, of which eight times are the bits under its name. Every other declaration is refused
with its first defect. -/
theorem layouts_built_as_declared (declaration : Declaration) :
    ((∃ layout, StructLayout.ofDeclaration declaration = .ok layout) ↔ Complete declaration) ∧
    (∀ layout, StructLayout.ofDeclaration declaration = .ok layout ↔
      Defines declaration layout) ∧
    (∀ defect, StructLayout.ofDeclaration declaration = .error defect ↔
      Fails declaration defect) := by
  have decided := except_iff_of_total
    (fun _ => StructLayout.of_declaration_ok_iff.mpr) (fun _ => of_declaration_of_fails)
    (defines_or_fails declaration)
  refine ⟨⟨?_, ?_⟩, decided.1, decided.2⟩
  · rintro ⟨layout, built⟩
    exact complete_of_defines ((decided.1 layout).mp built)
  · intro complete
    obtain ⟨layout, defines⟩ := defines_of_complete complete
    exact ⟨layout, (decided.1 layout).mpr defines⟩

end StructLayout

end DebugRecovery
