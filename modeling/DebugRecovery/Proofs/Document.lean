import DebugRecovery.Document

/-!
# Growth of documents

A document grows at the ends of its four lists, and the name of every layout
that it gets is taken from then on. What an insertion requires is told in full.
-/

set_option autoImplicit false

namespace DebugRecovery.Document

variable {document entered : Document}

def empty (is64 : Bool) (imageBase : Int) : Document := { is64, imageBase }

/-- The document with more records after those it has. -/
def extended (document : Document) (structs : List StructLayout) (prototypes : List Prototype)
    (functions : List (Symbol Nat)) (globals : List (Symbol DebugType)) : Document :=
  { document with
    structs := document.structs ++ structs
    structNames := document.structNames ++ structs.map StructLayout.name
    prototypes := document.prototypes ++ prototypes
    functions := document.functions ++ functions
    globals := document.globals ++ globals }

theorem extended_nothing (document : Document) : document.extended [] [] [] [] = document := by
  simp [extended]

theorem extended_extended (document : Document) (structs moreStructs : List StructLayout)
    (prototypes morePrototypes : List Prototype) (functions moreFunctions : List (Symbol Nat))
    (globals moreGlobals : List (Symbol DebugType)) :
    (document.extended structs prototypes functions globals).extended
        moreStructs morePrototypes moreFunctions moreGlobals =
      document.extended (structs ++ moreStructs) (prototypes ++ morePrototypes)
        (functions ++ moreFunctions) (globals ++ moreGlobals) := by
  simp [extended]

/-- The second document has the records of the first, before all others that it has. -/
structure Grows (before after : Document) : Prop where
  structs : before.structs <+: after.structs
  prototypes : before.prototypes <+: after.prototypes
  functions : before.functions <+: after.functions
  globals : before.globals <+: after.globals

theorem grows_refl (document : Document) : document.Grows document :=
  ⟨List.prefix_refl _, List.prefix_refl _, List.prefix_refl _, List.prefix_refl _⟩

theorem grows_trans {before between after : Document} (first : before.Grows between)
    (second : between.Grows after) : before.Grows after where
  structs := first.structs.trans second.structs
  prototypes := first.prototypes.trans second.prototypes
  functions := first.functions.trans second.functions
  globals := first.globals.trans second.globals

theorem grows_extended (document : Document) (structs : List StructLayout)
    (prototypes : List Prototype) (functions : List (Symbol Nat))
    (globals : List (Symbol DebugType)) :
    document.Grows (document.extended structs prototypes functions globals) :=
  ⟨List.prefix_append _ _, List.prefix_append _ _, List.prefix_append _ _, List.prefix_append _ _⟩

theorem add_struct_ok_iff {layout : StructLayout} :
    document.addStruct layout = .ok entered ↔
      layout.name ∉ document.structNames ∧ entered = document.extended [layout] [] [] [] := by
  unfold addStruct extended
  by_cases taken : layout.name ∈ document.structNames
  · simp [taken]
  · simp [taken, eq_comm]

/-- The layouts can be entered one after the other. -/
structure Admits (document : Document) (layouts : List StructLayout) : Prop where
  distinct : (layouts.map StructLayout.name).Nodup
  free : ∀ layout ∈ layouts, layout.name ∉ document.structNames

theorem admits_nothing (document : Document) : document.Admits [] :=
  ⟨List.nodup_nil, by simp⟩

theorem admits_cons_iff {layout : StructLayout} {layouts : List StructLayout} :
    document.Admits (layout :: layouts) ↔
      layout.name ∉ document.structNames ∧
        (document.extended [layout] [] [] []).Admits layouts := by
  constructor
  · intro admitted
    have distinct := List.nodup_cons.mp admitted.distinct
    refine ⟨admitted.free layout List.mem_cons_self, distinct.2, ?_⟩
    intro other member taken
    have listed : other.name ∈ layouts.map StructLayout.name := List.mem_map_of_mem member
    simp only [extended, List.map_cons, List.map_nil, List.mem_append, List.mem_singleton] at taken
    rcases taken with before | same
    · exact admitted.free other (List.mem_cons_of_mem _ member) before
    · exact distinct.1 (same ▸ listed)
  · rintro ⟨free, rest⟩
    have apart : ∀ other ∈ layouts, other.name ∉ document.structNames ∧ other.name ≠ layout.name := by
      intro other member
      have unknown := rest.free other member
      simpa [extended] using unknown
    constructor
    · refine List.nodup_cons.mpr ⟨?_, rest.distinct⟩
      intro listed
      obtain ⟨other, member, same⟩ := List.mem_map.mp listed
      exact (apart other member).2 same
    · intro other member
      rcases List.mem_cons.mp member with rfl | later
      · exact free
      · exact (apart other later).1

/-- A number stands for a position when a prototype has been entered there. -/
theorem position_some_iff (document : Document) (number : Int) (position : Nat) :
    document.position? number = some position ↔
      number = position ∧ position < document.prototypes.length := by
  unfold position? nextPosition
  constructor
  · intro issued
    split at issued
    · obtain rfl := Option.some.inj issued
      omega
    · contradiction
  · rintro ⟨rfl, bound⟩
    rw [if_pos (by omega), Int.toNat_natCast]

theorem add_function_ok_iff {symbol : Symbol Int} :
    document.addFunction symbol = .ok entered ↔
      ∃ typeRef : Option Nat, symbol.typeRef = typeRef.map Int.ofNat ∧
        (∀ position, typeRef = some position → position < document.prototypes.length) ∧
        entered = document.extended [] [] [symbol.withType typeRef] [] := by
  have appended : ∀ placed : Symbol Nat,
      document.appendFunction placed = document.extended [] [] [placed] [] := by
    intro placed
    simp [appendFunction, extended]
  unfold addFunction
  cases given : symbol.typeRef with
  | none =>
      constructor
      · intro inserted
        refine ⟨none, rfl, by simp, ?_⟩
        rw [← appended]
        exact (Except.ok.inj inserted).symm
      · rintro ⟨typeRef, same, _, rfl⟩
        obtain rfl : typeRef = none := by simpa using same.symm
        rw [← appended]
  | some number =>
      constructor
      · intro inserted
        dsimp only at inserted
        split at inserted
        · rename_i position issued
          obtain ⟨same, bound⟩ := (position_some_iff document number position).mp issued
          refine ⟨some position, by simp [same], ?_, ?_⟩
          · intro other chosen
            obtain rfl := Option.some.inj chosen
            exact bound
          · rw [← appended]
            exact (Except.ok.inj inserted).symm
        · contradiction
      · rintro ⟨typeRef, same, bounded, rfl⟩
        cases typeRef with
        | none => simp at same
        | some position =>
            have issued : document.position? number = some position := by
              apply (position_some_iff document number position).mpr
              exact ⟨by simpa using same, bounded position rfl⟩
            simp only [issued, appended]

end DebugRecovery.Document
