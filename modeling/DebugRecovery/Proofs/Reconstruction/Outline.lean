import DebugRecovery.Proofs.Reconstruction.References
import DebugRecovery.Proofs.Source.Outline

/-!
# Runs on sources with other bodies

Two sources that are alike in outline differ in the bodies of records at most:
in their members, offsets and sizes. Runs on them that succeed enter the same
prototypes, functions and globals, and structs of the same names in the same
order. A struct whose own body is the same has the same layout in both, whatever
has become of the records that its members lead to.
-/

set_option autoImplicit false

namespace DebugRecovery.Reconstruction

open Source

variable {left right : SourceFile}

theorem of_kind_alike (alike : left.outline = right.outline) (kind : DeclarationKind) :
    (left.ofKind kind).map Declaration.outline = (right.ofKind kind).map Declaration.outline := by
  rw [← of_kind_outline, ← of_kind_outline, alike]

/-- What does not tell a declaration from its outline does not tell sources that are alike apart. -/
theorem each_alike {Value Defect : Type} {action : Declaration → Except Defect Value}
    (outlined : ∀ declaration, action declaration.outline = action declaration)
    {leftItems rightItems : List Declaration}
    (alike : leftItems.map Declaration.outline = rightItems.map Declaration.outline) :
    leftItems.mapM action = rightItems.mapM action := by
  have kept : action ∘ Declaration.outline = action := funext outlined
  have forward : ∀ items : List Declaration,
      (items.map Declaration.outline).mapM action = items.mapM action := by
    intro items
    rw [List.mapM_map, kept]
  rw [← forward leftItems, alike, forward rightItems]

/-- The debug type of a variable under its name, if it has a name and a type. -/
def typedVariables (items : List Declaration) : Except TypeDefect (List (String × DebugType)) :=
  (items.filterMap typedName?).mapM typedGlobal

theorem typed_name_outline (declaration : Declaration) :
    typedName? declaration.outline =
      (typedName? declaration).map fun named => (named.1, named.2.outline) := by
  unfold typedName?
  rw [outline_display_name, outline_declared_type]
  cases named? declaration.displayName with
  | none => rfl
  | some name =>
      cases declaration.type with
      | none => rfl
      | some source => rfl

theorem typed_variables_outline (items : List Declaration) :
    typedVariables (items.map Declaration.outline) = typedVariables items := by
  have names : (items.map Declaration.outline).filterMap typedName? =
      (items.filterMap typedName?).map fun named => (named.1, named.2.outline) := by
    rw [List.filterMap_map, List.map_filterMap]
    apply congrArg (fun choose => items.filterMap choose)
    funext declaration
    exact typed_name_outline declaration
  have types : (typedGlobal ∘ fun named : String × CType => (named.1, named.2.outline)) =
      typedGlobal := by
    funext named
    simp only [Function.comp_apply, typedGlobal, Meaning.type_outline]
  rw [typedVariables, names, List.mapM_map, types, typedVariables]

theorem struct_names_alike {leftItems rightItems : List Declaration}
    {leftLayouts rightLayouts : List StructLayout}
    (alike : leftItems.map Declaration.outline = rightItems.map Declaration.outline)
    (leftBuilt : Built leftItems leftLayouts) (rightBuilt : Built rightItems rightLayouts) :
    leftLayouts.map StructLayout.name = rightLayouts.map StructLayout.name := by
  induction leftBuilt generalizing rightItems rightLayouts with
  | nil =>
      rw [List.map_nil, eq_comm, List.map_eq_nil_iff] at alike
      rw [alike] at rightBuilt
      cases rightBuilt
      rfl
  | cons leftHere _ induction =>
      cases rightBuilt with
      | nil => cases alike
      | cons rightHere rightRest =>
          obtain ⟨first, rest⟩ := List.cons.inj alike
          rw [List.map_cons, List.map_cons, layout_name_of_outline first leftHere rightHere,
            induction rest rightRest]

/-- The declaration of a number has its layout under that number. -/
theorem built_at {items : List Declaration} {layouts : List StructLayout}
    (built : Built items layouts) {index : Nat} {declaration : Declaration}
    (found : items[index]? = some declaration) :
    ∃ layout, layouts[index]? = some layout ∧
      StructLayout.ofDeclaration declaration = .ok layout := by
  induction built generalizing index with
  | nil => simp at found
  | cons here _ induction =>
      cases index with
      | zero =>
          rw [← Option.some.inj found]
          exact ⟨_, rfl, here⟩
      | succ index => exact induction found

theorem outline_at {leftItems rightItems : List Declaration}
    (alike : leftItems.map Declaration.outline = rightItems.map Declaration.outline) {index : Nat}
    {leftDeclaration rightDeclaration : Declaration}
    (leftFound : leftItems[index]? = some leftDeclaration)
    (rightFound : rightItems[index]? = some rightDeclaration) :
    leftDeclaration.outline = rightDeclaration.outline := by
  have same := congrArg (fun items => items[index]?) alike
  simp only [List.getElem?_map, leftFound, rightFound, Option.map_some, Option.some.injEq] at same
  exact same

variable {territory : Territory} {table : QueryTable} {document : Document}
  {leftStart leftEnd rightStart rightEnd : Reconstruction} {leftReport rightReport : Report}

/-- Bodies of records stay in the records' own layouts: of two runs on sources that are alike in
outline, nothing else differs in the documents. -/
theorem bodies_stay_in_layouts (alike : left.outline = right.outline) {is64 : Bool}
    {imageBase : Int} (leftFresh : leftStart.document = Document.empty is64 imageBase)
    (rightFresh : rightStart.document = Document.empty is64 imageBase)
    (leftRun : run ⟨territory, left⟩ table leftStart = .ok leftReport leftEnd)
    (rightRun : run ⟨territory, right⟩ table rightStart = .ok rightReport rightEnd) :
    leftEnd.document.prototypes = rightEnd.document.prototypes ∧
      leftEnd.document.functions = rightEnd.document.functions ∧
      leftEnd.document.globals = rightEnd.document.globals ∧
      leftEnd.document.structs.map StructLayout.name =
        rightEnd.document.structs.map StructLayout.name ∧
      ∀ (index : Nat) (leftStruct rightStruct : Declaration),
        (left.ofKind .struct)[index]? = some leftStruct →
        (right.ofKind .struct)[index]? = some rightStruct → leftStruct.SameBody rightStruct →
        ∃ layout, leftEnd.document.structs[index]? = some layout ∧
          rightEnd.document.structs[index]? = some layout := by
  obtain ⟨leftRegistered, leftTyped, leftDone⟩ := run_completed leftRun
  obtain ⟨rightRegistered, rightTyped, rightDone⟩ := run_completed rightRun
  have registered : leftRegistered = rightRegistered := by
    have declared := leftDone.declared
    rw [each_alike prototype_outline (of_kind_alike alike .function)] at declared
    exact Except.ok.inj (declared.symm.trans rightDone.declared)
  have typed : leftTyped = rightTyped := by
    have translated : typedVariables (left.ofKind .variable) = .ok leftTyped := leftDone.translated
    rw [← typed_variables_outline, of_kind_alike alike .variable, typed_variables_outline]
      at translated
    exact Except.ok.inj (translated.symm.trans rightDone.translated)
  have positions : leftReport.prototypes = rightReport.prototypes := by
    rw [leftDone.prototypes, rightDone.prototypes, leftFresh, rightFresh, registered]
  have functions : leftReport.functions = rightReport.functions := by
    rw [leftDone.functions, rightDone.functions, positions]
  have globals : leftReport.globals = rightReport.globals := by
    rw [leftDone.globals, rightDone.globals, typed]
  have leftStructs : leftEnd.document.structs = leftReport.structs := by
    rw [leftDone.document, leftFresh]
    rfl
  have rightStructs : rightEnd.document.structs = rightReport.structs := by
    rw [rightDone.document, rightFresh]
    rfl
  refine ⟨?_, ?_, ?_, ?_, ?_⟩
  · rw [leftDone.document, rightDone.document, leftFresh, rightFresh, registered]
  · rw [leftDone.document, rightDone.document, leftFresh, rightFresh, functions]
  · rw [leftDone.document, rightDone.document, leftFresh, rightFresh, globals]
  · rw [leftStructs, rightStructs]
    exact struct_names_alike (of_kind_alike alike .struct) leftDone.structs rightDone.structs
  · intro index leftStruct rightStruct leftFound rightFound body
    obtain ⟨leftLayout, leftEntered, leftBuilt⟩ := built_at leftDone.structs leftFound
    obtain ⟨rightLayout, rightEntered, rightBuilt⟩ := built_at rightDone.structs rightFound
    have outline := outline_at (of_kind_alike alike .struct) leftFound rightFound
    have same := layout_of_same_body outline body leftBuilt rightBuilt
    refine ⟨leftLayout, ?_, ?_⟩
    · rw [leftStructs, leftEntered]
    · rw [rightStructs, rightEntered, same]

/-- What a run shows at its end, if it succeeds. -/
def shown? {Shown : Type} (view : Reconstruction → Shown) (material : Material)
    (table : QueryTable) (state : Reconstruction) : Option Shown :=
  match run material table state with
  | .ok _ later => some (view later)
  | .error _ _ => none

theorem run_of_shown {Shown : Type} {view : Reconstruction → Shown} {material : Material}
    {state : Reconstruction} {shown : Shown} (seen : shown? view material table state = some shown) :
    ∃ report later, run material table state = .ok report later ∧ view later = shown := by
  unfold shown? at seen
  split at seen
  · rename_i report later finished
    exact ⟨report, later, finished, Option.some.inj seen⟩
  · contradiction

def pointRecord (members : List String) : CType :=
  { recordNamed "Point" with
    size := some (4 * members.length)
    fields := some (members.map fun name => declaredAs .variable name (plainType .int none))
    offsets := members.zipIdx.map fun numbered => (numbered.1, 32 * numbered.2) }

/-- A box leads to a point with the members by a pointer, a function takes one, and a variable is one. -/
def pointSource (members : List String) : SourceFile :=
  let point := pointRecord members
  { declarations :=
      [declaredAs .struct "Point" point,
        structWith "Box" "corner" (pointerTo point),
        declaredAs .function "f"
          { plainType .functionProto (some (pointerTo point)) with arguments := some [point] },
        declaredAs .variable "v" point]
    diagnostics := [] }

theorem point_sources_alike :
    (pointSource ["x", "y"]).outline = (pointSource ["x", "y", "z"]).outline := rfl

theorem box_bodies_same :
    (structWith "Box" "corner" (pointerTo (pointRecord ["x", "y"]))).SameBody
      (structWith "Box" "corner" (pointerTo (pointRecord ["x", "y", "z"]))) := by
  intro leftType rightType leftTyped rightTyped
  rw [← Option.some.inj leftTyped, ← Option.some.inj rightTyped]
  exact ⟨rfl, rfl, rfl⟩

theorem point_body_stays_in_layout :
    ∃ leftReport leftEnd rightReport rightEnd,
      run ⟨repeatingMaterial.territory, pointSource ["x", "y"]⟩ repeatingTable emptyStart =
        .ok leftReport leftEnd ∧
      run ⟨repeatingMaterial.territory, pointSource ["x", "y", "z"]⟩ repeatingTable emptyStart =
        .ok rightReport rightEnd ∧
      leftEnd.document.structs.map StructLayout.size = [8, 8] ∧
      rightEnd.document.structs.map StructLayout.size = [12, 8] ∧
      leftEnd.document.prototypes = rightEnd.document.prototypes ∧
      leftEnd.document.globals = rightEnd.document.globals ∧
      leftEnd.document.structs[1]? = rightEnd.document.structs[1]? := by
  have leftSeen : shown? (fun later => later.document.structs.map StructLayout.size)
      ⟨repeatingMaterial.territory, pointSource ["x", "y"]⟩ repeatingTable emptyStart =
        some [8, 8] := by decide +kernel
  have rightSeen : shown? (fun later => later.document.structs.map StructLayout.size)
      ⟨repeatingMaterial.territory, pointSource ["x", "y", "z"]⟩ repeatingTable emptyStart =
        some [12, 8] := by decide +kernel
  obtain ⟨leftReport, leftEnd, leftRun, leftSizes⟩ := run_of_shown leftSeen
  obtain ⟨rightReport, rightEnd, rightRun, rightSizes⟩ := run_of_shown rightSeen
  have fresh : emptyStart.document = Document.empty true 0 := rfl
  have stays := bodies_stay_in_layouts point_sources_alike fresh fresh leftRun rightRun
  obtain ⟨layout, leftBox, rightBox⟩ := stays.2.2.2.2 1 _ _ rfl rfl box_bodies_same
  refine ⟨leftReport, leftEnd, rightReport, rightEnd, leftRun, rightRun, leftSizes, rightSizes,
    stays.1, stays.2.2.1, ?_⟩
  rw [leftBox, rightBox]

end DebugRecovery.Reconstruction
