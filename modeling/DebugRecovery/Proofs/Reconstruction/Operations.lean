import DebugRecovery.Reconstruction

/-!
# Operations of a run

An operation is entered before its action and left after it, whether the action
succeeds or fails. So a run, however it ends, leaves those operations going on
that went on before it.
-/

set_option autoImplicit false

namespace DebugRecovery.Reconstruction

open Source

variable {Value Other Item : Type}

/-- The operations that go on after a step, however it ends. -/
def operationsAfter : EStateM.Result Abort Reconstruction Value → List Operation
  | .ok _ later => later.progress.operations
  | .error _ later => later.progress.operations

/-- After the action those operations go on that went on before it. -/
def Balanced (action : Step Value) : Prop :=
  ∀ state, operationsAfter (action state) = state.progress.operations

theorem pure_balanced (given : Value) : Balanced (pure given : Step Value) := fun _ => rfl

theorem throw_balanced (cause : Abort) : Balanced (throw cause : Step Value) := fun _ => rfl

theorem note_balanced (entries : Journal) : Balanced (note entries) := fun _ => rfl

theorem count_balanced {change : Progress → Progress}
    (kept : ∀ progress, (change progress).operations = progress.operations) :
    Balanced (count change) := fun state => kept state.progress

theorem enter_balanced (insert : Document → Except Failure Document) :
    Balanced (enter insert) := by
  intro state
  unfold enter
  cases insert state.document with
  | error cause => rfl
  | ok document => rfl

theorem bind_balanced {action : Step Other} {next : Other → Step Value}
    (first : Balanced action) (rest : ∀ middle, Balanced (next middle)) :
    Balanced (action >>= next) := by
  intro state
  have before := first state
  change operationsAfter (EStateM.bind action next state) = state.progress.operations
  unfold EStateM.bind
  cases ran : action state with
  | ok middle between =>
      rw [ran] at before
      exact (rest middle between).trans before
  | error cause between =>
      rw [ran] at before
      exact before

theorem each_balanced {action : Item → Step Value} (step : ∀ item, Balanced (action item))
    (items : List Item) : Balanced (items.mapM action) := by
  induction items with
  | nil =>
      rw [List.mapM_nil]
      exact pure_balanced []
  | cons item items induction =>
      rw [List.mapM_cons]
      refine bind_balanced (step item) fun first => ?_
      exact bind_balanced induction fun rest => pure_balanced (first :: rest)

/-- An operation is left however its action ends. -/
theorem track_balanced (name : String) {action : Step Value} (balanced : Balanced action) :
    Balanced (track name action) := by
  intro state
  have inside := balanced (noted (Progress.enteredEntry name)
    { state with progress := state.progress.enter name state.now })
  unfold track
  dsimp only
  cases ran : action (noted (Progress.enteredEntry name)
      { state with progress := state.progress.enter name state.now }) with
  | ok value ended =>
      rw [ran] at inside
      simp only [operationsAfter] at inside
      simp [operationsAfter, Progress.leave, inside, noted, Progress.enter]
  | error cause ended =>
      rw [ran] at inside
      simp only [operationsAfter] at inside
      simp [operationsAfter, Progress.leave, inside, noted, Progress.enter]

theorem around_balanced (activity : Activity) {action : Step Value} (balanced : Balanced action) :
    Balanced (activity.around noted (fun state => .ok state.now) Abort.message action) := by
  intro state
  have inside := balanced (noted activity.startedEntry state)
  unfold Activity.around
  dsimp only
  cases ran : action (noted activity.startedEntry state) with
  | ok value ended =>
      rw [ran] at inside
      exact inside
  | error cause ended =>
      rw [ran] at inside
      exact inside

theorem review_diagnostics_balanced (source : SourceFile) : Balanced (reviewDiagnostics source) := by
  refine bind_balanced (note_balanced _) fun _ => ?_
  cases source.diagnostics.filter isError with
  | nil => exact pure_balanced ()
  | cons first others => exact bind_balanced (note_balanced _) fun _ => throw_balanced _

theorem enter_struct_balanced (declaration : Declaration) : Balanced (enterStruct declaration) := by
  refine bind_balanced (note_balanced _) fun _ => ?_
  cases StructLayout.ofDeclaration declaration with
  | error defect => exact throw_balanced defect.abort
  | ok layout => exact bind_balanced (enter_balanced _) fun _ => pure_balanced layout

theorem enter_structs_balanced (source : SourceFile) : Balanced (enterStructs source) := by
  refine bind_balanced (each_balanced enter_struct_balanced _) fun layouts => ?_
  refine bind_balanced (count_balanced fun _ => rfl) fun _ => ?_
  exact bind_balanced (note_balanced _) fun _ => pure_balanced layouts

theorem enter_prototypes_balanced (source : SourceFile) : Balanced (enterPrototypes source) := by
  unfold enterPrototypes
  cases (source.ofKind .function).mapM Prototype.ofDeclaration with
  | error defect => exact bind_balanced (note_balanced _) fun _ => throw_balanced _
  | ok functions =>
      refine bind_balanced (each_balanced (fun function state => rfl) functions) fun positions => ?_
      refine bind_balanced (count_balanced fun _ => rfl) fun _ => ?_
      exact bind_balanced (note_balanced _) fun _ => pure_balanced _

theorem type_globals_balanced (source : SourceFile) : Balanced (typeGlobals source) := by
  unfold typeGlobals
  cases ((source.ofKind .variable).filterMap typedName?).mapM typedGlobal with
  | error defect => exact bind_balanced (note_balanced _) fun _ => throw_balanced _
  | ok pairs => exact bind_balanced (note_balanced _) fun _ => pure_balanced _

theorem locate_balanced (territory : Territory) (queries : List SymbolQuery) :
    Balanced (locate territory queries) := by
  refine bind_balanced (note_balanced _) fun _ => ?_
  exact bind_balanced (count_balanced fun _ => rfl) fun _ => pure_balanced _

theorem place_functions_balanced (territory : Territory) (queries : List SymbolQuery)
    (prototypes : List (String × Nat)) :
    Balanced (placeFunctions territory queries prototypes) := by
  refine bind_balanced (locate_balanced territory queries) fun result => ?_
  refine bind_balanced (each_balanced (fun symbol => ?_) _) fun functions => pure_balanced _
  exact bind_balanced (enter_balanced _) fun _ => pure_balanced _

theorem place_globals_balanced (material : Material) (queries : List SymbolQuery) :
    Balanced (placeGlobals material queries) := by
  refine bind_balanced (type_globals_balanced material.source) fun types => ?_
  refine bind_balanced (locate_balanced material.territory queries) fun result => ?_
  refine bind_balanced (each_balanced (fun symbol => ?_) _) fun globals => pure_balanced _
  exact bind_balanced (enter_balanced _) fun _ => pure_balanced _

theorem run_balanced (material : Material) (table : QueryTable) : Balanced (run material table) := by
  refine around_balanced activity ?_
  refine bind_balanced (track_balanced _ (review_diagnostics_balanced _)) fun _ => ?_
  refine bind_balanced (track_balanced _ (enter_structs_balanced _)) fun structs => ?_
  refine bind_balanced (track_balanced _ (enter_prototypes_balanced _)) fun prototypes => ?_
  refine bind_balanced (note_balanced _) fun _ => ?_
  refine bind_balanced (track_balanced _ (place_functions_balanced _ _ _)) fun functions => ?_
  refine bind_balanced (track_balanced _ (place_globals_balanced _ _)) fun globals => ?_
  refine bind_balanced (note_balanced _) fun _ => ?_
  exact bind_balanced (fun state => rfl) fun _ => pure_balanced _

end DebugRecovery.Reconstruction
