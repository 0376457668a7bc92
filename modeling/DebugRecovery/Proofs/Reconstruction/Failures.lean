import DebugRecovery.Proofs.Reconstruction.Operations
import DebugRecovery.Proofs.Reconstruction.Records

/-!
# Reconstructions that fail

A run fails in one of four phases: on the diagnostics of the source, on a
struct, on a function without a prototype, or on a variable without a type. The
document then has what the run entered before. Structs are entered one by one,
so that those before the failing one are kept; prototypes and globals are only
entered when all of their phase are known. No symbol makes a run fail.
-/

set_option autoImplicit false

namespace DebugRecovery.Reconstruction

open Source

variable {Value Other Item : Type} {state later : Reconstruction} {value : Value} {abort : Abort}

theorem bind_error {action : Step Other} {next : Other → Step Value}
    (failed : (action >>= next) state = .error abort later) :
    action state = .error abort later ∨
      ∃ middle between, action state = .ok middle between ∧
        next middle between = .error abort later := by
  change EStateM.bind action next state = .error abort later at failed
  unfold EStateM.bind at failed
  cases ran : action state with
  | ok middle between =>
      rw [ran] at failed
      exact Or.inr ⟨middle, between, rfl, failed⟩
  | error cause between =>
      rw [ran] at failed
      cases failed
      exact Or.inl rfl

theorem pure_not_error {given : Value} :
    (pure given : Step Value) state ≠ .error abort later := by
  intro failed
  cases failed

theorem throw_error {given : Abort}
    (failed : (throw given : Step Value) state = .error abort later) :
    abort = given ∧ later = state := by
  cases failed
  exact ⟨rfl, rfl⟩

theorem enter_error {insert : Document → Except Failure Document}
    (failed : enter insert state = .error abort later) :
    ∃ cause, insert state.document = .error cause ∧ abort = .failure cause ∧ later = state := by
  unfold enter at failed
  split at failed
  · rename_i cause refused
    cases failed
    exact ⟨cause, refused, rfl, rfl⟩
  · contradiction

theorem track_error {name : String} {action : Step Value}
    (failed : track name action state = .error abort later) :
    ∃ started ended, action started = .error abort ended ∧
      started.document = state.document ∧ later.document = ended.document := by
  unfold track at failed
  dsimp only at failed
  split at failed
  · contradiction
  · rename_i cause ended ran
    cases failed
    exact ⟨_, ended, ran, rfl, rfl⟩

theorem around_error {activity : Activity} {action : Step Value}
    (failed : activity.around noted (fun state => .ok state.now) Abort.message action state =
      .error abort later) :
    ∃ started ended, action started = .error abort ended ∧
      started.document = state.document ∧ later.document = ended.document := by
  unfold Activity.around at failed
  dsimp only at failed
  split at failed
  · contradiction
  · rename_i cause ended ran
    cases failed
    exact ⟨_, ended, ran, rfl, rfl⟩

/-- What fails after a note has failed on the same document. -/
theorem note_bind_error {entries : Journal} {next : Unit → Step Value}
    (failed : (note entries >>= next) state = .error abort later) :
    ∃ noted : Reconstruction, noted.document = state.document ∧
      next () noted = .error abort later := by
  rcases bind_error failed with noting | ⟨_, noted, note, failed⟩
  · cases noting
  · exact ⟨noted, (note_ok note).1, failed⟩

theorem count_bind_error {change : Progress → Progress} {next : Unit → Step Value}
    (failed : (count change >>= next) state = .error abort later) :
    ∃ counted : Reconstruction, counted.document = state.document ∧
      next () counted = .error abort later := by
  rcases bind_error failed with counting | ⟨_, counted, count, failed⟩
  · cases counting
  · exact ⟨counted, (count_ok count).1, failed⟩

/-- What fails from an operation on has failed in the operation or after it. -/
theorem track_bind_error {name : String} {action : Step Other} {next : Other → Step Value}
    (failed : (track name action >>= next) state = .error abort later) :
    (∃ started ended, action started = .error abort ended ∧
        started.document = state.document ∧ later.document = ended.document) ∨
      ∃ middle between, track name action state = .ok middle between ∧
        next middle between = .error abort later := by
  rcases bind_error failed with inside | after
  · exact Or.inl (track_error inside)
  · exact Or.inr after

/-- A loop fails on one of its items, after those before it. -/
theorem each_error {action : Item → Step Value} {items : List Item}
    (failed : items.mapM action state = .error abort later) :
    ∃ front item back values between, items = front ++ item :: back ∧
      front.mapM action state = .ok values between ∧
      action item between = .error abort later := by
  induction items generalizing state with
  | nil =>
      rw [List.mapM_nil] at failed
      exact absurd failed pure_not_error
  | cons item items induction =>
      rw [List.mapM_cons] at failed
      rcases bind_error failed with here | ⟨first, after, entered, failed⟩
      · exact ⟨[], item, items, [], state, rfl, by rw [List.mapM_nil]; rfl, here⟩
      · rcases bind_error failed with further | ⟨_, _, _, failed⟩
        · obtain ⟨front, failing, back, values, between, rfl, loop, here⟩ := induction further
          refine ⟨item :: front, failing, back, first :: values, between, rfl, ?_, here⟩
          rw [List.mapM_cons]
          simp only [bind, EStateM.bind, entered, loop, pure, EStateM.pure]
        · exact absurd failed pure_not_error

/-- A loop does not fail when none of its actions does that follow a document as required. -/
theorem each_total {action : Item → Step Value} (required : Document → Prop) {items : List Item}
    (step : ∀ item ∈ items, ∀ before : Reconstruction, required before.document →
      ∃ given after, action item before = .ok given after ∧ required after.document)
    (start : required state.document) : ∃ values after, items.mapM action state = .ok values after := by
  induction items generalizing state with
  | nil => exact ⟨[], state, by rw [List.mapM_nil]; rfl⟩
  | cons item items induction =>
      obtain ⟨first, between, entered, kept⟩ := step item List.mem_cons_self state start
      have further : ∀ other ∈ items, ∀ before : Reconstruction, required before.document →
          ∃ given after, action other before = .ok given after ∧ required after.document := by
        intro other member
        exact step other (List.mem_cons_of_mem _ member)
      obtain ⟨values, after, loop⟩ := induction further kept
      refine ⟨first :: values, after, ?_⟩
      rw [List.mapM_cons]
      simp only [bind, EStateM.bind, entered, loop, pure, EStateM.pure]

/-- What ends a run on a source with errors. -/
def sourceAbort (first : Diagnostic) (others : List Diagnostic) : Abort :=
  .failure (.source s!"{others.length + 1} error(s) in source, first: {first.message}")

theorem review_diagnostics_error {source : SourceFile}
    (failed : reviewDiagnostics source state = .error abort later) :
    ∃ first others, source.diagnostics.filter isError = first :: others ∧
      abort = sourceAbort first others ∧ later.document = state.document := by
  unfold reviewDiagnostics at failed
  obtain ⟨noted, document, failed⟩ := note_bind_error failed
  cases errors : source.diagnostics.filter isError with
  | nil =>
      rw [errors] at failed
      exact absurd failed pure_not_error
  | cons first others =>
      rw [errors] at failed
      obtain ⟨repaired, unchanged, failed⟩ := note_bind_error failed
      obtain ⟨rfl, rfl⟩ := throw_error failed
      exact ⟨first, others, rfl, rfl, unchanged.trans document⟩

/-- A declaration gets no struct in the document: it has no layout, or its name is taken. -/
inductive StructRefused (document : Document) (declaration : Declaration) : Abort → Prop where
  | defect (defect : StructDefect)
      (unbuilt : StructLayout.ofDeclaration declaration = .error defect) :
      StructRefused document declaration defect.abort
  | taken (layout : StructLayout) (built : StructLayout.ofDeclaration declaration = .ok layout)
      (taken : layout.name ∈ document.structNames) :
      StructRefused document declaration
        (.failure (.output s!"Duplicate struct {Text.quoted layout.name}"))

theorem enter_struct_error {declaration : Declaration}
    (failed : enterStruct declaration state = .error abort later) :
    StructRefused state.document declaration abort ∧ later.document = state.document := by
  unfold enterStruct at failed
  obtain ⟨noted, document, failed⟩ := note_bind_error failed
  cases built : StructLayout.ofDeclaration declaration with
  | error defect =>
      rw [built] at failed
      obtain ⟨rfl, rfl⟩ := throw_error failed
      exact ⟨.defect defect built, document⟩
  | ok layout =>
      rw [built] at failed
      rcases bind_error failed with entering | ⟨_, _, _, failed⟩
      · obtain ⟨cause, refused, rfl, rfl⟩ := enter_error entering
        refine ⟨?_, document⟩
        rw [document] at refused
        unfold Document.addStruct at refused
        by_cases taken : layout.name ∈ state.document.structNames
        · rw [if_pos taken] at refused
          cases refused
          exact .taken layout built taken
        · rw [if_neg taken] at refused
          contradiction
      · exact absurd failed pure_not_error

theorem enter_structs_error {source : SourceFile}
    (failed : enterStructs source state = .error abort later) :
    ∃ front declaration back layouts, source.ofKind .struct = front ++ declaration :: back ∧
      Built front layouts ∧
      state.document.Admits layouts ∧
      StructRefused (state.document.extended layouts [] [] []) declaration abort ∧
      later.document = state.document.extended layouts [] [] [] := by
  unfold enterStructs at failed
  rcases bind_error failed with loop | ⟨_, _, _, failed⟩
  · obtain ⟨front, declaration, back, layouts, between, same, before, here⟩ := each_error loop
    obtain ⟨built, admitted, document, _⟩ := each_struct_ok before
    obtain ⟨refused, unchanged⟩ := enter_struct_error here
    rw [document] at refused unchanged
    exact ⟨front, declaration, back, layouts, same, built, admitted, refused, unchanged⟩
  · obtain ⟨_, _, failed⟩ := count_bind_error failed
    obtain ⟨_, _, failed⟩ := note_bind_error failed
    exact absurd failed pure_not_error

theorem enter_prototypes_error {source : SourceFile}
    (failed : enterPrototypes source state = .error abort later) :
    ∃ defect, (source.ofKind .function).mapM Prototype.ofDeclaration = .error defect ∧
      abort = defect.abort ∧ later.document = state.document := by
  unfold enterPrototypes at failed
  cases translated : (source.ofKind .function).mapM Prototype.ofDeclaration with
  | error defect =>
      rw [translated] at failed
      obtain ⟨noted, document, failed⟩ := note_bind_error failed
      obtain ⟨rfl, rfl⟩ := throw_error failed
      exact ⟨defect, rfl, rfl, document⟩
  | ok registered =>
      rw [translated] at failed
      rcases bind_error failed with loop | ⟨_, _, _, failed⟩
      · rw [each_prototype] at loop
        contradiction
      obtain ⟨_, _, failed⟩ := count_bind_error failed
      obtain ⟨_, _, failed⟩ := note_bind_error failed
      exact absurd failed pure_not_error

theorem type_globals_error {source : SourceFile}
    (failed : typeGlobals source state = .error abort later) :
    ∃ defect, ((source.ofKind .variable).filterMap typedName?).mapM typedGlobal = .error defect ∧
      abort = defect.abort ∧ later.document = state.document := by
  unfold typeGlobals at failed
  cases translated : ((source.ofKind .variable).filterMap typedName?).mapM typedGlobal with
  | error defect =>
      rw [translated] at failed
      obtain ⟨noted, document, failed⟩ := note_bind_error failed
      obtain ⟨rfl, rfl⟩ := throw_error failed
      exact ⟨defect, rfl, rfl, document⟩
  | ok pairs =>
      rw [translated] at failed
      obtain ⟨_, _, failed⟩ := note_bind_error failed
      exact absurd failed pure_not_error

/-- A function is placed when its prototype is in the document. -/
theorem place_function_total {prototypes : List (String × Nat)} {symbol : Symbol Empty}
    (issued : ∀ position, prototypes.lookup symbol.name = some position →
      position < state.document.prototypes.length) :
    ∃ placed after, placeFunction prototypes symbol state = .ok placed after ∧
      after.document.prototypes = state.document.prototypes := by
  let placed : Symbol Nat := symbol.withType (prototypes.lookup symbol.name)
  let given : Symbol Int := placed.withType (placed.typeRef.map Int.ofNat)
  let entered := state.document.extended [] [] [given.withType placed.typeRef] []
  have inserted : state.document.addFunction given = .ok entered :=
    Document.add_function_ok_iff.mpr ⟨placed.typeRef, rfl, issued, rfl⟩
  refine ⟨placed, { state with document := entered }, ?_, ?_⟩
  · unfold placeFunction
    simp only [bind, EStateM.bind, enter]
    rw [inserted]
    rfl
  · simp [entered, Document.extended]

theorem place_functions_not_error {territory : Territory} {queries : List SymbolQuery}
    {prototypes : List (String × Nat)}
    (issued : ∀ name position, prototypes.lookup name = some position →
      position < state.document.prototypes.length) :
    placeFunctions territory queries prototypes state ≠ .error abort later := by
  intro failed
  unfold placeFunctions at failed
  rcases bind_error failed with search | ⟨result, located, search, failed⟩
  · rw [locate_eq] at search
    contradiction
  have document : located.document = state.document := by
    rw [locate_eq] at search
    cases search
    rfl
  rcases bind_error failed with loop | ⟨_, _, _, failed⟩
  · have total : ∃ values after,
        result.symbols.mapM (placeFunction prototypes) located = .ok values after := by
      apply each_total fun document => document.prototypes = state.document.prototypes
      · intro symbol _ before same
        have known : ∀ position, prototypes.lookup symbol.name = some position →
            position < before.document.prototypes.length := by
          rw [same]
          exact issued symbol.name
        obtain ⟨placed, after, entered, kept⟩ := place_function_total known
        exact ⟨placed, after, entered, kept.trans same⟩
      · rw [document]
    obtain ⟨values, after, placed⟩ := total
    rw [placed] at loop
    contradiction
  · exact absurd failed pure_not_error

theorem place_globals_error {material : Material} {queries : List SymbolQuery}
    (failed : placeGlobals material queries state = .error abort later) :
    ∃ defect, ((material.source.ofKind .variable).filterMap typedName?).mapM typedGlobal =
        .error defect ∧
      abort = defect.abort ∧ later.document = state.document := by
  unfold placeGlobals at failed
  rcases bind_error failed with typing | ⟨types, typed, _, failed⟩
  · exact type_globals_error typing
  rcases bind_error failed with search | ⟨result, located, search, failed⟩
  · rw [locate_eq] at search
    contradiction
  rcases bind_error failed with loop | ⟨_, _, _, failed⟩
  · have total : ∃ values after,
        result.symbols.mapM (placeGlobal types) located = .ok values after := by
      apply each_total fun _ => True
      · intro symbol _ before _
        exact ⟨_, _, rfl, trivial⟩
      · trivial
    obtain ⟨values, after, placed⟩ := total
    rw [placed] at loop
    contradiction
  · exact absurd failed pure_not_error

/-- The phases in which a run can fail. -/
inductive Phase where
  | diagnostics
  | structs
  | prototypes
  | globals
  deriving DecidableEq, Repr

/-- The place of a phase in their order. -/
def Phase.rank : Phase → Nat
  | .diagnostics => 0
  | .structs => 1
  | .prototypes => 2
  | .globals => 3

theorem Phase.rank_inj {phase other : Phase} (same : phase.rank = other.rank) : phase = other := by
  cases phase <;> cases other <;> first | rfl | contradiction

/-- The layouts are those of the structs of a source without errors, and the document takes all. -/
structure LaidOut (material : Material) (document : Document) (layouts : List StructLayout) :
    Prop where
  clean : material.source.diagnostics.filter isError = []
  built : Built (material.source.ofKind .struct) layouts
  admitted : document.Admits layouts

/-- How a run on the document can stop: the phase, what ends the run, and the document that is
left. -/
inductive Stopped (material : Material) (table : QueryTable) (document : Document) :
    Phase → Abort → Document → Prop where
  | diagnostics (first : Diagnostic) (others : List Diagnostic)
      (errors : material.source.diagnostics.filter isError = first :: others) :
      Stopped material table document .diagnostics (sourceAbort first others) document
  | struct (front : List Declaration) (declaration : Declaration) (back : List Declaration)
      (layouts : List StructLayout) (abort : Abort)
      (clean : material.source.diagnostics.filter isError = [])
      (declarations : material.source.ofKind .struct = front ++ declaration :: back)
      (built : Built front layouts)
      (admitted : document.Admits layouts)
      (refused : StructRefused (document.extended layouts [] [] []) declaration abort) :
      Stopped material table document .structs abort (document.extended layouts [] [] [])
  | prototype (layouts : List StructLayout) (defect : FunctionDefect)
      (laidOut : LaidOut material document layouts)
      (failed : FailsFirst Prototype.ofDeclaration (material.source.ofKind .function) defect) :
      Stopped material table document .prototypes defect.abort
        (document.extended layouts [] [] [])
  | global (layouts : List StructLayout) (registered : List Prototype)
      (functions : List (Symbol Nat)) (defect : TypeDefect)
      (laidOut : LaidOut material document layouts)
      (declared :
        (material.source.ofKind .function).mapM Prototype.ofDeclaration = .ok registered)
      (placed :
        List.Forall₂ (FunctionRecord material document.prototypes.length registered)
          (table.functions.filter fun query => (material.territory.symbol? query).isSome)
          functions)
      (failed : FailsFirst typedGlobal
        ((material.source.ofKind .variable).filterMap typedName?) defect) :
      Stopped material table document .globals defect.abort
        (document.extended layouts registered functions [])

section Stopped

variable {material : Material} {table : QueryTable} {document left : Document} {phase : Phase}

theorem stopped_grows (stopped : Stopped material table document phase abort left) :
    document.Grows left := by
  cases stopped with
  | diagnostics first others errors => exact document.grows_refl
  | struct front declaration back layouts _ clean declarations built admitted refused =>
      exact document.grows_extended layouts [] [] []
  | prototype layouts defect laidOut failed => exact document.grows_extended layouts [] [] []
  | global layouts registered functions defect laidOut declared placed failed =>
      exact document.grows_extended layouts registered functions []

/-- A run does not stop in the phase. -/
def Passes (material : Material) (document : Document) : Phase → Prop
  | .diagnostics => material.source.diagnostics.filter isError = []
  | .structs => ∃ layouts, Built (material.source.ofKind .struct) layouts ∧ document.Admits layouts
  | .prototypes => ∃ registered,
      (material.source.ofKind .function).mapM Prototype.ofDeclaration = .ok registered
  | .globals => ∃ typed,
      ((material.source.ofKind .variable).filterMap typedName?).mapM typedGlobal = .ok typed

/-- The structs up to one that is refused are not part of structs that are all entered. -/
theorem refused_not_admitted {front back : List Declaration} {declaration : Declaration}
    {layouts entered : List StructLayout}
    (refused : StructRefused (document.extended layouts [] [] []) declaration abort)
    (built : Built front layouts)
    (all : Built (front ++ declaration :: back) entered) : ¬ document.Admits entered := by
  intro admitted
  induction built generalizing document entered with
  | nil =>
      obtain ⟨layout, rest, accepted, _, rfl⟩ := List.forall₂_cons_left_iff.mp all
      have free := (Document.admits_cons_iff.mp admitted).1
      rw [Document.extended_nothing] at refused
      cases refused with
      | defect defect unbuilt =>
          rw [unbuilt] at accepted
          contradiction
      | taken other known taken =>
          obtain rfl := Except.ok.inj (known.symm.trans accepted)
          exact free taken
  | @cons earlier layout front layouts here _ induction =>
      obtain ⟨other, rest, accepted, others, rfl⟩ := List.forall₂_cons_left_iff.mp all
      obtain rfl := Except.ok.inj (here.symm.trans accepted)
      have further := (Document.admits_cons_iff.mp admitted).2
      apply induction _ others further
      rw [Document.extended_extended]
      exact refused

/-- A run stops in the first phase that it does not pass. -/
theorem stopped_first (stopped : Stopped material table document phase abort left) :
    ¬ Passes material document phase ∧
      ∀ earlier : Phase, earlier.rank < phase.rank → Passes material document earlier := by
  cases stopped with
  | diagnostics first others errors =>
      refine ⟨?_, ?_⟩
      · intro clean
        rw [Passes, errors] at clean
        contradiction
      · intro earlier before
        cases earlier <;> simp [Phase.rank] at before
  | struct front declaration back layouts _ clean declarations built admitted refused =>
      refine ⟨?_, ?_⟩
      · rintro ⟨entered, all, admitted⟩
        rw [declarations] at all
        exact refused_not_admitted refused built all admitted
      · intro earlier before
        cases earlier with
        | diagnostics => exact clean
        | _ => simp [Phase.rank] at before
  | prototype layouts defect laidOut failed =>
      refine ⟨?_, ?_⟩
      · rintro ⟨registered, declared⟩
        exact fails_first_not_ok failed registered declared
      · intro earlier before
        cases earlier with
        | diagnostics => exact laidOut.clean
        | structs => exact ⟨layouts, laidOut.built, laidOut.admitted⟩
        | _ => simp [Phase.rank] at before
  | global layouts registered functions defect laidOut declared placed failed =>
      refine ⟨?_, ?_⟩
      · rintro ⟨typed, translated⟩
        exact fails_first_not_ok failed typed translated
      · intro earlier before
        cases earlier with
        | diagnostics => exact laidOut.clean
        | structs => exact ⟨layouts, laidOut.built, laidOut.admitted⟩
        | prototypes => exact ⟨registered, declared⟩
        | globals => simp [Phase.rank] at before

theorem stopped_unique {other : Phase} {cause : Abort} {final : Document}
    (stopped : Stopped material table document phase abort left)
    (again : Stopped material table document other cause final) : phase = other := by
  obtain ⟨blocked, passed⟩ := stopped_first stopped
  obtain ⟨blockedAgain, passedAgain⟩ := stopped_first again
  apply Phase.rank_inj
  by_contra different
  by_cases before : phase.rank < other.rank
  · exact blocked (passedAgain phase before)
  · exact blockedAgain (passed other (by omega))

end Stopped

theorem named_position_lt {start : Nat} {registered : List Prototype} {name : String}
    {position : Nat}
    (known : (Association.ofPairs (namedPositions start registered)).lookup name = some position) :
    position < start + registered.length := by
  obtain ⟨index, prototype, rfl, last⟩ := named_position_some known
  have bound := (List.getElem?_eq_some_iff.mp (last_at_get last).1).1
  omega

theorem run_stopped {material : Material} {table : QueryTable}
    (failed : run material table state = .error abort later) :
    ∃ phase, Stopped material table state.document phase abort later.document := by
  obtain ⟨begun, ended, ran, begunDocument, endedDocument⟩ := around_error failed
  rw [endedDocument, ← begunDocument]
  unfold phases at ran
  -- Each phase is where the run stops, or it has extended the document and the next one is tried.
  rcases track_bind_error ran with ⟨_, _, stop, start, done⟩ | ⟨_, reviewed, review, ran⟩
  · obtain ⟨first, others, errors, rfl, document⟩ := review_diagnostics_error stop
    rw [done, document, start]
    exact ⟨.diagnostics, .diagnostics first others errors⟩
  obtain ⟨clean, reviewDocument, _⟩ := track_review_ok review
  rw [← reviewDocument]
  rcases track_bind_error ran with ⟨_, _, stop, start, done⟩ | ⟨layouts, laidOut, layout, ran⟩
  · obtain ⟨front, declaration, back, layouts, declarations, built, admitted, refused, document⟩ :=
      enter_structs_error stop
    rw [start] at admitted refused document
    rw [done, document]
    exact ⟨.structs, .struct front declaration back layouts abort clean declarations built admitted
      refused⟩
  obtain ⟨built, admitted, structDocument, _⟩ := track_structs_ok layout
  have structs : LaidOut material reviewed.document layouts := ⟨clean, built, admitted⟩
  rcases track_bind_error ran with ⟨_, _, stop, start, done⟩ |
    ⟨prototypes, declared, declaration, ran⟩
  · obtain ⟨defect, unnamed, rfl, document⟩ := enter_prototypes_error stop
    rw [done, document, start, structDocument]
    exact ⟨.prototypes, .prototype layouts defect structs (except_each_error unnamed)⟩
  obtain ⟨registered, accepted, positions, declaredDocument, _⟩ := track_prototypes_ok declaration
  obtain ⟨announced, announcement, ran⟩ := note_bind_error ran
  have announcedDocument : announced.document =
      reviewed.document.extended layouts registered [] [] := by
    rw [announcement, declaredDocument, structDocument, Document.extended_extended]
    simp
  have start : laidOut.document.prototypes.length = reviewed.document.prototypes.length := by
    rw [structDocument]
    simp [Document.extended]
  rw [start] at positions
  rcases track_bind_error ran with ⟨started, _, stop, begin, _⟩ |
    ⟨⟨functions, lost⟩, placed, placement, ran⟩
  · refine absurd stop (place_functions_not_error ?_)
    intro name position known
    rw [positions] at known
    have bound := named_position_lt known
    rw [begin, announcedDocument]
    simpa [Document.extended] using bound
  obtain ⟨values, _, placedDocument, _⟩ := track_functions_ok placement
  rw [positions] at values
  have records := declared_function_records accepted reviewed.document.prototypes.length
    table.functions
  rw [← values] at records
  rcases track_bind_error ran with ⟨_, _, stop, begin, done⟩ | ⟨_, filled, _, ran⟩
  · obtain ⟨defect, untyped, rfl, document⟩ := place_globals_error stop
    have complete : ended.document =
        reviewed.document.extended layouts registered functions [] := by
      rw [done, document, begin, placedDocument, announcedDocument, Document.extended_extended]
      simp
    rw [complete]
    exact ⟨.globals, .global layouts registered functions defect structs accepted records
      (except_each_error untyped)⟩
  obtain ⟨_, _, ran⟩ := note_bind_error ran
  rcases bind_error ran with summary | ⟨_, _, _, ran⟩
  · cases summary
  exact absurd ran pure_not_error

/-- A run fails exactly when there is a phase that it does not pass. -/
theorem run_fails_iff (material : Material) (table : QueryTable) (state : Reconstruction) :
    (∃ abort later, run material table state = .error abort later) ↔
      ∃ phase, ¬ Passes material state.document phase := by
  constructor
  · rintro ⟨abort, later, failed⟩
    obtain ⟨phase, stopped⟩ := run_stopped failed
    exact ⟨phase, (stopped_first stopped).1⟩
  · rintro ⟨phase, blocked⟩
    cases ran : run material table state with
    | error abort later => exact ⟨abort, later, rfl⟩
    | ok report later =>
        obtain ⟨registered, typed, completed⟩ := run_completed ran
        cases phase with
        | diagnostics => exact absurd completed.clean blocked
        | structs => exact absurd ⟨report.structs, completed.structs, completed.admitted⟩ blocked
        | prototypes => exact absurd ⟨registered, completed.declared⟩ blocked
        | globals => exact absurd ⟨typed, completed.translated⟩ blocked

/-- A run that fails stops in exactly one phase and keeps what it has entered by then, all records
that were there before, and no operation of its own. -/
theorem failed_run_stops_in_one_phase {material : Material} {table : QueryTable}
    (failed : run material table state = .error abort later) :
    (∃! phase, Stopped material table state.document phase abort later.document) ∧
      state.document.Grows later.document ∧
      later.progress.operations = state.progress.operations := by
  obtain ⟨phase, stopped⟩ := run_stopped failed
  have balanced := run_balanced material table state
  rw [failed] at balanced
  refine ⟨⟨phase, stopped, ?_⟩, stopped_grows stopped, balanced⟩
  intro other again
  exact stopped_unique again stopped

def emptyRecord (name : String) : Declaration :=
  declaredAs .struct name
    { plainType .record none with size := some 4, fields := some [] }

def clashingMaterial : Material :=
  { territory := repeatingMaterial.territory
    source :=
      { declarations := [emptyRecord "A", emptyRecord "S", emptyRecord "B"], diagnostics := [] } }

def clashingStart : Reconstruction :=
  .ofDocument { is64 := false, imageBase := 0, structs := [⟨"S", [], 8⟩], structNames := ["S"] }
    .origin

theorem clashing_struct_stops_run :
    ∃ abort later, run clashingMaterial repeatingTable clashingStart = .error abort later ∧
      abort = .failure (.output "Duplicate struct 'S'") ∧
      later.document.structs.map (fun layout => (layout.name, layout.size)) = [("S", 8), ("A", 4)] ∧
      (∃! phase, Stopped clashingMaterial repeatingTable clashingStart.document phase abort
        later.document) ∧
      later.progress.operations = [] := by
  have outcome : (match run clashingMaterial repeatingTable clashingStart with
      | .ok _ _ => none
      | .error abort later => some (abort,
          later.document.structs.map fun layout => (layout.name, layout.size))) =
      some (.failure (.output "Duplicate struct 'S'"), [("S", 8), ("A", 4)]) := by
    decide +kernel
  cases ran : run clashingMaterial repeatingTable clashingStart with
  | ok report later =>
      rw [ran] at outcome
      contradiction
  | error abort later =>
      rw [ran] at outcome
      obtain ⟨cause, structs⟩ := Prod.mk.inj (Option.some.inj outcome)
      have stops := failed_run_stops_in_one_phase ran
      exact ⟨abort, later, rfl, cause, structs, stops.1, stops.2.2⟩

end DebugRecovery.Reconstruction
