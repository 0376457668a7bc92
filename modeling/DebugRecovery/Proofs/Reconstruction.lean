import DebugRecovery.Proofs.Document
import DebugRecovery.Proofs.Each
import DebugRecovery.Reconstruction

/-!
# Reconstructions that succeed

A step that succeeds is opened into the steps it was made of, and a run into
its phases. Of the state these lemmas keep what is entered into the document
and what becomes of the progress; the journal is left out, and so are steps
that fail.
-/

set_option autoImplicit false

namespace DebugRecovery.Reconstruction

open Source

variable {Value Other : Type} {state later : Reconstruction} {value : Value}

theorem bind_ok {action : Step Other} {next : Other → Step Value}
    (finished : (action >>= next) state = .ok value later) :
    ∃ middle between, action state = .ok middle between ∧
      next middle between = .ok value later := by
  change EStateM.bind action next state = .ok value later at finished
  unfold EStateM.bind at finished
  cases ran : action state with
  | ok middle between =>
      rw [ran] at finished
      exact ⟨middle, between, rfl, finished⟩
  | error abort between =>
      rw [ran] at finished
      contradiction

theorem pure_ok {given : Value} (finished : (pure given : Step Value) state = .ok value later) :
    value = given ∧ later = state := by
  cases finished
  exact ⟨rfl, rfl⟩

theorem note_ok {entries : Journal} {done : Unit} (finished : note entries state = .ok done later) :
    later.document = state.document ∧ later.progress = state.progress := by
  cases finished
  exact ⟨rfl, rfl⟩

theorem count_ok {change : Progress → Progress} {done : Unit}
    (finished : count change state = .ok done later) :
    later.document = state.document ∧ later.progress = change state.progress := by
  cases finished
  exact ⟨rfl, rfl⟩

theorem throw_not_ok {abort : Abort} : (throw abort : Step Value) state ≠ .ok value later := by
  intro finished
  cases finished

theorem enter_ok {insert : Document → Except Failure Document} {done : Unit}
    (finished : enter insert state = .ok done later) :
    insert state.document = .ok later.document ∧ later.progress = state.progress := by
  unfold enter at finished
  split at finished
  · contradiction
  · rename_i document inserted
    cases finished
    exact ⟨inserted, rfl⟩

/-- A tracked action starts with one operation more, which is left after it. -/
theorem track_ok {name : String} {action : Step Value}
    (finished : track name action state = .ok value later) :
    ∃ started ended, action started = .ok value ended ∧
      started.document = state.document ∧ later.document = ended.document ∧
      started.progress = state.progress.enter name state.now ∧
      later.progress = ended.progress.leave := by
  unfold track at finished
  dsimp only at finished
  split at finished
  · rename_i result ended ran
    cases finished
    exact ⟨_, ended, ran, rfl, rfl, rfl, rfl⟩
  · contradiction

theorem around_ok {activity : Activity} {action : Step Value}
    (finished : activity.around noted (fun state => .ok state.now) Abort.message action state =
      .ok value later) :
    ∃ started ended, action started = .ok value ended ∧
      started.document = state.document ∧ later.document = ended.document ∧
      started.progress = state.progress ∧ later.progress = ended.progress := by
  unfold Activity.around at finished
  dsimp only at finished
  split at finished
  · rename_i result ended ran
    cases finished
    exact ⟨_, ended, ran, rfl, rfl, rfl, rfl⟩
  · contradiction

/-- A list of records entered into a document is its records entered one after the other. -/
structure Appends (extend : Document → List Value → Document) : Prop where
  nothing : ∀ document, extend document [] = document
  further : ∀ document first rest,
    extend (extend document [first]) rest = extend document (first :: rest)

theorem appends_functions : Appends fun document (functions : List (Symbol Nat)) =>
    { document with functions := document.functions ++ functions } := by
  constructor
  · simp
  · simp

theorem appends_globals : Appends fun document (globals : List (Symbol DebugType)) =>
    { document with globals := document.globals ++ globals } := by
  constructor
  · simp
  · simp

/-- A loop that enters one record for each item enters them in order. -/
theorem each_ok {Item : Type} {action : Item → Step Value} (result : Item → Value → Prop)
    {extend : Document → List Value → Document} (appends : Appends extend)
    (step : ∀ item before given after, action item before = .ok given after →
      result item given ∧ after.document = extend before.document [given] ∧
        after.progress = before.progress)
    {items : List Item} {values : List Value}
    (finished : items.mapM action state = .ok values later) :
    List.Forall₂ result items values ∧ later.document = extend state.document values ∧
      later.progress = state.progress := by
  induction items generalizing state values with
  | nil =>
      rw [List.mapM_nil] at finished
      obtain ⟨rfl, rfl⟩ := pure_ok finished
      exact ⟨.nil, (appends.nothing _).symm, rfl⟩
  | cons item items induction =>
      rw [List.mapM_cons] at finished
      obtain ⟨first, between, entered, finished⟩ := bind_ok finished
      obtain ⟨rest, last, others, finished⟩ := bind_ok finished
      obtain ⟨rfl, rfl⟩ := pure_ok finished
      obtain ⟨holds, document, progress⟩ := step item state first between entered
      obtain ⟨hold, documents, progresses⟩ := induction others
      refine ⟨.cons holds hold, ?_, progresses.trans progress⟩
      rw [documents, document, appends.further]

theorem review_diagnostics_ok {source : SourceFile} {done : Unit}
    (finished : reviewDiagnostics source state = .ok done later) :
    source.diagnostics.filter isError = [] ∧ later.document = state.document ∧
      later.progress = state.progress := by
  unfold reviewDiagnostics at finished
  obtain ⟨_, noted, note, finished⟩ := bind_ok finished
  obtain ⟨document, progress⟩ := note_ok note
  cases errors : source.diagnostics.filter isError with
  | nil =>
      rw [errors] at finished
      obtain ⟨_, rfl⟩ := pure_ok finished
      exact ⟨rfl, document, progress⟩
  | cons first others =>
      rw [errors] at finished
      obtain ⟨_, repaired, _, finished⟩ := bind_ok finished
      exact absurd finished throw_not_ok

theorem enter_struct_ok {declaration : Declaration} {layout : StructLayout}
    (finished : enterStruct declaration state = .ok layout later) :
    StructLayout.ofDeclaration declaration = .ok layout ∧
      state.document.addStruct layout = .ok later.document ∧
      later.progress = state.progress := by
  unfold enterStruct at finished
  obtain ⟨_, noted, note, finished⟩ := bind_ok finished
  obtain ⟨document, progress⟩ := note_ok note
  cases built : StructLayout.ofDeclaration declaration with
  | error defect =>
      rw [built] at finished
      exact absurd finished throw_not_ok
  | ok translated =>
      rw [built] at finished
      obtain ⟨_, entered, insertion, finished⟩ := bind_ok finished
      obtain ⟨rfl, rfl⟩ := pure_ok finished
      obtain ⟨inserted, kept⟩ := enter_ok insertion
      rw [document] at inserted
      exact ⟨rfl, inserted, kept.trans progress⟩

/-- The layouts are those of the declarations, in their order. -/
abbrev Built (declarations : List Declaration) (layouts : List StructLayout) : Prop :=
  List.Forall₂ (fun declaration layout => StructLayout.ofDeclaration declaration = .ok layout)
    declarations layouts

theorem each_struct_ok {declarations : List Declaration} {layouts : List StructLayout}
    (finished : declarations.mapM enterStruct state = .ok layouts later) :
    Built declarations layouts ∧
    state.document.Admits layouts ∧
    later.document = state.document.extended layouts [] [] [] ∧
    later.progress = state.progress := by
  induction declarations generalizing state layouts with
  | nil =>
      rw [List.mapM_nil] at finished
      obtain ⟨rfl, rfl⟩ := pure_ok finished
      exact ⟨.nil, Document.admits_nothing _, (Document.extended_nothing _).symm, rfl⟩
  | cons declaration declarations induction =>
      rw [List.mapM_cons] at finished
      obtain ⟨layout, between, entered, finished⟩ := bind_ok finished
      obtain ⟨rest, last, others, finished⟩ := bind_ok finished
      obtain ⟨rfl, rfl⟩ := pure_ok finished
      obtain ⟨built, inserted, progress⟩ := enter_struct_ok entered
      obtain ⟨free, document⟩ := Document.add_struct_ok_iff.mp inserted
      obtain ⟨each, admitted, documents, progresses⟩ := induction others
      rw [document] at admitted documents
      refine ⟨.cons built each, Document.admits_cons_iff.mpr ⟨free, admitted⟩, ?_,
        progresses.trans progress⟩
      rw [documents, Document.extended_extended]
      rfl

theorem enter_structs_ok {source : SourceFile} {layouts : List StructLayout}
    (finished : enterStructs source state = .ok layouts later) :
    Built (source.ofKind .struct) layouts ∧
    state.document.Admits layouts ∧
    later.document = state.document.extended layouts [] [] [] ∧
    later.progress = state.progress.addStructs layouts.length := by
  unfold enterStructs at finished
  obtain ⟨entered, between, loop, finished⟩ := bind_ok finished
  obtain ⟨_, counted, count, finished⟩ := bind_ok finished
  obtain ⟨_, noted, note, finished⟩ := bind_ok finished
  obtain ⟨rfl, rfl⟩ := pure_ok finished
  obtain ⟨translated, admitted, document, progress⟩ := each_struct_ok loop
  obtain ⟨countDocument, countProgress⟩ := count_ok count
  obtain ⟨noteDocument, noteProgress⟩ := note_ok note
  refine ⟨translated, admitted, ?_, ?_⟩
  · rw [noteDocument, countDocument, document]
  · rw [noteProgress, countProgress, progress]

/-- Prototypes under their names, with the positions from a first one on. -/
def namedPositions (start : Nat) (functions : List Prototype) : List (String × Nat) :=
  (functions.zipIdx start).map fun numbered => (numbered.1.name, numbered.2)

theorem each_prototype (functions : List Prototype) (state : Reconstruction) :
    functions.mapM enterPrototype state =
      .ok (namedPositions state.document.nextPosition functions)
        { state with document :=
            { state.document with prototypes := state.document.prototypes ++ functions } } := by
  induction functions generalizing state with
  | nil => simp [namedPositions, pure, EStateM.pure]
  | cons function functions induction =>
      have next : (state.document.addPrototype function).nextPosition =
          state.document.nextPosition + 1 := by
        simp [Document.addPrototype, Document.nextPosition]
      rw [List.mapM_cons]
      simp only [bind, EStateM.bind, enterPrototype, induction, pure, EStateM.pure, next,
        namedPositions, List.zipIdx_cons, List.map_cons]
      simp [Document.addPrototype]

theorem enter_prototypes_ok {source : SourceFile} {prototypes : List (String × Nat)}
    (finished : enterPrototypes source state = .ok prototypes later) :
    ∃ registered, (source.ofKind .function).mapM Prototype.ofDeclaration = .ok registered ∧
      prototypes = Association.ofPairs (namedPositions state.document.nextPosition registered) ∧
      later.document =
        { state.document with prototypes := state.document.prototypes ++ registered } ∧
      later.progress = state.progress.addPrototypes prototypes.length := by
  unfold enterPrototypes at finished
  cases translated : (source.ofKind .function).mapM Prototype.ofDeclaration with
  | error defect =>
      rw [translated] at finished
      obtain ⟨_, noted, _, finished⟩ := bind_ok finished
      exact absurd finished throw_not_ok
  | ok registered =>
      rw [translated] at finished
      obtain ⟨positions, between, loop, finished⟩ := bind_ok finished
      obtain ⟨_, counted, count, finished⟩ := bind_ok finished
      obtain ⟨_, noted, note, finished⟩ := bind_ok finished
      obtain ⟨rfl, rfl⟩ := pure_ok finished
      rw [each_prototype] at loop
      cases loop
      obtain ⟨countDocument, countProgress⟩ := count_ok count
      obtain ⟨noteDocument, noteProgress⟩ := note_ok note
      exact ⟨registered, rfl, rfl, noteDocument.trans countDocument,
        noteProgress.trans countProgress⟩

theorem type_globals_ok {source : SourceFile} {types : List (String × DebugType)}
    (finished : typeGlobals source state = .ok types later) :
    ∃ pairs, ((source.ofKind .variable).filterMap typedName?).mapM typedGlobal = .ok pairs ∧
      types = Association.ofPairs pairs ∧ later.document = state.document ∧
      later.progress = state.progress := by
  unfold typeGlobals at finished
  cases translated : ((source.ofKind .variable).filterMap typedName?).mapM typedGlobal with
  | error defect =>
      rw [translated] at finished
      obtain ⟨_, noted, _, finished⟩ := bind_ok finished
      exact absurd finished throw_not_ok
  | ok pairs =>
      rw [translated] at finished
      obtain ⟨_, noted, note, finished⟩ := bind_ok finished
      obtain ⟨rfl, rfl⟩ := pure_ok finished
      obtain ⟨document, progress⟩ := note_ok note
      exact ⟨pairs, rfl, rfl, document, progress⟩

theorem locate_eq (territory : Territory) (queries : List SymbolQuery) (state : Reconstruction) :
    locate territory queries state = .ok (territory.locateAll queries)
      { state with
        progress := state.progress.addSymbols (territory.locateAll queries).symbols.length
          (territory.locateAll queries).failures.length
        journal := state.journal ++
          (queries.map territory.finding).flatMap Territory.Finding.journal } := by
  rw [← Territory.locate_all_findings]
  rfl

/-- The position given for a symbol is the number under which the document takes it. -/
theorem add_function_ok {document entered : Document} {placed : Symbol Nat}
    (inserted : document.addFunction (placed.withType (placed.typeRef.map Int.ofNat)) =
      .ok entered) : entered = document.appendFunction placed := by
  obtain ⟨name, sectionIndex, offset, typeRef⟩ := placed
  cases typeRef with
  | none => exact (Except.ok.inj inserted).symm
  | some position =>
      simp only [Document.addFunction, Symbol.withType, Option.map_some] at inserted
      split at inserted
      · rename_i taken issued
        obtain rfl : taken = position := by
          unfold Document.position? at issued
          split at issued
          · exact (Option.some.inj issued).symm
          · contradiction
        exact (Except.ok.inj inserted).symm
      · contradiction

theorem place_function_ok {prototypes : List (String × Nat)} {symbol : Symbol Empty}
    {placed : Symbol Nat} (finished : placeFunction prototypes symbol state = .ok placed later) :
    placed = symbol.withType (prototypes.lookup symbol.name) ∧
      later.document = state.document.appendFunction placed ∧
      later.progress = state.progress := by
  unfold placeFunction at finished
  obtain ⟨_, entered, insertion, finished⟩ := bind_ok finished
  obtain ⟨rfl, rfl⟩ := pure_ok finished
  obtain ⟨inserted, progress⟩ := enter_ok insertion
  exact ⟨rfl, add_function_ok inserted, progress⟩

theorem place_functions_ok {territory : Territory} {queries : List SymbolQuery}
    {prototypes : List (String × Nat)} {functions : List (Symbol Nat)}
    {failures : List LookupFailure}
    (finished : placeFunctions territory queries prototypes state =
      .ok (functions, failures) later) :
    functions = (territory.locateAll queries).symbols.map
        (fun symbol => symbol.withType (prototypes.lookup symbol.name)) ∧
    failures = (territory.locateAll queries).failures ∧
    later.document = { state.document with functions := state.document.functions ++ functions } ∧
    later.progress = state.progress.addSymbols functions.length failures.length := by
  unfold placeFunctions at finished
  obtain ⟨result, located, search, finished⟩ := bind_ok finished
  obtain ⟨placed, between, loop, finished⟩ := bind_ok finished
  cases finished
  rw [locate_eq] at search
  cases search
  obtain ⟨placements, document, progress⟩ := each_ok
    (fun symbol placed => placed = symbol.withType (prototypes.lookup symbol.name))
    appends_functions (fun _ _ _ _ step => place_function_ok step) loop
  have values := map_of_each placements
  refine ⟨values, rfl, document, ?_⟩
  rw [progress, values, List.length_map]

theorem place_global_ok {types : List (String × DebugType)} {symbol : Symbol Empty}
    {placed : Symbol DebugType} (finished : placeGlobal types symbol state = .ok placed later) :
    placed = symbol.withType (types.lookup symbol.name) ∧
      later.document = state.document.addGlobal placed ∧ later.progress = state.progress := by
  unfold placeGlobal at finished
  obtain ⟨_, entered, insertion, finished⟩ := bind_ok finished
  obtain ⟨rfl, rfl⟩ := pure_ok finished
  obtain ⟨inserted, progress⟩ := enter_ok insertion
  exact ⟨rfl, (Except.ok.inj inserted).symm, progress⟩

theorem place_globals_ok {material : Material} {queries : List SymbolQuery}
    {globals : List (Symbol DebugType)} {failures : List LookupFailure}
    (finished : placeGlobals material queries state = .ok (globals, failures) later) :
    ∃ pairs, ((material.source.ofKind .variable).filterMap typedName?).mapM typedGlobal =
        .ok pairs ∧
      globals = (material.territory.locateAll queries).symbols.map
        (fun symbol => symbol.withType ((Association.ofPairs pairs).lookup symbol.name)) ∧
      failures = (material.territory.locateAll queries).failures ∧
      later.document = { state.document with globals := state.document.globals ++ globals } ∧
      later.progress = state.progress.addSymbols globals.length failures.length := by
  unfold placeGlobals at finished
  obtain ⟨types, typed, typing, finished⟩ := bind_ok finished
  obtain ⟨result, located, search, finished⟩ := bind_ok finished
  obtain ⟨placed, between, loop, finished⟩ := bind_ok finished
  cases finished
  obtain ⟨pairs, translated, rfl, typedDocument, typedProgress⟩ := type_globals_ok typing
  rw [locate_eq] at search
  cases search
  obtain ⟨placements, document, progress⟩ := each_ok
    (fun symbol placed => placed =
      symbol.withType ((Association.ofPairs pairs).lookup symbol.name))
    appends_globals (fun _ _ _ _ step => place_global_ok step) loop
  have values := map_of_each placements
  rw [typedDocument] at document
  refine ⟨pairs, translated, values, rfl, document, ?_⟩
  rw [progress, typedProgress, values, List.length_map]

/-- An operation is left at its end, so that of the progress only its counts remain. -/
theorem track_review_ok {source : SourceFile} {done : Unit}
    (finished : track "diagnostics" (reviewDiagnostics source) state = .ok done later) :
    source.diagnostics.filter isError = [] ∧ later.document = state.document ∧
      later.progress = state.progress := by
  obtain ⟨_, _, reviewed, start, done, entered, left⟩ := track_ok finished
  obtain ⟨clean, document, progress⟩ := review_diagnostics_ok reviewed
  refine ⟨clean, ?_, ?_⟩
  · rw [done, document, start]
  · rw [left, progress, entered, Progress.leave_enter]

theorem track_structs_ok {source : SourceFile} {layouts : List StructLayout}
    (finished : track "structs" (enterStructs source) state = .ok layouts later) :
    Built (source.ofKind .struct) layouts ∧
    state.document.Admits layouts ∧
    later.document = state.document.extended layouts [] [] [] ∧
    later.progress = state.progress.addStructs layouts.length := by
  obtain ⟨_, _, laidOut, start, done, entered, left⟩ := track_ok finished
  obtain ⟨built, admitted, document, progress⟩ := enter_structs_ok laidOut
  rw [start] at admitted document
  refine ⟨built, admitted, done.trans document, ?_⟩
  rw [left, progress, entered]
  rfl

theorem track_prototypes_ok {source : SourceFile} {prototypes : List (String × Nat)}
    (finished : track "function prototypes" (enterPrototypes source) state =
      .ok prototypes later) :
    ∃ registered, (source.ofKind .function).mapM Prototype.ofDeclaration = .ok registered ∧
      prototypes =
        Association.ofPairs (namedPositions state.document.prototypes.length registered) ∧
      later.document = state.document.extended [] registered [] [] ∧
      later.progress = state.progress.addPrototypes prototypes.length := by
  obtain ⟨_, _, declared, start, done, entered, left⟩ := track_ok finished
  obtain ⟨registered, accepted, positions, document, progress⟩ := enter_prototypes_ok declared
  rw [start] at positions document
  refine ⟨registered, accepted, positions, ?_, ?_⟩
  · rw [done, document]
    simp [Document.extended]
  · rw [left, progress, entered]
    rfl

theorem track_functions_ok {territory : Territory} {queries : List SymbolQuery}
    {prototypes : List (String × Nat)} {functions : List (Symbol Nat)}
    {failures : List LookupFailure}
    (finished : track "functions" (placeFunctions territory queries prototypes) state =
      .ok (functions, failures) later) :
    functions = (territory.locateAll queries).symbols.map
        (fun symbol => symbol.withType (prototypes.lookup symbol.name)) ∧
    failures = (territory.locateAll queries).failures ∧
    later.document = state.document.extended [] [] functions [] ∧
    later.progress = state.progress.addSymbols functions.length failures.length := by
  obtain ⟨_, _, placed, start, done, entered, left⟩ := track_ok finished
  obtain ⟨values, lost, document, progress⟩ := place_functions_ok placed
  rw [start] at document
  refine ⟨values, lost, ?_, ?_⟩
  · rw [done, document]
    simp [Document.extended]
  · rw [left, progress, entered]
    rfl

theorem track_globals_ok {material : Material} {queries : List SymbolQuery}
    {globals : List (Symbol DebugType)} {failures : List LookupFailure}
    (finished : track "globals" (placeGlobals material queries) state =
      .ok (globals, failures) later) :
    ∃ pairs, ((material.source.ofKind .variable).filterMap typedName?).mapM typedGlobal =
        .ok pairs ∧
      globals = (material.territory.locateAll queries).symbols.map
        (fun symbol => symbol.withType ((Association.ofPairs pairs).lookup symbol.name)) ∧
      failures = (material.territory.locateAll queries).failures ∧
      later.document = state.document.extended [] [] [] globals ∧
      later.progress = state.progress.addSymbols globals.length failures.length := by
  obtain ⟨_, _, placed, start, done, entered, left⟩ := track_ok finished
  obtain ⟨pairs, translated, values, missing, document, progress⟩ := place_globals_ok placed
  rw [start] at document
  refine ⟨pairs, translated, values, missing, ?_, ?_⟩
  · rw [done, document]
    simp [Document.extended]
  · rw [left, progress, entered]
    rfl

/-- What a run that succeeds has done: `registered` are the prototypes of the declared functions and
`typed` the types of the variables that have a name and a type. -/
structure Completed (material : Material) (table : QueryTable) (state later : Reconstruction)
    (report : Report) (registered : List Prototype) (typed : List (String × DebugType)) : Prop where
  clean : material.source.diagnostics.filter isError = []
  structs : Built (material.source.ofKind .struct) report.structs
  admitted : state.document.Admits report.structs
  declared : (material.source.ofKind .function).mapM Prototype.ofDeclaration = .ok registered
  translated :
    ((material.source.ofKind .variable).filterMap typedName?).mapM typedGlobal = .ok typed
  prototypes : report.prototypes =
    Association.ofPairs (namedPositions state.document.nextPosition registered)
  functions : report.functions = (material.territory.locateAll table.functions).symbols.map
    fun symbol => symbol.withType (report.prototypes.lookup symbol.name)
  globals : report.globals = (material.territory.locateAll table.globals).symbols.map
    fun symbol => symbol.withType ((Association.ofPairs typed).lookup symbol.name)
  warnings : report.warnings = (material.territory.locateAll table.functions).failures ++
    (material.territory.locateAll table.globals).failures
  document : later.document = { state.document with
    structs := state.document.structs ++ report.structs
    structNames := state.document.structNames ++ report.structs.map StructLayout.name
    prototypes := state.document.prototypes ++ registered
    functions := state.document.functions ++ report.functions
    globals := state.document.globals ++ report.globals }
  progress : later.progress =
    (((state.progress.addStructs report.structs.length).addPrototypes
      report.prototypes.length).addSymbols report.functions.length
        (material.territory.locateAll table.functions).failures.length).addSymbols
          report.globals.length (material.territory.locateAll table.globals).failures.length

theorem run_completed {material : Material} {table : QueryTable} {report : Report}
    (finished : run material table state = .ok report later) :
    ∃ registered typed, Completed material table state later report registered typed := by
  obtain ⟨begun, ended, ran, begunDocument, endedDocument, begunProgress, endedProgress⟩ :=
    around_ok finished
  unfold phases at ran
  obtain ⟨_, reviewed, review, ran⟩ := bind_ok ran
  obtain ⟨structs, laidOut, layouts, ran⟩ := bind_ok ran
  obtain ⟨prototypes, declared, declarations, ran⟩ := bind_ok ran
  obtain ⟨_, announced, announcement, ran⟩ := bind_ok ran
  obtain ⟨⟨functions, lost⟩, placed, placement, ran⟩ := bind_ok ran
  obtain ⟨⟨globals, missing⟩, filled, filling, ran⟩ := bind_ok ran
  obtain ⟨_, warned, warning, ran⟩ := bind_ok ran
  obtain ⟨_, summarized, summary, ran⟩ := bind_ok ran
  obtain ⟨rfl, rfl⟩ := pure_ok ran
  cases summary
  obtain ⟨clean, reviewDocument, reviewProgress⟩ := track_review_ok review
  obtain ⟨each, admitted, structDocument, structProgress⟩ := track_structs_ok layouts
  obtain ⟨registered, accepted, positions, declarationDocument, declarationProgress⟩ :=
    track_prototypes_ok declarations
  obtain ⟨announcementDocument, announcementProgress⟩ := note_ok announcement
  obtain ⟨functionValues, lostValues, functionDocument, functionProgress⟩ :=
    track_functions_ok placement
  obtain ⟨typed, translated, globalValues, missingValues, globalDocument, globalProgress⟩ :=
    track_globals_ok filling
  obtain ⟨warningDocument, warningProgress⟩ := note_ok warning
  have laidOutDocument : laidOut.document = state.document.extended structs [] [] [] := by
    rw [structDocument, reviewDocument, begunDocument]
  have placedDocument :
      placed.document = state.document.extended structs registered functions [] := by
    rw [functionDocument, announcementDocument, declarationDocument, laidOutDocument]
    simp [Document.extended]
  have declaredProgress : announced.progress =
      (state.progress.addStructs structs.length).addPrototypes prototypes.length := by
    rw [announcementProgress, declarationProgress, structProgress, reviewProgress, begunProgress]
  refine ⟨registered, typed, ?_⟩
  constructor
  case clean => exact clean
  case structs => exact each
  case admitted =>
    rw [reviewDocument, begunDocument] at admitted
    exact admitted
  case declared => exact accepted
  case translated => exact translated
  case prototypes =>
    rw [positions, laidOutDocument]
    simp [Document.extended, Document.nextPosition]
  case functions => exact functionValues
  case globals => exact globalValues
  case warnings => rw [lostValues, missingValues]
  case document =>
    rw [endedDocument]
    change warned.document = _
    rw [warningDocument, globalDocument, placedDocument]
    simp [Document.extended]
  case progress =>
    rw [endedProgress]
    change warned.progress = _
    rw [warningProgress, globalProgress, functionProgress, declaredProgress, lostValues,
      missingValues]

end DebugRecovery.Reconstruction
