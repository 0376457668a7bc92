import DebugRecovery.Proofs.Layout
import DebugRecovery.Proofs.Lookup.Search

/-!
# The records of a run

A run that succeeds appends to the document one record for each query that
finds a symbol, in the order of the queries, and reports the same records. A
function refers to the last prototype that the run registered under its name,
by a position that counts the prototypes of earlier runs, too. A global has the
type of the last variable of its name that has one. Repeated declarations keep
all their prototypes in the document; only the references go to the last.
-/

set_option autoImplicit false

namespace DebugRecovery.Reconstruction

open Source

/-- At the index stands the last of the items that are wanted. -/
def LastAt {Item : Type} (wanted : Item → Prop) (items : List Item) (index : Nat) (item : Item) :
    Prop :=
  ∃ front back, items = front ++ item :: back ∧ front.length = index ∧ wanted item ∧
    ∀ other ∈ back, ¬ wanted other

section Last

variable {Item Value : Type} {wanted : Item → Prop} {chosen : Value → Prop}

theorem last_at_get {items : List Item} {index : Nat} {item : Item}
    (last : LastAt wanted items index item) : items[index]? = some item ∧ wanted item := by
  obtain ⟨front, back, rfl, rfl, holds, _⟩ := last
  exact ⟨by simp, holds⟩

/-- There is one item that is last. -/
theorem last_at_unique {items : List Item} {index place : Nat} {item other : Item}
    (last : LastAt wanted items index item)
    (again : LastAt wanted items place other) : item = other := by
  obtain ⟨front, back, rfl, rfl, holds, free⟩ := last
  obtain ⟨before, after, same, rfl, holdsToo, freeToo⟩ := again
  rcases List.append_eq_append_iff.mp same with ⟨between, _, tail⟩ | ⟨between, _, tail⟩
  · cases between with
    | nil => exact (List.cons.inj tail).1
    | cons first rest =>
        have inside : other ∈ back := by
          rw [(List.cons.inj tail).2]
          simp
        exact absurd holdsToo (free other inside)
  · cases between with
    | nil => exact (List.cons.inj tail).1.symm
    | cons first rest =>
        have inside : item ∈ after := by
          rw [(List.cons.inj tail).2]
          simp
        exact absurd holds (freeToo item inside)

/-- What is last among values is last among the items that they come from, one by one. -/
theorem last_at_source {relation : Item → Value → Prop} {items : List Item} {values : List Value}
    (each : List.Forall₂ relation items values)
    (agrees : ∀ item value, relation item value → (wanted item ↔ chosen value))
    {index : Nat} {value : Value} (last : LastAt chosen values index value) :
    ∃ item, LastAt wanted items index item ∧ relation item value := by
  obtain ⟨front, back, rfl, rfl, holds, free⟩ := last
  induction front generalizing items with
  | nil =>
      obtain ⟨item, rest, related, others, rfl⟩ := List.forall₂_cons_right_iff.mp each
      refine ⟨item, ⟨[], rest, rfl, rfl, (agrees item value related).mpr holds, ?_⟩, related⟩
      intro other member wants
      obtain ⟨given, inside, here⟩ := each_item others member
      exact free given inside ((agrees other given here).mp wants)
  | cons first front induction =>
      obtain ⟨item, rest, _, others, rfl⟩ := List.forall₂_cons_right_iff.mp each
      obtain ⟨found, ⟨before, after, rfl, length, wants, free⟩, related⟩ := induction others
      refine ⟨found, ⟨item :: before, after, rfl, ?_, wants, free⟩, related⟩
      simpa using length

/-- What is last among the values that some of the items have belongs to the last such item. -/
theorem last_at_filter {value? : Item → Option Value} {items : List Item}
    (agrees : ∀ item, wanted item ↔ ∃ value, value? item = some value ∧ chosen value)
    {index : Nat} {value : Value} (last : LastAt chosen (items.filterMap value?) index value) :
    ∃ place item, LastAt wanted items place item ∧ value? item = some value := by
  obtain ⟨front, back, same, rfl, holds, free⟩ := last
  obtain ⟨before, rest, rfl, _, tail⟩ := List.filterMap_eq_append_iff.mp same
  obtain ⟨skipped, item, after, rfl, _, here, afterwards⟩ := List.filterMap_eq_cons_iff.mp tail
  refine ⟨(before ++ skipped).length, item, ⟨before ++ skipped, after, by simp, rfl, ?_, ?_⟩, here⟩
  · exact (agrees item).mpr ⟨value, here, holds⟩
  · intro other member wants
    obtain ⟨found, given, choice⟩ := (agrees other).mp wants
    have inside : found ∈ back := by
      rw [← afterwards]
      exact List.mem_filterMap.mpr ⟨other, member, given⟩
    exact free found inside choice

end Last

theorem named_position_of_member {registered : List Prototype} {prototype : Prototype}
    (member : prototype ∈ registered) (start : Nat) :
    ∃ position, (prototype.name, position) ∈ namedPositions start registered := by
  rw [← List.zipIdx_map_fst start registered] at member
  obtain ⟨numbered, inside, rfl⟩ := List.mem_map.mp member
  exact ⟨numbered.2, List.mem_map.mpr ⟨numbered, inside, rfl⟩⟩

theorem named_position_some {start : Nat} {registered : List Prototype} {name : String}
    {position : Nat}
    (known : (Association.ofPairs (namedPositions start registered)).lookup name = some position) :
    ∃ index prototype, position = start + index ∧
      LastAt (fun other => other.name = name) registered index prototype := by
  obtain ⟨front, back, same, free⟩ :=
    (Association.lookup_of_pairs_some_iff _ name position).mp known
  obtain ⟨before, rest, numbers, _, tail⟩ := List.map_eq_append_iff.mp same
  obtain ⟨numbered, after, rfl, here, afterwards⟩ := List.map_eq_cons_iff.mp tail
  obtain ⟨frontal, others, rfl, rfl, dorsal⟩ := List.zipIdx_eq_append_iff.mp numbers
  obtain ⟨prototype, later, rfl, rfl, rfl⟩ := List.zipIdx_eq_cons_iff.mp dorsal.symm
  obtain ⟨rfl, rfl⟩ := Prod.mk.inj here
  refine ⟨frontal.length, prototype, rfl, frontal, later, rfl, rfl, rfl, ?_⟩
  intro other member
  obtain ⟨position, inside⟩ :=
    named_position_of_member member (start + frontal.length + 1)
  -- The pairs after the chosen one carry the names of the prototypes after it.
  unfold namedPositions at inside
  rw [afterwards] at inside
  exact free _ inside

theorem named_position_none {start : Nat} {registered : List Prototype} {name : String}
    (unknown : (Association.ofPairs (namedPositions start registered)).lookup name = none) :
    ∀ prototype ∈ registered, prototype.name ≠ name := by
  have free := (Association.lookup_of_pairs_none_iff _ name).mp unknown
  intro prototype member
  obtain ⟨position, inside⟩ := named_position_of_member member start
  exact free _ inside

/-- The declaration has the name and a type. -/
def TypedAs (name : String) (declaration : Declaration) : Prop :=
  named? declaration.displayName = some name ∧ declaration.type.isSome = true

theorem typed_name_some_iff (declaration : Declaration) (name : String) (source : CType) :
    typedName? declaration = some (name, source) ↔
      named? declaration.displayName = some name ∧ declaration.type = some source := by
  unfold typedName?
  constructor
  · intro found
    split at found
    · rename_i foundName foundType named typed
      obtain ⟨rfl, rfl⟩ := Prod.mk.inj (Option.some.inj found)
      exact ⟨named, typed⟩
    · contradiction
  · rintro ⟨named, typed⟩
    simp only [named, typed]

theorem typed_as_iff (name : String) (declaration : Declaration) :
    TypedAs name declaration ↔
      ∃ pair, typedName? declaration = some pair ∧ pair.1 = name := by
  unfold TypedAs
  rw [Option.isSome_iff_exists]
  constructor
  · rintro ⟨named, source, typed⟩
    exact ⟨(name, source), (typed_name_some_iff declaration name source).mpr ⟨named, typed⟩, rfl⟩
  · rintro ⟨⟨_, source⟩, found, rfl⟩
    obtain ⟨named, typed⟩ := (typed_name_some_iff declaration _ source).mp found
    exact ⟨named, source, typed⟩

theorem typed_global_ok {pair : String × CType} {typed : String × DebugType}
    (translated : typedGlobal pair = .ok typed) :
    pair.1 = typed.1 ∧ Meaning.type pair.2 = .ok typed.2 := by
  unfold typedGlobal at translated
  cases meaning : Meaning.type pair.2 with
  | error defect =>
      rw [meaning] at translated
      contradiction
  | ok type =>
      rw [meaning] at translated
      obtain rfl := Except.ok.inj translated
      exact ⟨rfl, rfl⟩

section Globals

variable {declarations : List Declaration} {typed : List (String × DebugType)}

theorem global_type_some
    (translated : (declarations.filterMap typedName?).mapM typedGlobal = .ok typed)
    {name : String} {type : DebugType}
    (known : (Association.ofPairs typed).lookup name = some type) :
    ∃ index declaration source, LastAt (TypedAs name) declarations index declaration ∧
      declaration.type = some source ∧ Meaning.type source = .ok type := by
  obtain ⟨front, back, same, free⟩ :=
    (Association.lookup_of_pairs_some_iff _ name type).mp known
  have last : LastAt (fun pair => pair.1 = name) typed front.length (name, type) :=
    ⟨front, back, same, rfl, rfl, free⟩
  have agrees : ∀ pair given, typedGlobal pair = .ok given →
      (pair.1 = name ↔ given.1 = name) := by
    intro pair given meaning
    rw [(typed_global_ok meaning).1]
  obtain ⟨pair, lastPair, meaning⟩ := last_at_source (except_each translated) agrees last
  obtain ⟨index, declaration, lastDeclaration, found⟩ :=
    last_at_filter (fun declaration => typed_as_iff name declaration) lastPair
  obtain ⟨_, source⟩ := pair
  have given := (typed_name_some_iff declaration _ source).mp found
  exact ⟨index, declaration, source, lastDeclaration, given.2, (typed_global_ok meaning).2⟩

theorem global_type_none
    (translated : (declarations.filterMap typedName?).mapM typedGlobal = .ok typed) {name : String}
    (unknown : (Association.ofPairs typed).lookup name = none) :
    ∀ declaration ∈ declarations, ¬ TypedAs name declaration := by
  intro declaration member claimed
  obtain ⟨pair, found, rfl⟩ := (typed_as_iff name declaration).mp claimed
  have inside : pair ∈ declarations.filterMap typedName? :=
    List.mem_filterMap.mpr ⟨declaration, member, found⟩
  obtain ⟨given, known, meaning⟩ := each_item (except_each translated) inside
  have free := (Association.lookup_of_pairs_none_iff _ _).mp unknown
  exact free given known (typed_global_ok meaning).1.symm

end Globals

/-- The record of a function that a query finds: its place is the one found for the query alone, and
its position is that of the last prototype registered under its name from `start` on. -/
structure FunctionRecord (material : Material) (start : Nat) (registered : List Prototype)
    (query : SymbolQuery) (symbol : Symbol Nat) : Prop where
  found : material.territory.locate query = .ok (symbol.withType none)
  named : symbol.name = query.name
  position :
    (symbol.typeRef = none ∧ ∀ declaration ∈ material.source.ofKind .function,
      named? declaration.linkageName ≠ some query.name) ∨
    (∃ index prototype, symbol.typeRef = some (start + index) ∧
      LastAt (fun other => other.name = query.name) registered index prototype)

/-- The record of a global that a query finds: its place is the one found for the query alone, and
its type is that of the last variable that has its name and a type. -/
structure GlobalRecord (material : Material) (query : SymbolQuery) (symbol : Symbol DebugType) :
    Prop where
  found : material.territory.locate query = .ok (symbol.withType none)
  named : symbol.name = query.name
  type :
    (symbol.typeRef = none ∧ ∀ declaration ∈ material.source.ofKind .variable,
      ¬ TypedAs query.name declaration) ∨
    (∃ type index declaration source, symbol.typeRef = some type ∧
      LastAt (TypedAs query.name) (material.source.ofKind .variable) index declaration ∧
      declaration.type = some source ∧ Meaning.type source = .ok type)

/-- One record for each query that finds a symbol. -/
theorem records_of_found {TypeRef : Type} {territory : Territory} {queries : List SymbolQuery}
    {record : SymbolQuery → Symbol TypeRef → Prop} (types : String → Option TypeRef)
    (each : ∀ query symbol, territory.locate query = .ok symbol → symbol.name = query.name →
      record query (symbol.withType (types symbol.name))) :
    List.Forall₂ record (queries.filter fun query => (territory.symbol? query).isSome)
      ((territory.locateAll queries).symbols.map fun symbol =>
        symbol.withType (types symbol.name)) := by
  rw [Territory.locate_all_eq]
  induction queries with
  | nil => exact .nil
  | cons query queries induction =>
      rcases territory.answer_cases query with ⟨symbol, found, given, _⟩ | ⟨_, _, missing, _⟩
      · simp only [List.filter_cons, List.filterMap_cons, given, Option.isSome_some, ↓reduceIte,
          List.map_cons]
        exact .cons (each query symbol found (Territory.locate_stands found).1) induction
      · simpa only [List.filter_cons, List.filterMap_cons, missing, Option.isSome_none,
          Bool.false_eq_true, ↓reduceIte] using induction

theorem located_without_type {territory : Territory} {query : SymbolQuery} {symbol : Symbol Empty}
    (found : territory.locate query = .ok symbol) : symbol.withType none = symbol := by
  obtain ⟨_, _, _, _, rfl⟩ := (Territory.locate_ok_iff territory query symbol).mp found
  rfl

theorem declared_function_records {material : Material} {registered : List Prototype}
    (declared : (material.source.ofKind .function).mapM Prototype.ofDeclaration = .ok registered)
    (start : Nat) (queries : List SymbolQuery) :
    List.Forall₂ (FunctionRecord material start registered)
      (queries.filter fun query => (material.territory.symbol? query).isSome)
      ((material.territory.locateAll queries).symbols.map fun symbol =>
        symbol.withType
          ((Association.ofPairs (namedPositions start registered)).lookup symbol.name)) := by
  refine records_of_found
    (fun name => (Association.ofPairs (namedPositions start registered)).lookup name) ?_
  intro query symbol found named
  refine ⟨by rw [found, ← located_without_type found]; rfl, named, ?_⟩
  rw [named]
  cases known : (Association.ofPairs (namedPositions start registered)).lookup query.name with
  | none =>
      have free := named_position_none known
      refine Or.inl ⟨rfl, ?_⟩
      intro declaration member declaredHere
      obtain ⟨prototype, inside, accepted⟩ := each_item (except_each declared) member
      have same := (Prototype.of_declaration_ok_iff.mp accepted).named.symm.trans declaredHere
      exact free prototype inside (Option.some.inj same)
  | some position =>
      obtain ⟨index, prototype, rfl, last⟩ := named_position_some known
      exact Or.inr ⟨index, prototype, rfl, last⟩

section Completed

variable {material : Material} {table : QueryTable} {state later : Reconstruction}
  {report : Report} {registered : List Prototype} {typed : List (String × DebugType)}

theorem function_records
    (completed : Completed material table state later report registered typed) :
    List.Forall₂ (FunctionRecord material state.document.prototypes.length registered)
      (table.functions.filter fun query => (material.territory.symbol? query).isSome)
      report.functions := by
  rw [completed.functions, completed.prototypes]
  exact declared_function_records completed.declared _ table.functions

theorem global_records
    (completed : Completed material table state later report registered typed) :
    List.Forall₂ (GlobalRecord material)
      (table.globals.filter fun query => (material.territory.symbol? query).isSome)
      report.globals := by
  rw [completed.globals]
  refine records_of_found (fun name => (Association.ofPairs typed).lookup name) ?_
  intro query symbol found named
  refine ⟨by rw [found, ← located_without_type found]; rfl, named, ?_⟩
  rw [named]
  cases known : (Association.ofPairs typed).lookup query.name with
  | none => exact Or.inl ⟨rfl, global_type_none completed.translated known⟩
  | some type =>
      obtain ⟨index, declaration, source, last, given, meaning⟩ :=
        global_type_some completed.translated known
      exact Or.inr ⟨type, index, declaration, source, rfl, last, given, meaning⟩

end Completed

/-- What a run that succeeds leaves behind, when `registered` are the prototypes of its source. -/
structure Recorded (material : Material) (table : QueryTable) (state later : Reconstruction)
    (report : Report) (registered : List Prototype) : Prop where
  declared : (material.source.ofKind .function).mapM Prototype.ofDeclaration = .ok registered
  prototypes : later.document.prototypes = state.document.prototypes ++ registered
  functions : later.document.functions = state.document.functions ++ report.functions
  globals : later.document.globals = state.document.globals ++ report.globals
  functionRecords :
    List.Forall₂ (FunctionRecord material state.document.prototypes.length registered)
      (table.functions.filter fun query => (material.territory.symbol? query).isSome)
      report.functions
  globalRecords :
    List.Forall₂ (GlobalRecord material)
      (table.globals.filter fun query => (material.territory.symbol? query).isSome)
      report.globals
  positions : ∀ symbol ∈ report.functions, ∀ position, symbol.typeRef = some position →
    ∃ prototype, later.document.prototypes[position]? = some prototype ∧
      prototype.name = symbol.name
  warnings : report.warnings = table.functions.filterMap material.territory.failure? ++
    table.globals.filterMap material.territory.failure?

/-- The records that a run adds to the document are those of its report, one for each query that
finds a symbol, and its warnings are the failures of the other queries. -/
theorem run_adds_one_record_per_found_query {material : Material} {table : QueryTable}
    {state later : Reconstruction} {report : Report}
    (finished : run material table state = .ok report later) :
    ∃ registered, Recorded material table state later report registered := by
  obtain ⟨registered, typed, completed⟩ := run_completed finished
  have functions := function_records completed
  have prototypes : later.document.prototypes = state.document.prototypes ++ registered := by
    rw [completed.document]
  refine ⟨registered, ?_⟩
  constructor
  case declared => exact completed.declared
  case prototypes => exact prototypes
  case functions => rw [completed.document]
  case globals => rw [completed.document]
  case functionRecords => exact functions
  case globalRecords => exact global_records completed
  case positions =>
    intro symbol member position referred
    obtain ⟨index, bound, rfl⟩ := List.getElem_of_mem member
    have sameLength := functions.length_eq
    have record := functions.get (by omega) bound
    rcases record.position with ⟨missing, _⟩ | ⟨place, prototype, known, last⟩
    · have nothing := missing.symm.trans referred
      contradiction
    · obtain rfl := Option.some.inj (known.symm.trans referred)
      obtain ⟨here, name⟩ := last_at_get last
      refine ⟨prototype, ?_, name.trans record.named.symm⟩
      rw [prototypes, List.getElem?_append_right (by omega)]
      simpa using here
  case warnings => rw [completed.warnings, Territory.locate_all_eq, Territory.locate_all_eq]

def plainType (kind : TypeKind) (result : Option CType) : CType :=
  { kind, spelling := "", canonical := none, element := none, size := none, pointee := none
    declaration := none, result, arguments := some [], convention := .known .c, fields := none
    offsets := [] }

def declaredAs (kind : DeclarationKind) (name : String) (type : CType) : Declaration :=
  { kind, displayName := some name, linkageName := some name, location := ""
    inSystemHeader := false, type := some type }

def repeatingSource : SourceFile :=
  let int := plainType .int none
  let double := plainType .double none
  { declarations :=
      [declaredAs .function "f" (plainType .functionProto (some int)),
        declaredAs .function "g" (plainType .functionProto (some int)),
        declaredAs .function "f" (plainType .functionProto (some double)),
        declaredAs .variable "v" int,
        declaredAs .variable "v" double]
    diagnostics := [] }

def repeatingMaterial : Material :=
  { territory :=
      { data := ⟨#[]⟩, imageBase := 0
        sections := [⟨1, ⟨0x1000, 0x2000⟩, ⟨0x400, 0x1400⟩, ".text"⟩] }
    source := repeatingSource }

def repeatingTable : QueryTable :=
  { functions :=
      [{ name := "f", startRva := 0x1010 }, { name := "lost", startRva := 0x10 },
        { name := "h", startRva := 0x1000 }]
    globals := [{ name := "v", startRva := 0x1ff0 }] }

def repeatingStart : Reconstruction :=
  .ofDocument
    { is64 := false, imageBase := 0, prototypes := [⟨"f", ⟨.primitive .void, [], .nearC⟩⟩] } .origin

theorem repeated_declarations_recorded :
    ∃ report later, run repeatingMaterial repeatingTable repeatingStart = .ok report later ∧
      report.functions = [⟨"f", 1, 0x10, some 3⟩, ⟨"h", 1, 0, none⟩] ∧
      ∃ registered, Recorded repeatingMaterial repeatingTable repeatingStart later report
        registered := by
  have functions : (match run repeatingMaterial repeatingTable repeatingStart with
      | .ok report _ => some report.functions
      | .error _ _ => none) = some [⟨"f", 1, 0x10, some 3⟩, ⟨"h", 1, 0, none⟩] := by
    decide +kernel
  cases ran : run repeatingMaterial repeatingTable repeatingStart with
  | error abort later =>
      rw [ran] at functions
      contradiction
  | ok report later =>
      rw [ran] at functions
      exact ⟨report, later, rfl, Option.some.inj functions,
        run_adds_one_record_per_found_query ran⟩

end DebugRecovery.Reconstruction
