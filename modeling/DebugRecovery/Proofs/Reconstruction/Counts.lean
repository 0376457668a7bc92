import DebugRecovery.Proofs.Reconstruction.Records
import Mathlib.Algebra.GroupWithZero.Nat
import Mathlib.Data.List.Dedup
import Mathlib.Data.List.Induction

/-!
# Counters and records

A run counts what it reports. For structs, symbols and warnings that is what it
enters into the document. Prototypes are entered one for each declaration, but
reported and counted one for each name, so that the counter of prototypes falls
behind by every repeated declaration of a function, in every run.
-/

set_option autoImplicit false

namespace DebugRecovery

namespace Association

variable {Key Value : Type} [DecidableEq Key]

theorem mem_keys_put (key wanted : Key) (value : Value) (entries : List (Key × Value)) :
    wanted ∈ (put key value entries).map Prod.fst ↔
      wanted ∈ entries.map Prod.fst ∨ wanted = key := by
  induction entries with
  | nil => simp [put]
  | cons entry rest induction =>
      by_cases same : entry.1 = key
      · simp only [put, same, ↓reduceIte, List.map_cons, List.mem_cons]
        grind
      · simp only [put, same, ↓reduceIte, List.map_cons, List.mem_cons, induction]
        grind

theorem put_keys_nodup {key : Key} {value : Value} {entries : List (Key × Value)}
    (distinct : (entries.map Prod.fst).Nodup) : ((put key value entries).map Prod.fst).Nodup := by
  induction entries with
  | nil => simp [put]
  | cons entry rest induction =>
      obtain ⟨fresh, others⟩ := List.nodup_cons.mp distinct
      by_cases same : entry.1 = key
      · simpa only [put, same, ↓reduceIte, List.map_cons] using distinct
      · simp only [put, same, ↓reduceIte, List.map_cons]
        refine List.nodup_cons.mpr ⟨fun inside => ?_, induction others⟩
        rcases (mem_keys_put key entry.1 value rest).mp inside with known | equal
        · exact fresh known
        · exact same equal

theorem keys_of_pairs (pairs : List (Key × Value)) :
    ((ofPairs pairs).map Prod.fst).Nodup ∧
      ∀ key, key ∈ (ofPairs pairs).map Prod.fst ↔ key ∈ pairs.map Prod.fst := by
  induction pairs using List.reverseRecOn with
  | nil => simp [ofPairs]
  | append_singleton pairs pair induction =>
      obtain ⟨distinct, members⟩ := induction
      rw [of_pairs_snoc]
      refine ⟨put_keys_nodup distinct, fun key => ?_⟩
      rw [mem_keys_put, members, List.map_append, List.mem_append]
      simp

/-- There is one entry for each key. -/
theorem of_pairs_length (pairs : List (Key × Value)) :
    (ofPairs pairs).length = (pairs.map Prod.fst).dedup.length := by
  obtain ⟨distinct, members⟩ := keys_of_pairs pairs
  have permuted : ((ofPairs pairs).map Prod.fst).Perm (pairs.map Prod.fst).dedup := by
    apply (List.perm_ext_iff_of_nodup distinct (List.nodup_dedup _)).mpr
    intro key
    rw [members, List.mem_dedup]
  rw [← permuted.length_eq, List.length_map]

end Association

namespace Reconstruction

open Source

/-- The names of the functions that a source declares, repeated ones included. -/
def functionNames (source : SourceFile) : List String :=
  (source.ofKind .function).filterMap fun declaration => named? declaration.linkageName

/-- How many declarations of functions repeat the name of another one. -/
def repetitions (source : SourceFile) : Nat :=
  (functionNames source).length - (functionNames source).dedup.length

theorem repetitions_add (source : SourceFile) :
    (functionNames source).dedup.length + repetitions source = (functionNames source).length := by
  have shorter := (List.dedup_sublist (functionNames source)).length_le
  unfold repetitions
  omega

theorem repetitions_zero_iff (source : SourceFile) :
    repetitions source = 0 ↔ (functionNames source).Nodup := by
  have total := repetitions_add source
  constructor
  · intro none
    have whole : (functionNames source).dedup = functionNames source :=
      (List.dedup_sublist (functionNames source)).eq_of_length (by omega)
    exact List.dedup_eq_self.mp whole
  · intro distinct
    rw [List.dedup_eq_self.mpr distinct] at total
    omega

theorem registered_names {declarations : List Declaration} {registered : List Prototype}
    (declared : declarations.mapM Prototype.ofDeclaration = .ok registered) :
    registered.map Prototype.name =
      declarations.filterMap fun declaration => named? declaration.linkageName := by
  have each := except_each declared
  induction each with
  | nil => rfl
  | cons accepted others induction =>
      have named := (Prototype.of_declaration_ok_iff.mp accepted).named
      rw [List.map_cons, List.filterMap_cons, named, induction (except_each_iff.mpr others)]

theorem named_positions_names (start : Nat) (registered : List Prototype) :
    (namedPositions start registered).map Prod.fst = registered.map Prototype.name := by
  rw [namedPositions, List.map_map]
  change (registered.zipIdx start).map (Prototype.name ∘ Prod.fst) = registered.map Prototype.name
  rw [← List.map_map, List.zipIdx_map_fst]

/-- The counters tell the lengths of the lists in the document and the number of warnings, but for
`missed` prototypes, which the document has besides those that are counted. -/
structure Counted (state : Reconstruction) (warnings missed : Nat) : Prop where
  structs : state.progress.counts.structs = state.document.structs.length
  prototypes : state.progress.counts.prototypes + missed = state.document.prototypes.length
  symbols : state.progress.counts.symbols =
    state.document.functions.length + state.document.globals.length
  warnings : state.progress.counts.warnings = warnings

section Runs

variable {material : Material} {table : QueryTable} {tables : List QueryTable}
  {state later : Reconstruction} {report : Report} {reports : List Report} {warnings missed : Nat}

theorem start_counted (is64 : Bool) (imageBase : Int) (now : Instant) :
    Counted (.ofDocument { is64, imageBase } now) 0 0 := by
  constructor <;> rfl

theorem counted_unique {other : Nat} (counted : Counted state warnings missed)
    (again : Counted state warnings other) : missed = other := by
  have first := counted.prototypes
  have second := again.prototypes
  omega

/-- A run counts each of its prototypes once for each name. -/
theorem run_counted (finished : run material table state = .ok report later)
    (counted : Counted state warnings missed) :
    Counted later (warnings + report.warnings.length) (missed + repetitions material.source) := by
  obtain ⟨registered, typed, completed⟩ := run_completed finished
  have names : registered.map Prototype.name = functionNames material.source :=
    registered_names completed.declared
  have reported : report.prototypes.length = (functionNames material.source).dedup.length := by
    rw [completed.prototypes, Association.of_pairs_length, named_positions_names, names]
  have entered : registered.length = (functionNames material.source).length := by
    rw [← names, List.length_map]
  have total := repetitions_add material.source
  have structs := counted.structs
  have prototypes := counted.prototypes
  have symbols := counted.symbols
  have warned := counted.warnings
  -- Each counter grows by the length of what the run appends, the one of prototypes by the names.
  constructor
  all_goals
    simp only [completed.progress, completed.document, completed.warnings, Progress.addSymbols,
      Progress.addPrototypes, Progress.addStructs, List.length_append]
    omega

/-- The runs of one reconstruction, each with its table, until one of them fails. -/
def runAll (material : Material) (tables : List QueryTable) : Step (List Report) :=
  tables.mapM (run material)

def warningCount (reports : List Report) : Nat :=
  (reports.map fun report => report.warnings.length).sum

theorem run_all_counted (finished : runAll material tables state = .ok reports later)
    (counted : Counted state warnings missed) :
    Counted later (warnings + warningCount reports)
      (missed + tables.length * repetitions material.source) := by
  unfold runAll at finished
  induction tables generalizing state reports warnings missed with
  | nil =>
      rw [List.mapM_nil] at finished
      obtain ⟨rfl, rfl⟩ := pure_ok finished
      simpa [warningCount] using counted
  | cons table tables induction =>
      rw [List.mapM_cons] at finished
      obtain ⟨report, between, first, finished⟩ := bind_ok finished
      obtain ⟨others, last, further, finished⟩ := bind_ok finished
      obtain ⟨rfl, rfl⟩ := pure_ok finished
      have counts := induction further (run_counted first counted)
      simpa only [warningCount, List.map_cons, List.sum_cons, List.length_cons, Nat.add_assoc,
        Nat.succ_mul, Nat.add_comm (repetitions material.source)] using counts

/-- After any runs on a fresh document the counters agree with it but for the repeated declarations
of functions, so that they agree entirely exactly when nothing was run or no name is repeated. -/
theorem counts_agree_iff {is64 : Bool} {imageBase : Int} {now : Instant}
    (finished : runAll material tables (.ofDocument { is64, imageBase } now) =
      .ok reports later) :
    Counted later (warningCount reports) (tables.length * repetitions material.source) ∧
      (Counted later (warningCount reports) 0 ↔
        tables = [] ∨ (functionNames material.source).Nodup) := by
  have counted := run_all_counted finished (start_counted is64 imageBase now)
  rw [Nat.zero_add, Nat.zero_add] at counted
  refine ⟨counted, ?_⟩
  rw [← repetitions_zero_iff]
  constructor
  · intro agree
    have none := counted_unique counted agree
    rcases Nat.mul_eq_zero.mp none with empty | distinct
    · exact Or.inl (List.eq_nil_of_length_eq_zero empty)
    · exact Or.inr distinct
  · rintro (rfl | distinct)
    · simpa using counted
    · simpa [distinct] using counted

end Runs

def declaringMaterial (names : List String) : Material :=
  let int := plainType .int none
  { territory := repeatingMaterial.territory
    source :=
      { declarations := names.map fun name =>
          declaredAs .function name (plainType .functionProto (some int))
        diagnostics := [] } }

def freshStart : Reconstruction := .ofDocument { is64 := true, imageBase := 0 } .origin

theorem distinct_functions_counted :
    ∃ reports later,
      runAll (declaringMaterial ["f", "g"]) [repeatingTable, {}] freshStart = .ok reports later ∧
        (later.progress.counts.prototypes, later.progress.counts.warnings) = (4, 1) ∧
        Counted later (warningCount reports) 0 := by
  have outcome : (match runAll (declaringMaterial ["f", "g"]) [repeatingTable, {}] freshStart with
      | .ok _ later => some (later.progress.counts.prototypes, later.progress.counts.warnings)
      | .error _ _ => none) = some (4, 1) := by
    decide +kernel
  cases ran : runAll (declaringMaterial ["f", "g"]) [repeatingTable, {}] freshStart with
  | error abort later =>
      rw [ran] at outcome
      contradiction
  | ok reports later =>
      rw [ran] at outcome
      have distinct : (functionNames (declaringMaterial ["f", "g"]).source).Nodup := by
        decide +kernel
      exact ⟨reports, later, rfl, Option.some.inj outcome,
        (counts_agree_iff ran).2.mpr (Or.inr distinct)⟩

theorem repeated_function_uncounted :
    ∃ reports later, runAll (declaringMaterial ["f", "f"]) [{}] freshStart = .ok reports later ∧
      later.progress.counts.prototypes = 1 ∧ later.document.prototypes.length = 2 ∧
      ¬ Counted later (warningCount reports) 0 := by
  have outcome : (match runAll (declaringMaterial ["f", "f"]) [{}] freshStart with
      | .ok _ later => some (later.progress.counts.prototypes, later.document.prototypes.length)
      | .error _ _ => none) = some (1, 2) := by
    decide +kernel
  cases ran : runAll (declaringMaterial ["f", "f"]) [{}] freshStart with
  | error abort later =>
      rw [ran] at outcome
      contradiction
  | ok reports later =>
      rw [ran] at outcome
      obtain ⟨counted, entered⟩ := Prod.mk.inj (Option.some.inj outcome)
      refine ⟨reports, later, rfl, counted, entered, fun agree => ?_⟩
      have prototypes := agree.prototypes
      omega

end Reconstruction

end DebugRecovery
