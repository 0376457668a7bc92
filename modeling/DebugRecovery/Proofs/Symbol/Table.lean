import DebugRecovery.Proofs.Symbol.Entry
import DebugRecovery.Symbol.Load

/-!
# Which documents are tables of queries

A document is a table when it is an object whose two lists, where it has them,
describe queries entry by entry. Reading accepts exactly these documents and
keeps the order of the entries; of any other document it reports the first
demand that is not met. Members beside the two lists, and those of an entry
under keys that are not known, change nothing.
-/

set_option autoImplicit false

namespace DebugRecovery.QueryTable

/-- The list under the key, if there is one, describes the queries entry by entry. -/
def Lists (document : Json) (part : String) (queries : List SymbolQuery) : Prop :=
  ∃ entries, document.Gives part Json.array [] entries ∧
    List.Forall₂ SymbolQuery.Described entries queries

/-- The document describes the table. -/
structure Tabulates (document : Json) (table : QueryTable) : Prop where
  object : document.IsObject
  functions : Lists document "functions" table.functions
  globals : Lists document "globals" table.globals

/-- What is demanded of the entries from number `index` on. -/
def entriesDemands (part : String) : Nat → List Json → List (Demand TableDefect)
  | _, [] => []
  | index, entry :: entries =>
      (SymbolQuery.demands entry).map (Demand.under (.entry part index)) ++
        entriesDemands part (index + 1) entries

/-- The entries of the list under the key; none when there is no list. -/
def entriesUnder (document : Json) (part : String) : List Json :=
  match document.member? part with
  | some (.array entries) => entries
  | _ => []

def partDemands (document : Json) (part : String) : List (Demand TableDefect) :=
  ⟨document.Admits part Json.array, .notList part⟩ ::
    entriesDemands part 0 (entriesUnder document part)

/-- What is demanded of a document, in the order of the reports. -/
def demands (document : Json) : List (Demand TableDefect) :=
  ⟨document.IsObject, .notObject⟩ ::
    (partDemands document "functions" ++ partDemands document "globals")

/-- The same member, or two lists whose entries are alike one by one. -/
def AlikeLists (found other : Option Json) : Prop :=
  found = other ∨ ∃ entries others, found = some (.array entries) ∧
    other = some (.array others) ∧ List.Forall₂ SymbolQuery.Alike entries others

/-- The same document, or two objects whose lists of functions and of globals are alike. -/
def Alike (document other : Json) : Prop :=
  document = other ∨ document.IsObject ∧ other.IsObject ∧
    ∀ part ∈ ["functions", "globals"], AlikeLists (document.member? part) (other.member? part)

section Part

variable {part : String} {members : Members}

theorem queries_from_ok_iff (index : Nat) (entries : List Json) (queries : List SymbolQuery) :
    queriesFrom part index entries = .ok queries ↔
      List.Forall₂ SymbolQuery.Described entries queries := by
  induction entries generalizing index queries with
  | nil => cases queries <;> simp [queriesFrom]
  | cons entry entries induction =>
      constructor
      · intro finished
        obtain ⟨query, first, finished⟩ := except_bind_ok finished
        obtain ⟨rest, others, finished⟩ := except_bind_ok finished
        obtain rfl := Except.ok.inj finished
        have described := (SymbolQuery.of_json_ok_iff entry query).mp (except_map_error_ok first)
        exact .cons described ((induction (index + 1) rest).mp others)
      · intro each
        cases each with
        | cons described others =>
            rename_i query rest
            have first := (SymbolQuery.of_json_ok_iff entry query).mpr described
            have further := (induction (index + 1) rest).mpr others
            simp only [queriesFrom, first, further, Except.mapError, except_ok_bind]

theorem queries_from_checks (index : Nat) (entries : List Json) :
    Checks (entriesDemands part index entries) (queriesFrom part index entries) := by
  induction entries generalizing index with
  | nil => exact Checks.done []
  | cons entry entries induction =>
      have first := (SymbolQuery.of_json_checks entry).mapError (TableDefect.entry part index)
      exact first.bind fun query _ => (induction (index + 1)).finish

theorem entries_under_of_ok {entries : List Json} (listed : entriesOf part members = .ok entries) :
    entriesUnder (.object members) part = entries := by
  have given := (read_member_ok_iff Json.array_reads entries).mp listed
  rcases given with present | ⟨missing, rfl⟩
  · simp only [entriesUnder, present]
  · simp only [entriesUnder, missing]

theorem part_of_ok_iff (queries : List SymbolQuery) :
    partOf part members = .ok queries ↔ Lists (.object members) part queries := by
  constructor
  · intro finished
    obtain ⟨entries, listed, finished⟩ := except_bind_ok finished
    exact ⟨entries, (read_member_ok_iff Json.array_reads entries).mp listed,
      (queries_from_ok_iff 0 entries queries).mp finished⟩
  · rintro ⟨entries, given, each⟩
    have listed : entriesOf part members = .ok entries :=
      (read_member_ok_iff Json.array_reads entries).mpr given
    rw [partOf, listed, except_ok_bind]
    exact (queries_from_ok_iff 0 entries queries).mpr each

theorem part_of_checks : Checks (partDemands (.object members) part) (partOf part members) := by
  refine (read_member_checks Json.array_reads).step fun entries listed => ?_
  rw [entries_under_of_ok listed]
  exact queries_from_checks 0 entries

theorem queries_from_alike (index : Nat) {entries others : List Json}
    (each : List.Forall₂ SymbolQuery.Alike entries others) :
    queriesFrom part index entries = queriesFrom part index others := by
  induction each generalizing index with
  | nil => rfl
  | cons alike _ induction =>
      simp only [queriesFrom, SymbolQuery.of_json_alike alike, induction]

theorem part_of_alike {others : Members}
    (alike : AlikeLists (members.lookup part) (others.lookup part)) :
    partOf part members = partOf part others := by
  rcases alike with same | ⟨entries, further, listed, relisted, each⟩
  · rw [partOf, partOf, entriesOf, entriesOf, read_member_agree same]
  · simp only [partOf, entriesOf, readMember, listed, relisted, Json.array?, except_ok_bind]
    exact queries_from_alike 0 each

end Part

theorem of_json_ok_iff (document : Json) (table : QueryTable) :
    ofJson document = .ok table ↔ Tabulates document table := by
  cases document with
  | object members =>
      constructor
      · intro finished
        obtain ⟨functions, first, finished⟩ := except_bind_ok finished
        obtain ⟨globals, second, finished⟩ := except_bind_ok finished
        obtain rfl := Except.ok.inj finished
        exact ⟨⟨members, rfl⟩, (part_of_ok_iff functions).mp first,
          (part_of_ok_iff globals).mp second⟩
      · intro tabulates
        have first := (part_of_ok_iff table.functions).mpr tabulates.functions
        have second := (part_of_ok_iff table.globals).mpr tabulates.globals
        simp only [ofJson, first, second, except_ok_bind]
  | _ =>
      simp only [ofJson, reduceCtorEq, false_iff]
      intro tabulates
      obtain ⟨members, same⟩ := tabulates.object
      contradiction

theorem of_json_checks (document : Json) : Checks (demands document) (ofJson document) := by
  intro defect
  rw [demands, first_unmet_cons_iff]
  cases document with
  | object members =>
      have object : (Json.object members).IsObject := ⟨members, rfl⟩
      simp only [object, not_true_eq_false, false_and, true_and, false_or]
      exact part_of_checks.bind (fun functions _ => part_of_checks.finish) defect
  | _ => simp [ofJson, Json.IsObject]

theorem of_json_alike {document other : Json} (alike : Alike document other) :
    ofJson document = ofJson other := by
  rcases alike with rfl | ⟨⟨members, rfl⟩, ⟨others, rfl⟩, agree⟩
  · rfl
  · have functions := part_of_alike (agree "functions" (by simp))
    have globals := part_of_alike (agree "globals" (by simp))
    simp only [ofJson, functions, globals]

end DebugRecovery.QueryTable
