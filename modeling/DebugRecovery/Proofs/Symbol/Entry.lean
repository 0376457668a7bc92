import DebugRecovery.Proofs.Demand
import DebugRecovery.Symbol.Table

/-!
# Which descriptions of symbols are read

What the description of one symbol has to have, said without reading it: the
kinds of members that it admits, the query that it stands for, and the demands
on it in the order in which they are reported. Reading accepts exactly the
descriptions of queries, and of any other it reports the first demand that is
not met. Members under keys that are not known do not matter.
-/

set_option autoImplicit false

namespace DebugRecovery

variable {Value Defect : Type}

namespace Json

/-- The value under a key; only objects have members. -/
def member? : Json → String → Option Json
  | .object members, key => members.lookup key
  | _, _ => none

@[simp]
theorem member_object (members : Members) (key : String) :
    (object members).member? key = members.lookup key := rfl

/-- A member under the key, if there is one, is as `form` writes some value. -/
def Admits (entry : Json) (key : String) (form : Value → Json) : Prop :=
  ∀ found, entry.member? key = some found → ∃ value, found = form value

/-- The member under the key is the value as `form` writes it, or it is missing and the value is the
default. -/
def Gives (entry : Json) (key : String) (form : Value → Json) (default value : Value) : Prop :=
  entry.member? key = some (form value) ∨ entry.member? key = none ∧ value = default

def IsObject (document : Json) : Prop := ∃ members, document = .object members

def integers (values : List Int) : Json := .array (values.map .integer)

/-- What is admitted is what the form writes, and it is read as the value written. -/
def Reads (read? : Json → Option Value) (form : Value → Json) : Prop :=
  ∀ found value, read? found = some value ↔ found = form value

theorem string_reads : Reads string? string := by
  intro found value
  cases found <;> simp [string?]

theorem integer_reads : Reads integer? integer := by
  intro found value
  cases found <;> simp [integer?]

theorem boolean_reads : Reads boolean? boolean := by
  intro found value
  cases found <;> simp [boolean?]

theorem array_reads : Reads array? array := by
  intro found value
  cases found <;> simp [array?]

theorem integers_reads : Reads integers? integers := by
  intro found values
  cases found with
  | array items =>
      simp only [integers?, integers, array.injEq]
      induction items generalizing values with
      | nil => cases values <;> simp
      | cons item items induction =>
          rw [List.mapM_cons]
          constructor
          · intro read
            obtain ⟨value, first, read⟩ := Option.bind_eq_some_iff.mp read
            obtain ⟨rest, others, read⟩ := Option.bind_eq_some_iff.mp read
            obtain rfl := Option.some.inj read
            rw [(integer_reads item value).mp first, (induction rest).mp others, List.map_cons]
          · intro same
            cases values with
            | nil => contradiction
            | cons value rest =>
                obtain ⟨rfl, others⟩ := List.cons.inj same
                exact Option.bind_eq_some_iff.mpr ⟨value, rfl,
                  Option.bind_eq_some_iff.mpr ⟨rest, (induction rest).mpr others, rfl⟩⟩
  | _ => simp [integers?, integers]

end Json

section Member

variable {members : Members} {key : String} {read? : Json → Option Value}
  {form : Value → Json} {default : Value} {defect : Defect}

theorem read_member_ok_iff (reads : Json.Reads read? form) (value : Value) :
    readMember members key read? default defect = .ok value ↔
      (Json.object members).Gives key form default value := by
  simp only [readMember, Json.Gives, Json.member_object]
  cases members.lookup key with
  | none => simp [eq_comm]
  | some found =>
      simp only [Option.some.injEq, ← reads found value, reduceCtorEq, false_and, or_false]
      cases read? found with
      | none => simp
      | some other => simp

theorem read_member_agree {others : Members} (same : members.lookup key = others.lookup key) :
    readMember members key read? default defect = readMember others key read? default defect := by
  simp only [readMember, same]

theorem read_member_checks (reads : Json.Reads read? form) :
    Checks [⟨(Json.object members).Admits key form, defect⟩]
      (readMember members key read? default defect) := by
  intro told
  simp only [first_unmet_cons_iff, not_first_unmet_nil, and_false, or_false, readMember,
    Json.Admits, Json.member_object]
  cases members.lookup key with
  | none => simp
  | some found =>
      simp only [Option.some.injEq, forall_eq', ← reads found]
      cases read? found with
      | none => simp
      | some value => simp

end Member

namespace SymbolQuery

/-- The name that an entry gives, empty when it gives none. -/
def entryName (entry : Json) : String :=
  match entry.member? "name" with
  | some (.string name) => name
  | _ => ""

/-- The entry describes the query: it gives the name and whatever differs from the defaults. -/
structure Described (entry : Json) (query : SymbolQuery) : Prop where
  name : entry.member? "name" = some (.string query.name)
  named : query.name ≠ ""
  pattern : entry.Gives "pattern" Json.string "" query.pattern
  startRva : entry.Gives "start_rva" Json.integer 0 query.startRva
  counted : 0 ≤ query.startRva
  relative : entry.Gives "relative" Json.boolean false query.relative
  ripRelative : entry.Gives "rip_relative" Json.boolean false query.ripRelative
  ripOffset : entry.Gives "rip_offset" Json.integer 0 query.ripOffset
  offsets : entry.Gives "offsets" Json.integers [] query.offsets
  extra : query.extra = 0

/-- What is demanded of an entry, in the order of the reports. -/
def demands (entry : Json) : List (Demand QueryDefect) :=
  let name := entryName entry
  [⟨entry.IsObject, .notObject entry.kindLabel⟩,
    ⟨name ≠ "", .nameless⟩,
    ⟨entry.Admits "pattern" Json.string, .wrongKind name "pattern" "str"⟩,
    ⟨entry.Admits "start_rva" Json.integer, .wrongKind name "start_rva" "int"⟩,
    ⟨entry.Admits "relative" Json.boolean, .wrongKind name "relative" "bool"⟩,
    ⟨entry.Admits "rip_relative" Json.boolean, .wrongKind name "rip_relative" "bool"⟩,
    ⟨entry.Admits "rip_offset" Json.integer, .wrongKind name "rip_offset" "int"⟩,
    ⟨∀ start, entry.member? "start_rva" = some (.integer start) → 0 ≤ start,
      .negativeStart name⟩,
    ⟨entry.Admits "offsets" Json.integers, .offsets name⟩]

variable {members : Members}

theorem name_member_ok_iff (name : String) :
    nameMember members = .ok name ↔
      (Json.object members).member? "name" = some (.string name) ∧ name ≠ "" := by
  simp only [nameMember, Json.member_object]
  split
  · rename_i found present
    simp only [present, Option.some.injEq, Json.string.injEq, String.isEmpty_iff]
    split
    · rename_i empty
      simp only [reduceCtorEq, false_iff, not_and, not_not]
      rintro rfl
      exact empty
    · rename_i nonempty
      simp only [Except.ok.injEq, iff_self_and]
      rintro rfl
      exact nonempty
  · rename_i other
    simp only [reduceCtorEq, false_iff, not_and]
    intro present
    exact absurd present (other name)

theorem name_member_eq :
    nameMember members =
      if entryName (.object members) = "" then .error .nameless
      else .ok (entryName (.object members)) := by
  rcases Option.eq_none_or_eq_some (members.lookup "name") with missing | ⟨found, present⟩
  · simp only [nameMember, entryName, Json.member_object, missing, ↓reduceIte]
  · simp only [nameMember, entryName, Json.member_object, present]
    cases found with
    | string name => simp only [String.isEmpty_iff]
    | _ => rfl

theorem name_member_checks :
    Checks [⟨entryName (.object members) ≠ "", .nameless⟩] (nameMember members) := by
  intro defect
  rw [name_member_eq, first_unmet_cons_iff]
  split
  · rename_i empty
    simp [empty, not_first_unmet_nil]
  · rename_i nonempty
    simp [nonempty, not_first_unmet_nil]

theorem entry_name_of_ok {name : String} (named : nameMember members = .ok name) :
    entryName (.object members) = name := by
  simp only [entryName, ((name_member_ok_iff name).mp named).1]

theorem check_start_ok_iff (name : String) (startRva : Int) :
    checkStart name startRva = .ok () ↔ 0 ≤ startRva := by
  unfold checkStart
  split
  · simp only [reduceCtorEq, false_iff]
    omega
  · simp only [true_iff]
    omega

theorem check_start_checks {entry : Json} {name : String} {startRva : Int}
    (given : entry.Gives "start_rva" Json.integer 0 startRva) :
    Checks [⟨∀ start, entry.member? "start_rva" = some (.integer start) → 0 ≤ start,
      .negativeStart name⟩] (checkStart name startRva) := by
  intro defect
  simp only [first_unmet_cons_iff, not_first_unmet_nil, and_false, or_false, checkStart]
  rcases given with present | ⟨missing, rfl⟩
  · simp only [present, Option.some.injEq, Json.integer.injEq, forall_eq', Int.not_le]
    split <;> simp [*]
  · simp [missing]

theorem of_members_ok_iff (query : SymbolQuery) :
    ofMembers members = .ok query ↔ Described (.object members) query := by
  constructor
  · intro finished
    obtain ⟨name, named, finished⟩ := except_bind_ok finished
    obtain ⟨pattern, patterned, finished⟩ := except_bind_ok finished
    obtain ⟨startRva, started, finished⟩ := except_bind_ok finished
    obtain ⟨relative, based, finished⟩ := except_bind_ok finished
    obtain ⟨ripRelative, displaced, finished⟩ := except_bind_ok finished
    obtain ⟨ripOffset, shifted, finished⟩ := except_bind_ok finished
    obtain ⟨_, counted, finished⟩ := except_bind_ok finished
    obtain ⟨offsets, chained, finished⟩ := except_bind_ok finished
    obtain rfl := Except.ok.inj finished
    obtain ⟨stated, nonempty⟩ := (name_member_ok_iff name).mp named
    exact {
      name := stated
      named := nonempty
      pattern := (read_member_ok_iff Json.string_reads pattern).mp patterned
      startRva := (read_member_ok_iff Json.integer_reads startRva).mp started
      counted := (check_start_ok_iff name startRva).mp counted
      relative := (read_member_ok_iff Json.boolean_reads relative).mp based
      ripRelative := (read_member_ok_iff Json.boolean_reads ripRelative).mp displaced
      ripOffset := (read_member_ok_iff Json.integer_reads ripOffset).mp shifted
      offsets := (read_member_ok_iff Json.integers_reads offsets).mp chained
      extra := rfl }
  · intro described
    have whole : query = { query with extra := 0 } := by
      rw [← described.extra]
    simp only [ofMembers, except_ok_bind,
      (name_member_ok_iff query.name).mpr ⟨described.name, described.named⟩,
      (read_member_ok_iff Json.string_reads _).mpr described.pattern,
      (read_member_ok_iff Json.integer_reads _).mpr described.startRva,
      (read_member_ok_iff Json.boolean_reads _).mpr described.relative,
      (read_member_ok_iff Json.boolean_reads _).mpr described.ripRelative,
      (read_member_ok_iff Json.integer_reads _).mpr described.ripOffset,
      (check_start_ok_iff query.name _).mpr described.counted,
      (read_member_ok_iff Json.integers_reads _).mpr described.offsets]
    exact congrArg Except.ok whole.symm

theorem of_members_checks : Checks (demands (.object members)).tail (ofMembers members) := by
  refine name_member_checks.step fun name named => ?_
  rw [entry_name_of_ok named]
  refine (read_member_checks Json.string_reads).step fun _ _ => ?_
  refine (read_member_checks Json.integer_reads).step fun startRva started => ?_
  refine (read_member_checks Json.boolean_reads).step fun _ _ => ?_
  refine (read_member_checks Json.boolean_reads).step fun _ _ => ?_
  refine (read_member_checks Json.integer_reads).step fun _ _ => ?_
  have given := (read_member_ok_iff Json.integer_reads startRva).mp started
  refine (check_start_checks given).step fun _ _ => ?_
  exact (read_member_checks Json.integers_reads).finish

theorem of_json_ok_iff (entry : Json) (query : SymbolQuery) :
    ofJson entry = .ok query ↔ Described entry query := by
  cases entry with
  | object members => exact of_members_ok_iff query
  | _ =>
      simp only [ofJson, reduceCtorEq, false_iff]
      intro described
      exact absurd described.name (by simp [Json.member?])

theorem of_json_checks (entry : Json) : Checks (demands entry) (ofJson entry) := by
  intro defect
  rw [demands, first_unmet_cons_iff]
  cases entry with
  | object members =>
      have object : (Json.object members).IsObject := ⟨members, rfl⟩
      simp only [object, not_true_eq_false, false_and, true_and, false_or]
      exact of_members_checks defect
  | _ => simp [ofJson, Json.IsObject]

/-- The same description, or two objects with the same members under the known keys. -/
def Alike (entry other : Json) : Prop :=
  entry = other ∨ entry.IsObject ∧ other.IsObject ∧
    ∀ key ∈ knownKeys, entry.member? key = other.member? key

theorem of_members_agree {others : Members}
    (agree : ∀ key ∈ knownKeys, members.lookup key = others.lookup key) :
    ofMembers members = ofMembers others := by
  have named : nameMember members = nameMember others := by
    simp only [nameMember, agree "name" (by simp [knownKeys])]
  simp only [ofMembers, named, read_member_agree (agree "pattern" (by simp [knownKeys])),
    read_member_agree (agree "start_rva" (by simp [knownKeys])),
    read_member_agree (agree "relative" (by simp [knownKeys])),
    read_member_agree (agree "rip_relative" (by simp [knownKeys])),
    read_member_agree (agree "rip_offset" (by simp [knownKeys])),
    read_member_agree (agree "offsets" (by simp [knownKeys]))]

theorem of_json_alike {entry other : Json} (alike : Alike entry other) :
    ofJson entry = ofJson other := by
  rcases alike with rfl | ⟨⟨members, rfl⟩, ⟨others, rfl⟩, agree⟩
  · rfl
  · exact of_members_agree agree

end SymbolQuery

end DebugRecovery
