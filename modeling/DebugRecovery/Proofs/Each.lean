import Mathlib.Data.List.Forall2

/-!
# Items taken one by one

Items that are each turned into a value, where turning one can fail. When none
fails, items and values belong together in their order; when one does, those
before the first that fails have had their values.
-/

set_option autoImplicit false

namespace DebugRecovery

variable {Item Value Other Error : Type}

theorem except_bind_ok {action : Except Error Other} {next : Other → Except Error Value}
    {value : Value} (finished : (action >>= next) = .ok value) :
    ∃ middle, action = .ok middle ∧ next middle = .ok value := by
  cases ran : action with
  | error cause =>
      rw [ran] at finished
      contradiction
  | ok middle =>
      rw [ran] at finished
      exact ⟨middle, rfl, finished⟩

theorem except_bind_error {action : Except Error Other} {next : Other → Except Error Value}
    {cause : Error} (failed : (action >>= next) = .error cause) :
    action = .error cause ∨ ∃ middle, action = .ok middle ∧ next middle = .error cause := by
  cases ran : action with
  | error other =>
      rw [ran] at failed
      cases failed
      exact Or.inl rfl
  | ok middle =>
      rw [ran] at failed
      exact Or.inr ⟨middle, rfl, failed⟩

theorem except_ok_bind (value : Other) (next : Other → Except Error Value) :
    (Except.ok value >>= next) = next value := rfl

theorem except_map_error_ok {Told : Type} {action : Except Error Value} {wrap : Error → Told}
    {value : Value} (finished : action.mapError wrap = .ok value) : action = .ok value := by
  cases ran : action with
  | error cause =>
      rw [ran] at finished
      contradiction
  | ok other =>
      rw [ran] at finished
      exact congrArg Except.ok (Except.ok.inj finished)

/-- Of a computation that is told by two conditions, of which one holds, both are exact. -/
theorem except_iff_of_total {action : Except Error Value} {accepts : Value → Prop}
    {refuses : Error → Prop} (accepted : ∀ value, accepts value → action = .ok value)
    (refused : ∀ cause, refuses cause → action = .error cause)
    (total : (∃ value, accepts value) ∨ ∃ cause, refuses cause) :
    (∀ value, action = .ok value ↔ accepts value) ∧
      ∀ cause, action = .error cause ↔ refuses cause := by
  constructor
  · intro value
    refine ⟨fun finished => ?_, accepted value⟩
    rcases total with ⟨other, holds⟩ | ⟨cause, holds⟩
    · have same := (accepted other holds).symm.trans finished
      rwa [Except.ok.inj same] at holds
    · have failed := refused cause holds
      rw [finished] at failed
      contradiction
  · intro cause
    refine ⟨fun failed => ?_, refused cause⟩
    rcases total with ⟨value, holds⟩ | ⟨other, holds⟩
    · have finished := accepted value holds
      rw [failed] at finished
      contradiction
    · have same := (refused other holds).symm.trans failed
      rwa [Except.error.inj same] at holds

section Related

variable {relation : Item → Value → Prop} {items : List Item} {values : List Value}

theorem each_item (each : List.Forall₂ relation items values) {item : Item}
    (member : item ∈ items) : ∃ value ∈ values, relation item value := by
  induction each with
  | nil => contradiction
  | cons related _ induction =>
      rcases List.mem_cons.mp member with rfl | further
      · exact ⟨_, List.mem_cons_self, related⟩
      · obtain ⟨value, inside, here⟩ := induction further
        exact ⟨value, List.mem_cons_of_mem _ inside, here⟩

theorem each_value (each : List.Forall₂ relation items values) {value : Value}
    (member : value ∈ values) : ∃ item ∈ items, relation item value := by
  induction each with
  | nil => contradiction
  | cons related _ induction =>
      rcases List.mem_cons.mp member with rfl | further
      · exact ⟨_, List.mem_cons_self, related⟩
      · obtain ⟨item, inside, here⟩ := induction further
        exact ⟨item, List.mem_cons_of_mem _ inside, here⟩

theorem each_imp {other : Item → Value → Prop} (each : List.Forall₂ relation items values)
    (implied : ∀ item ∈ items, ∀ value ∈ values, relation item value → other item value) :
    List.Forall₂ other items values := by
  induction each with
  | nil => exact .nil
  | cons related _ induction =>
      apply List.Forall₂.cons
      · exact implied _ List.mem_cons_self _ List.mem_cons_self related
      · exact induction fun item inside value listed =>
          implied item (List.mem_cons_of_mem _ inside) value (List.mem_cons_of_mem _ listed)

theorem each_of_all (given : ∀ item ∈ items, ∃ value, relation item value) :
    ∃ values, List.Forall₂ relation items values := by
  induction items with
  | nil => exact ⟨[], .nil⟩
  | cons item items induction =>
      obtain ⟨value, related⟩ := given item List.mem_cons_self
      obtain ⟨values, each⟩ := induction fun other member =>
        given other (List.mem_cons_of_mem _ member)
      exact ⟨value :: values, .cons related each⟩

/-- Either every item has a value, or one is spoiled and those before it have values. -/
theorem each_or_first {spoiled : Item → Error → Prop}
    (decided : ∀ item ∈ items, (∃ value, relation item value) ∨ ∃ cause, spoiled item cause) :
    (∃ values, List.Forall₂ relation items values) ∨
      ∃ front item back values cause, items = front ++ item :: back ∧
        List.Forall₂ relation front values ∧ spoiled item cause := by
  induction items with
  | nil => exact Or.inl ⟨[], .nil⟩
  | cons item items induction =>
      have further := induction fun other member => decided other (List.mem_cons_of_mem _ member)
      rcases decided item List.mem_cons_self with ⟨value, related⟩ | ⟨cause, failed⟩
      · rcases further with ⟨values, each⟩ | ⟨front, other, back, values, cause, rfl, each, failed⟩
        · exact Or.inl ⟨value :: values, .cons related each⟩
        · exact Or.inr
            ⟨item :: front, other, back, value :: values, cause, rfl, .cons related each, failed⟩
      · exact Or.inr ⟨[], item, items, [], cause, rfl, .nil, failed⟩

theorem map_of_each {assign : Item → Value}
    (each : List.Forall₂ (fun item given => given = assign item) items values) :
    values = items.map assign := by
  induction each with
  | nil => rfl
  | cons same _ induction => rw [List.map_cons, ← same, ← induction]

end Related

theorem option_each_iff {action : Item → Option Value} {items : List Item} {values : List Value} :
    items.mapM action = some values ↔
      List.Forall₂ (fun item given => action item = some given) items values := by
  induction items generalizing values with
  | nil =>
      rw [List.mapM_nil, List.forall₂_nil_left_iff]
      exact ⟨fun same => (Option.some.inj same).symm, fun same => congrArg some same.symm⟩
  | cons item items induction =>
      rw [List.mapM_cons, List.forall₂_cons_left_iff]
      constructor
      · intro finished
        obtain ⟨given, first, finished⟩ := Option.bind_eq_some_iff.mp finished
        obtain ⟨rest, others, finished⟩ := Option.bind_eq_some_iff.mp finished
        exact ⟨given, rest, first, induction.mp others, (Option.some.inj finished).symm⟩
      · rintro ⟨given, rest, first, others, rfl⟩
        exact Option.bind_eq_some_iff.mpr ⟨given, first,
          Option.bind_eq_some_iff.mpr ⟨rest, induction.mpr others, rfl⟩⟩

section Failing

variable {action : Item → Except Error Value} {items : List Item} {cause : Error}

theorem except_each {values : List Value} (finished : items.mapM action = .ok values) :
    List.Forall₂ (fun item given => action item = .ok given) items values := by
  induction items generalizing values with
  | nil =>
      cases finished
      exact .nil
  | cons item items induction =>
      rw [List.mapM_cons] at finished
      obtain ⟨given, first, finished⟩ := except_bind_ok finished
      obtain ⟨rest, others, finished⟩ := except_bind_ok finished
      cases finished
      exact .cons first (induction others)

theorem except_each_iff {values : List Value} :
    items.mapM action = .ok values ↔
      List.Forall₂ (fun item given => action item = .ok given) items values := by
  constructor
  · exact except_each
  · intro each
    induction each with
    | nil => rfl
    | cons first _ others =>
        rw [List.mapM_cons, first, except_ok_bind, others, except_ok_bind]
        rfl

/-- The action fails on one of the items, after it has succeeded on those before. -/
def FailsFirst (action : Item → Except Error Value) (items : List Item) (cause : Error) : Prop :=
  ∃ front item back values, items = front ++ item :: back ∧
    List.Forall₂ (fun item given => action item = .ok given) front values ∧
    action item = .error cause

theorem except_each_error (failed : items.mapM action = .error cause) :
    FailsFirst action items cause := by
  induction items with
  | nil => cases failed
  | cons item items induction =>
      rw [List.mapM_cons] at failed
      cases first : action item with
      | error here =>
          rw [first] at failed
          cases failed
          exact ⟨[], item, items, [], rfl, .nil, first⟩
      | ok given =>
          cases others : items.mapM action with
          | error later =>
              rw [first, others] at failed
              cases failed
              obtain ⟨front, failing, back, values, rfl, each, here⟩ := induction others
              exact ⟨item :: front, failing, back, given :: values, rfl, .cons first each, here⟩
          | ok rest =>
              rw [first, others] at failed
              cases failed

theorem except_each_error_iff :
    items.mapM action = .error cause ↔ FailsFirst action items cause := by
  constructor
  · exact except_each_error
  · rintro ⟨front, item, back, values, rfl, each, failed⟩
    induction each with
    | nil =>
        rw [List.nil_append, List.mapM_cons, failed]
        rfl
    | cons first _ others =>
        rw [List.cons_append, List.mapM_cons, first, except_ok_bind, others]
        rfl

theorem fails_first_not_ok (fails : FailsFirst action items cause) (values : List Value) :
    items.mapM action ≠ .ok values := by
  intro finished
  obtain ⟨front, item, back, _, rfl, _, failed⟩ := fails
  have member : item ∈ front ++ item :: back := by simp
  obtain ⟨value, _, accepted⟩ := each_item (except_each finished) member
  rw [failed] at accepted
  contradiction

end Failing

end DebugRecovery
