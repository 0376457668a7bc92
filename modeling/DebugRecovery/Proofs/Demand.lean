import DebugRecovery.Proofs.Each

/-!
# Demands in order

An activity that checks demands one after the other and reports the first one
that is not met. What it reports is said by the list of its demands alone; the
lists of two activities, one after the other, are appended.
-/

set_option autoImplicit false

namespace DebugRecovery

/-- What is demanded, and what is reported where it is not met. -/
structure Demand (Defect : Type) where
  met : Prop
  defect : Defect

variable {Defect Other Value : Type}

/-- The demand with its defect told as a defect of something around it. -/
def Demand.under (wrap : Defect → Other) (demand : Demand Defect) : Demand Other :=
  ⟨demand.met, wrap demand.defect⟩

def AllMet (demands : List (Demand Defect)) : Prop := ∀ demand ∈ demands, demand.met

/-- The first demand that is not met has the defect. -/
def FirstUnmet (demands : List (Demand Defect)) (defect : Defect) : Prop :=
  ∃ front demand back, demands = front ++ demand :: back ∧ AllMet front ∧ ¬ demand.met ∧
    demand.defect = defect

section FirstUnmet

variable {demand : Demand Defect} {demands front back : List (Demand Defect)} {defect : Defect}

theorem first_unmet_cons_iff :
    FirstUnmet (demand :: demands) defect ↔
      ¬ demand.met ∧ demand.defect = defect ∨ demand.met ∧ FirstUnmet demands defect := by
  constructor
  · rintro ⟨front, other, back, same, met, unmet, told⟩
    cases front with
    | nil =>
        obtain ⟨rfl, rfl⟩ := List.cons.inj same
        exact Or.inl ⟨unmet, told⟩
    | cons first front =>
        obtain ⟨rfl, rfl⟩ := List.cons.inj same
        exact Or.inr ⟨met demand (by simp), front, other, back, rfl,
          fun earlier member => met earlier (by simp [member]), unmet, told⟩
  · rintro (⟨unmet, told⟩ | ⟨here, front, other, back, rfl, met, unmet, told⟩)
    · exact ⟨[], demand, demands, rfl, fun _ member => absurd member (by simp), unmet, told⟩
    · refine ⟨demand :: front, other, back, rfl, fun earlier member => ?_, unmet, told⟩
      rcases List.mem_cons.mp member with rfl | further
      · exact here
      · exact met earlier further

theorem not_first_unmet_nil : ¬ FirstUnmet ([] : List (Demand Defect)) defect := by
  rintro ⟨front, demand, back, same, _⟩
  cases front <;> contradiction

theorem all_met_or_first_unmet (demands : List (Demand Defect)) :
    AllMet demands ∨ ∃ defect, FirstUnmet demands defect := by
  induction demands with
  | nil => exact Or.inl fun _ member => absurd member (by simp)
  | cons demand demands induction =>
      by_cases here : demand.met
      · rcases induction with met | ⟨defect, unmet⟩
        · refine Or.inl fun other member => ?_
          rcases List.mem_cons.mp member with rfl | further
          · exact here
          · exact met other further
        · exact Or.inr ⟨defect, first_unmet_cons_iff.mpr (Or.inr ⟨here, unmet⟩)⟩
      · exact Or.inr ⟨demand.defect, first_unmet_cons_iff.mpr (Or.inl ⟨here, rfl⟩)⟩

theorem not_first_unmet_of_all_met (met : AllMet demands) : ¬ FirstUnmet demands defect := by
  rintro ⟨front, demand, back, rfl, _, unmet, _⟩
  exact unmet (met demand (by simp))

theorem first_unmet_append_iff :
    FirstUnmet (front ++ back) defect ↔
      FirstUnmet front defect ∨ AllMet front ∧ FirstUnmet back defect := by
  induction front with
  | nil => simp [not_first_unmet_nil, AllMet]
  | cons demand front induction =>
      rw [List.cons_append, first_unmet_cons_iff, first_unmet_cons_iff, induction]
      simp only [AllMet, List.forall_mem_cons]
      tauto

theorem first_unmet_under_iff (wrap : Defect → Other) (told : Other) :
    FirstUnmet (demands.map (Demand.under wrap)) told ↔
      ∃ defect, FirstUnmet demands defect ∧ wrap defect = told := by
  induction demands with
  | nil => simp [not_first_unmet_nil]
  | cons demand demands induction =>
      rw [List.map_cons, first_unmet_cons_iff, induction]
      simp only [first_unmet_cons_iff, Demand.under]
      constructor
      · rintro (⟨unmet, rfl⟩ | ⟨met, defect, further, rfl⟩)
        · exact ⟨demand.defect, Or.inl ⟨unmet, rfl⟩, rfl⟩
        · exact ⟨defect, Or.inr ⟨met, further⟩, rfl⟩
      · rintro ⟨defect, ⟨unmet, rfl⟩ | ⟨met, further⟩, rfl⟩
        · exact Or.inl ⟨unmet, rfl⟩
        · exact Or.inr ⟨met, defect, further, rfl⟩

end FirstUnmet

/-- The activity fails exactly when some demand is not met, and reports the first one. -/
def Checks (demands : List (Demand Defect)) (action : Except Defect Value) : Prop :=
  ∀ defect, action = .error defect ↔ FirstUnmet demands defect

namespace Checks

variable {front back : List (Demand Defect)} {action : Except Defect Value}

theorem all_met {value : Value} (checks : Checks front action) (finished : action = .ok value) :
    AllMet front := by
  rcases all_met_or_first_unmet front with met | ⟨defect, unmet⟩
  · exact met
  · have failed := (checks defect).mpr unmet
    rw [finished] at failed
    contradiction

theorem done (value : Value) : Checks ([] : List (Demand Defect)) (.ok value) := by
  intro defect
  simp [not_first_unmet_nil]

theorem bind {next : Value → Except Defect Other} (first : Checks front action)
    (further : ∀ value, action = .ok value → Checks back (next value)) :
    Checks (front ++ back) (action >>= next) := by
  intro defect
  rw [first_unmet_append_iff]
  cases ran : action with
  | error failure =>
      have unmet := (first failure).mp ran
      constructor
      · intro failed
        obtain rfl := Except.error.inj failed
        exact Or.inl unmet
      · rintro (here | ⟨met, _⟩)
        · rw [← ran, (first defect).mpr here]
          rfl
        · exact absurd unmet (not_first_unmet_of_all_met met)
  | ok value =>
      have met := first.all_met ran
      rw [except_ok_bind, further value ran defect]
      simp [not_first_unmet_of_all_met met, met]

theorem step {demand : Demand Defect} {next : Value → Except Defect Other}
    (first : Checks [demand] action)
    (further : ∀ value, action = .ok value → Checks back (next value)) :
    Checks (demand :: back) (action >>= next) := first.bind further

/-- Building something of the value demands nothing more. -/
theorem finish {build : Value → Other} (checks : Checks front action) :
    Checks front (action >>= fun value => .ok (build value)) := by
  have whole : Checks (front ++ []) (action >>= fun value => .ok (build value)) :=
    checks.bind fun value _ => Checks.done (build value)
  rwa [List.append_nil] at whole

theorem mapError (checks : Checks front action) (wrap : Defect → Other) :
    Checks (front.map (Demand.under wrap)) (action.mapError wrap) := by
  intro told
  rw [first_unmet_under_iff]
  simp only [← checks _]
  cases action with
  | error failure => simp [Except.mapError]
  | ok value => simp [Except.mapError]

end Checks

end DebugRecovery
