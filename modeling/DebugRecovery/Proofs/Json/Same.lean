import DebugRecovery.Proofs.Json.RoundTrip

/-!
# JSON values that are the same

Two values are the same where they differ at most in the order in which their
objects list their members, at any depth. A member of an object then has a
member of its name in every object that is the same. An assignment of JSON to
the values of a type is faithful if it tells them apart in both senses in which
JSON can be compared: as values, and as written text.
-/

set_option autoImplicit false

namespace DebugRecovery.Json

/-- The values are equal but for the order of the members of objects. -/
inductive Same : Json → Json → Prop where
  | null : Same .null .null
  | boolean (value : Bool) : Same (.boolean value) (.boolean value)
  | integer (value : Int) : Same (.integer value) (.integer value)
  | real (written : String) : Same (.real written) (.real written)
  | string (value : String) : Same (.string value) (.string value)
  | array (items others : List Json) (each : List.Forall₂ Same items others) :
      Same (.array items) (.array others)
  | object (members listed others : List (String × Json))
      (names : members.map Prod.fst = listed.map Prod.fst)
      (values : List.Forall₂ Same (members.map Prod.snd) (listed.map Prod.snd))
      (order : listed.Perm others) : Same (.object members) (.object others)

theorem same_refl (value : Json) : Same value value := by
  cases value with
  | null => exact .null
  | boolean value => exact .boolean value
  | integer value => exact .integer value
  | real written => exact .real written
  | string value => exact .string value
  | array items =>
      refine .array items items (List.forall₂_same.mpr fun item inside => ?_)
      exact same_refl item
  | object members =>
      refine .object members members members rfl (List.forall₂_same.mpr fun value inside => ?_)
        (List.Perm.refl members)
      exact same_refl value
termination_by sizeOf value
decreasing_by
  · have smaller := List.sizeOf_lt_of_mem inside
    simp only [Json.array.sizeOf_spec]
    omega
  · obtain ⟨member, listed, rfl⟩ := List.mem_map.mp inside
    have smaller := List.sizeOf_lt_of_mem listed
    obtain ⟨name, value⟩ := member
    simp only [Json.object.sizeOf_spec, Prod.mk.sizeOf_spec] at smaller ⊢
    omega

variable {items others : List Json} {members listed : List (String × Json)} {value other : Json}

theorem same_integer {number another : Int} (same : Same (.integer number) (.integer another)) :
    number = another := by
  cases same with
  | integer => rfl

theorem same_string {text another : String} (same : Same (.string text) (.string another)) :
    text = another := by
  cases same with
  | string => rfl

theorem same_items (same : Same (.array items) (.array others)) : List.Forall₂ Same items others := by
  cases same with
  | array _ _ each => exact each

theorem aligned_member {name : String}
    (names : members.map Prod.fst = listed.map Prod.fst)
    (values : List.Forall₂ Same (members.map Prod.snd) (listed.map Prod.snd))
    (inside : (name, value) ∈ members) : ∃ found, (name, found) ∈ listed ∧ Same value found := by
  induction members generalizing listed with
  | nil => contradiction
  | cons first members induction =>
      cases listed with
      | nil => contradiction
      | cons opposite listed =>
          simp only [List.map_cons, List.cons.injEq] at names
          obtain ⟨sameName, sameNames⟩ := names
          simp only [List.map_cons, List.forall₂_cons] at values
          obtain ⟨sameValue, sameValues⟩ := values
          rcases List.mem_cons.mp inside with rfl | further
          · exact ⟨opposite.2, by simp [show name = opposite.1 from sameName], sameValue⟩
          · obtain ⟨found, member, same⟩ := induction sameNames sameValues further
            exact ⟨found, List.mem_cons_of_mem _ member, same⟩

theorem same_member {name : String} (same : Same (.object members) (.object listed))
    (inside : (name, value) ∈ members) : ∃ found, (name, found) ∈ listed ∧ Same value found := by
  cases same with
  | object _ aligned _ names values order =>
      obtain ⟨found, member, alike⟩ := aligned_member names values inside
      exact ⟨found, order.mem_iff.mp member, alike⟩

/-- The value under a name is the same as the only one that the other object has under it. -/
theorem same_value (name : String) (same : Same (.object members) (.object listed))
    (inside : (name, value) ∈ members)
    (only : ∀ found, (name, found) ∈ listed → found = other) : Same value other := by
  obtain ⟨found, member, alike⟩ := same_member same inside
  exact only found member ▸ alike

/-- Different values of the type have different JSON, and it is written differently. -/
structure Faithful {Value : Type} (toJson : Value → Json) : Prop where
  values : ∀ left right, Same (toJson left) (toJson right) ↔ left = right
  texts : ∀ left right, write (toJson left) = write (toJson right) ↔ left = right

theorem faithful_of_plain {Value : Type} {toJson : Value → Json}
    (plain : ∀ item, Plain (toJson item))
    (told : ∀ left right, Same (toJson left) (toJson right) → left = right) : Faithful toJson where
  values := by
    intro left right
    refine ⟨told left right, ?_⟩
    rintro rfl
    exact same_refl _
  texts := by
    intro left right
    constructor
    · intro alike
      -- What is written is read back, so one text has one value.
      have first := read_write (plain left) (fits_unlimited (plain left))
      have second := read_write (plain right) (fits_unlimited (plain right))
      rw [alike, second] at first
      have equal : toJson right = toJson left := Except.ok.inj first
      apply told
      rw [equal]
      exact same_refl _
    · rintro rfl
      rfl

end DebugRecovery.Json
