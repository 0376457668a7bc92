/-!
Lists of pairs that assign a value to each key. The keys keep the order in which
they first came; a value that is put again takes the place of the old one.
-/

set_option autoImplicit false

namespace DebugRecovery.Association

variable {Key Value : Type} [DecidableEq Key]

def put (key : Key) (value : Value) : List (Key × Value) → List (Key × Value)
  | [] => [(key, value)]
  | (other, old) :: rest =>
      if other = key then (key, value) :: rest else (other, old) :: put key value rest

/-- The pairs put one after the other. -/
def ofPairs (pairs : List (Key × Value)) : List (Key × Value) :=
  pairs.foldl (fun entries pair => put pair.1 pair.2 entries) []

section Lookup

variable [BEq Key] [LawfulBEq Key]

theorem lookup_put_same (key : Key) (value : Value) (entries : List (Key × Value)) :
    (put key value entries).lookup key = some value := by
  induction entries with
  | nil => simp [put]
  | cons first rest induction =>
      obtain ⟨other, old⟩ := first
      by_cases same : other = key
      · simp [put, same]
      · have differs : (key == other) = false := by simp [Ne.symm same]
        simp [put, same, List.lookup_cons, differs, induction]

theorem lookup_put_other (key wanted : Key) (value : Value) (entries : List (Key × Value))
    (different : wanted ≠ key) : (put key value entries).lookup wanted = entries.lookup wanted := by
  have differs : (wanted == key) = false := by simp [different]
  induction entries with
  | nil => simp [put, List.lookup_cons, differs]
  | cons first rest induction =>
      obtain ⟨other, old⟩ := first
      by_cases same : other = key
      · simp [put, same, List.lookup_cons, differs]
      · simp [put, same, List.lookup_cons, induction]

end Lookup

theorem put_fresh (key : Key) (value : Value) (entries : List (Key × Value))
    (fresh : ∀ entry ∈ entries, entry.1 ≠ key) : put key value entries = entries ++ [(key, value)] := by
  induction entries with
  | nil => rfl
  | cons entry rest induction =>
      have differs : entry.1 ≠ key := fresh entry (by simp)
      have later := induction (by intro other inside; exact fresh other (by simp [inside]))
      simp [put, differs, later]

theorem of_pairs_snoc (pairs : List (Key × Value)) (pair : Key × Value) :
    ofPairs (pairs ++ [pair]) = put pair.1 pair.2 (ofPairs pairs) := by
  simp only [ofPairs, List.foldl_append, List.foldl_cons, List.foldl_nil]

/-- Of the values under one key the last one counts. -/
theorem lookup_of_pairs (pairs : List (Key × Value)) (key : Key) :
    (ofPairs pairs).lookup key = pairs.reverse.lookup key := by
  suffices backwards : ∀ reversed : List (Key × Value),
      (ofPairs reversed.reverse).lookup key = reversed.lookup key by
    simpa only [List.reverse_reverse] using backwards pairs.reverse
  intro reversed
  induction reversed with
  | nil => rfl
  | cons pair rest induction =>
      rw [List.reverse_cons, of_pairs_snoc, List.lookup_cons]
      by_cases same : key = pair.1
      · rw [same, lookup_put_same]
        simp
      · have differs : (key == pair.1) = false := by simp [same]
        rw [lookup_put_other pair.1 key pair.2 _ same, induction, differs]

theorem lookup_of_pairs_some_iff (pairs : List (Key × Value)) (key : Key) (value : Value) :
    (ofPairs pairs).lookup key = some value ↔
      ∃ front back, pairs = front ++ (key, value) :: back ∧ ∀ pair ∈ back, pair.1 ≠ key := by
  rw [lookup_of_pairs, List.lookup_eq_some_iff]
  constructor
  · rintro ⟨front, back, same, free⟩
    refine ⟨back.reverse, front.reverse, ?_, ?_⟩
    · have turned := congrArg List.reverse same
      simpa using turned
    · intro pair member
      exact (bne_iff_ne.mp (free pair (List.mem_reverse.mp member))).symm
  · rintro ⟨front, back, rfl, free⟩
    refine ⟨back.reverse, front.reverse, by simp, ?_⟩
    intro pair member
    exact bne_iff_ne.mpr (free pair (List.mem_reverse.mp member)).symm

theorem lookup_of_pairs_none_iff (pairs : List (Key × Value)) (key : Key) :
    (ofPairs pairs).lookup key = none ↔ ∀ pair ∈ pairs, pair.1 ≠ key := by
  rw [lookup_of_pairs, List.lookup_eq_none_iff]
  constructor
  · intro free pair member
    exact (bne_iff_ne.mp (free pair (List.mem_reverse.mpr member))).symm
  · intro free pair member
    exact bne_iff_ne.mpr (free pair (List.mem_reverse.mp member)).symm

end DebugRecovery.Association
