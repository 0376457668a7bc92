import DebugRecovery.Lookup
import DebugRecovery.Proofs.Section

/-!
# Addresses and outcomes of single queries

Every step from a match to an address is checked, and no step is taken after
one that fails. A failure is one of three, each with the name of its query. A
symbol stands in the range that its section has in the space of the address.
-/

set_option autoImplicit false

namespace DebugRecovery

theorem shift_some_iff (address : Nat) (distance : Int) (moved : Nat) :
    shift? address distance = some moved ↔
      (moved : Int) = address + distance ∧ moved < addressLimit := by
  simp only [shift?, Int.ofNat_eq_natCast]
  constructor
  · intro computed
    split at computed
    · obtain rfl := Option.some.inj computed
      omega
    · contradiction
  · rintro ⟨same, bounded⟩
    rw [← same, if_pos (by omega), Int.toNat_natCast]

namespace SymbolQuery

variable {query : SymbolQuery} {data : ByteArray} {imageBase : Int}

theorem address_of_override (nonzero : query.startRva ≠ 0) :
    query.address data imageBase = .ok ⟨query.startRva + imageBase, .memory⟩ := by
  simp only [address, trail, if_neg nonzero]

theorem address_of_start {offset : Nat} (searched : query.startRva = 0)
    (found : query.start data = .ok offset) :
    query.address data imageBase =
      match query.follow? data imageBase offset with
      | none => .error query.malformed
      | some address => .ok address := by
  cases followed : query.follow? data imageBase offset with
  | none => simp only [address, trail, if_pos searched, found, followed]
  | some reached => simp only [address, trail, if_pos searched, found, followed]

theorem address_ok_iff_follow {offset : Nat} (searched : query.startRva = 0)
    (found : query.start data = .ok offset) (address : Address) :
    query.address data imageBase = .ok address ↔
      query.follow? data imageBase offset = some address := by
  rw [address_of_start searched found]
  cases query.follow? data imageBase offset with
  | none => simp
  | some reached => simp

theorem address_of_failure {failure : LookupFailure} (searched : query.startRva = 0)
    (missing : query.start data = .error failure) :
    query.address data imageBase = .error failure := by
  simp only [address, trail, if_pos searched, missing]

theorem start_error {failure : LookupFailure} (missing : query.start data = .error failure) :
    failure = query.malformed ∨ failure = .absent query.name := by
  unfold start at missing
  split at missing
  · exact Or.inl (Except.error.inj missing).symm
  · split at missing
    · exact Or.inr (Except.error.inj missing).symm
    · contradiction

theorem address_error {failure : LookupFailure}
    (failed : query.address data imageBase = .error failure) :
    failure = query.malformed ∨ failure = .absent query.name := by
  by_cases searched : query.startRva = 0
  · cases begun : query.start data with
    | error missing =>
        rw [address_of_failure searched begun] at failed
        rw [← Except.error.inj failed]
        exact start_error begun
    | ok offset =>
        rw [address_of_start searched begun] at failed
        split at failed
        · exact Or.inl (Except.error.inj failed).symm
        · contradiction
  · rw [address_of_override searched] at failed
    contradiction

/-- The symbol under the name of the query at a place. -/
def symbolAt (query : SymbolQuery) (place : Placement) : Symbol Empty :=
  ⟨query.name, place.sectionIndex, place.offset, none⟩

end SymbolQuery

namespace Territory

variable {territory : Territory} {query : SymbolQuery}

theorem locate_ok_iff (territory : Territory) (query : SymbolQuery) (symbol : Symbol Empty) :
    territory.locate query = .ok symbol ↔
      ∃ address place, query.address territory.data territory.imageBase = .ok address ∧
        address.place? territory.sections = some place ∧ symbol = query.symbolAt place := by
  unfold locate placed
  constructor
  · intro found
    split at found
    · contradiction
    · rename_i address resolved
      split at found
      · contradiction
      · rename_i place mapped
        exact ⟨address, place, resolved, mapped, (Except.ok.inj found).symm⟩
  · rintro ⟨address, place, resolved, mapped, rfl⟩
    simp only [resolved, mapped, SymbolQuery.symbolAt]

theorem locate_error {failure : LookupFailure} (failed : territory.locate query = .error failure) :
    failure = query.malformed ∨ failure = .absent query.name ∨
      failure = .unmapped query.name query.pattern := by
  unfold locate placed at failed
  split at failed
  · rename_i cause resolved
    rw [← Except.error.inj failed]
    rcases SymbolQuery.address_error resolved with malformed | absent
    · exact Or.inl malformed
    · exact Or.inr (Or.inl absent)
  · split at failed
    · exact Or.inr (Or.inr (Except.error.inj failed).symm)
    · contradiction

theorem locate_at_iff (territory : Territory) (query : SymbolQuery) (place : Placement) :
    territory.locate query = .ok (query.symbolAt place) ↔
      ∃ address, query.address territory.data territory.imageBase = .ok address ∧
        address.place? territory.sections = some place := by
  rw [locate_ok_iff]
  constructor
  · rintro ⟨address, other, resolved, mapped, same⟩
    have index := congrArg Symbol.sectionIndex same
    have offset := congrArg Symbol.offset same
    obtain rfl : place = other := by
      cases place
      cases other
      exact congrArg₂ Placement.mk index offset
    exact ⟨address, resolved, mapped⟩
  · rintro ⟨address, resolved, mapped⟩
    exact ⟨address, place, resolved, mapped, rfl⟩

end Territory

end DebugRecovery
