import DebugRecovery.Proofs.Lookup.Resolution

/-!
# Ends of searches

From the end of its chain a query comes to its address in one of a few ways: it
only moves, it goes on along a displacement, or it counts from the image base.
For each of them it is stated which sums have to be addresses, and that the
query then comes to the last of them and to nothing else.
-/

set_option autoImplicit false

namespace DebugRecovery

theorem AddressSpace.eq_of_memory_iff {left right : AddressSpace}
    (same : left = .memory ↔ right = .memory) : left = right := by
  cases left <;> cases right <;> simp_all

namespace SymbolQuery

variable {query : SymbolQuery} {data : ByteArray} {imageBase last : Int} {start : Nat}

/-- What an address counts in when no image base is taken off. -/
def space (query : SymbolQuery) : AddressSpace :=
  if query.offsets.isEmpty then .file else .memory

theorem space_memory_iff (query : SymbolQuery) :
    query.space = .memory ↔ query.offsets ≠ [] := by
  unfold space
  cases query.offsets <;> simp

theorem space_of_direct (direct : query.offsets = []) : query.space = .file := by
  rw [space, direct]
  rfl

theorem arrives_space {target : Int} {address : Address}
    (arrives : query.Arrives data imageBase start last target address)
    (absolute : query.relative = false) : address.space = query.space := by
  apply AddressSpace.eq_of_memory_iff
  rw [arrives.space, space_memory_iff, absolute]
  simp

theorem follow_along_iff (followed : Follows data query.offsets start last) (imageBase : Int)
    (address : Address) :
    query.follow? data imageBase start = some address ↔
      ∃ target, query.Arrives data imageBase start last target address := by
  rw [follow_some_iff]
  constructor
  · rintro ⟨other, target, arrives⟩
    obtain rfl := follows_unique followed arrives.chain
    exact ⟨target, arrives⟩
  · rintro ⟨target, arrives⟩
    exact ⟨last, target, arrives⟩

theorem follow_moved_iff (followed : Follows data query.offsets start last)
    (undisplaced : query.ripRelative = false) (absolute : query.relative = false)
    (imageBase : Int) (address : Address) :
    query.follow? data imageBase start = some address ↔
      IsAddress (last + query.extra) ∧ address = ⟨last + query.extra, query.space⟩ := by
  rw [follow_along_iff followed]
  constructor
  · rintro ⟨target, arrives⟩
    have value := arrives.absolute absolute
    rw [arrives.direct undisplaced] at value
    refine ⟨arrives.moved, ?_⟩
    rw [← value, ← arrives_space arrives absolute]
  · rintro ⟨moved, rfl⟩
    refine ⟨last + query.extra, followed, moved, fun _ => rfl, ?_, fun _ => rfl, ?_, ?_⟩
    · simp [undisplaced]
    · simp [absolute]
    · simp [space_memory_iff, absolute]

theorem follow_displaced_iff {word : Nat} (followed : Follows data query.offsets start last)
    (displaced : query.ripRelative = true) (absolute : query.relative = false)
    (read : WordAt data (last + query.extra) word) (imageBase : Int) (address : Address) :
    query.follow? data imageBase start = some address ↔
      IsAddress (last + query.extra) ∧
        IsAddress ((last + query.extra + word) % displacementLimit + query.ripOffset) ∧
        address =
          ⟨(last + query.extra + word) % displacementLimit + query.ripOffset, query.space⟩ := by
  rw [follow_along_iff followed]
  constructor
  · rintro ⟨target, arrives⟩
    obtain ⟨found, again, landed, inside⟩ := arrives.displaced displaced
    obtain rfl := word_unique read again
    have value := arrives.absolute absolute
    rw [landed] at inside value
    refine ⟨arrives.moved, inside, ?_⟩
    rw [← value, ← arrives_space arrives absolute]
  · rintro ⟨moved, inside, rfl⟩
    refine ⟨_, followed, moved, ?_, fun _ => ⟨word, read, rfl, inside⟩, fun _ => rfl, ?_, ?_⟩
    · simp [displaced]
    · simp [absolute]
    · simp [space_memory_iff, absolute]

theorem follow_based_iff (followed : Follows data query.offsets start last)
    (undisplaced : query.ripRelative = false) (based : query.relative = true)
    (imageBase : Int) (address : Address) :
    query.follow? data imageBase start = some address ↔
      IsAddress (last + query.extra) ∧ IsAddress (last + query.extra - imageBase) ∧
        address = ⟨last + query.extra - imageBase, .memory⟩ := by
  rw [follow_along_iff followed]
  constructor
  · rintro ⟨target, arrives⟩
    obtain ⟨value, inside⟩ := arrives.based based
    rw [arrives.direct undisplaced] at value
    have space : address.space = .memory := arrives.space.mpr (Or.inr based)
    rw [value] at inside
    refine ⟨arrives.moved, inside, ?_⟩
    rw [← value, ← space]
  · rintro ⟨moved, inside, rfl⟩
    refine ⟨last + query.extra, followed, moved, fun _ => rfl, ?_, ?_, fun _ => ⟨rfl, inside⟩, ?_⟩
    · simp [undisplaced]
    · simp [based]
    · simp [based]

end SymbolQuery

end DebugRecovery
