import DebugRecovery.Proofs.Lookup.Arrival

/-!
# Displacements as signed distances

A displacement is a word that is added modulo 2^32 to the offset of its field,
which is the same as adding the signed distance that its bits tell. In a file of
at most 2^31 bytes the sum stays below 2^32. So it is exact where it does not lie
before the start of the file; where it does, it is moved up by 2^32 and comes
out behind all bytes of the file.
-/

set_option autoImplicit false

namespace DebugRecovery

/-- The four bytes from the place on are inside the data, and tell the distance in two's
complement. -/
def DistanceAt (data : ByteArray) (place distance : Int) : Prop :=
  ∃ word, WordAt data place word ∧ distance = (BitVec.ofNat 32 word).toInt

theorem distance_bounds {data : ByteArray} {place distance : Int}
    (read : DistanceAt data place distance) :
    -0x80000000 ≤ distance ∧ distance < 0x80000000 := by
  obtain ⟨word, _, rfl⟩ := read
  exact ⟨BitVec.le_toInt _, BitVec.toInt_lt⟩

/-- A word and the distance that it tells lead to the same sum. -/
theorem wrapped_distance (place : Int) (word : Nat) :
    (place + word) % displacementLimit =
      (place + (BitVec.ofNat 32 word).toInt) % displacementLimit := by
  have same : (word : Int) % displacementLimit =
      (BitVec.ofNat 32 word).toInt % displacementLimit := by
    rw [BitVec.toInt_ofNat']
    exact Int.bmod_emod.symm
  rw [Int.add_emod, same, ← Int.add_emod]

theorem wrapped_before_start {sum : Int} (before : sum < 0) (near : -displacementLimit ≤ sum) :
    sum % displacementLimit = sum + displacementLimit := by
  rw [← Int.add_emod_right, Int.emod_eq_of_lt (by omega) (by omega)]

namespace SymbolQuery

variable {query : SymbolQuery} {data : ByteArray} {place distance last : Int} {start : Nat}

/-- The query comes to a field at the place and takes the distance there for its displacement. -/
structure Displaces (query : SymbolQuery) (data : ByteArray) (place distance : Int) : Prop where
  searched : query.startRva = 0
  displaced : query.ripRelative = true
  absolute : query.relative = false
  reached : ∃ tokens start last, Signature.Spelled query.pattern tokens ∧
    tokens.First data start ∧ Follows data query.offsets start last ∧ place = last + query.extra
  read : DistanceAt data place distance

/-- What the query comes to from its field. -/
def destination (query : SymbolQuery) (place distance : Int) : Int :=
  (place + distance) % displacementLimit + query.ripOffset

theorem follow_of_displaces (displaces : query.Displaces data place distance)
    (followed : Follows data query.offsets start last) (same : place = last + query.extra)
    (bounded : IsAddress place) (imageBase : Int) (address : Address) :
    query.follow? data imageBase start = some address ↔
      IsAddress (query.destination place distance) ∧
        address = ⟨query.destination place distance, query.space⟩ := by
  obtain ⟨word, read, told⟩ := displaces.read
  rw [same] at read
  rw [follow_displaced_iff followed displaces.displaced displaces.absolute read, ← same,
    wrapped_distance, ← told, ← destination]
  simp only [bounded, true_and]

/-- From its field a query comes to its destination, if that is an address, and fails if not. -/
theorem address_of_displaces (displaces : query.Displaces data place distance)
    (bounded : IsAddress place) (imageBase : Int) :
    (IsAddress (query.destination place distance) →
      query.address data imageBase = .ok ⟨query.destination place distance, query.space⟩) ∧
    (¬ IsAddress (query.destination place distance) →
      query.address data imageBase = .error query.malformed) := by
  obtain ⟨tokens, start, last, spelled, first, followed, same⟩ := displaces.reached
  have begun := (start_ok_iff query data start).mpr ⟨tokens, spelled, first⟩
  have arrives := follow_of_displaces displaces followed same bounded imageBase
  rw [address_of_start displaces.searched begun]
  constructor
  · intro inside
    rw [(arrives _).mpr ⟨inside, rfl⟩]
  · intro outside
    have lost : query.follow? data imageBase start = none := by
      apply Option.eq_none_iff_forall_ne_some.mpr
      intro address reached
      exact outside ((arrives address).mp reached).1
    rw [lost]

/-- In a file of at most 2^31 bytes a displacement is a signed distance: from the field it leads to
just the address that it tells, if that is an address, and the query fails if not. A distance to
before the start of the file is found out: with no negative offset behind it, it makes the query fail
or leads behind the end of the file. -/
theorem displacements_followed_as_signed (small : data.size ≤ 0x80000000)
    (displaces : query.Displaces data place distance) (imageBase : Int) :
    (0 ≤ place + distance →
      (IsAddress (place + distance + query.ripOffset) →
        query.address data imageBase =
          .ok ⟨place + distance + query.ripOffset, query.space⟩) ∧
      (¬ IsAddress (place + distance + query.ripOffset) →
        query.address data imageBase = .error (.malformed query.pattern query.name))) ∧
    (place + distance < 0 → 0 ≤ query.ripOffset →
      query.address data imageBase = .error (.malformed query.pattern query.name) ∨
        ∃ address, query.address data imageBase = .ok address ∧
          0x80000000 ≤ address.value ∧ data.size ≤ address.value) := by
  obtain ⟨lower, upper⟩ := distance_bounds displaces.read
  obtain ⟨start, stop⟩ : Inside data place := by
    obtain ⟨_, read, _⟩ := displaces.read
    exact read.1
  have bounded : IsAddress place := by
    unfold IsAddress addressLimit
    omega
  obtain ⟨arrives, fails⟩ := address_of_displaces displaces bounded imageBase
  have limit : (displacementLimit : Int) = 0x100000000 := rfl
  constructor
  · intro inside
    have kept : query.destination place distance = place + distance + query.ripOffset := by
      rw [destination, Int.emod_eq_of_lt inside (by omega)]
    rw [kept] at arrives fails
    exact ⟨arrives, fails⟩
  · intro before onward
    have moved : query.destination place distance =
        place + distance + displacementLimit + query.ripOffset := by
      rw [destination, wrapped_before_start before (by omega)]
    by_cases inside : IsAddress (query.destination place distance)
    · refine Or.inr ⟨_, arrives inside, ?_, ?_⟩
      · dsimp only
        omega
      · dsimp only
        omega
    · exact Or.inl (fails inside)

/-- A call that refers to the first byte of the file, and a jump to its own displacement. The call is
not followed to its target: its displacement leads before the start. -/
def nearData : ByteArray := ⟨#[0xE8, 0xFB, 0xFF, 0xFF, 0xFF, 0xE9, 0xFC, 0xFF, 0xFF, 0xFF]⟩

def nearQuery (pattern : String) : SymbolQuery :=
  { name := "g", pattern, extra := 1, ripRelative := true, ripOffset := 4 }

theorem near_query_displaces (pattern : String) (start word : Nat)
    (found : (nearQuery pattern).start nearData = .ok start)
    (read : word? nearData (start + 1) = some word) :
    (nearQuery pattern).Displaces nearData (start + 1) (BitVec.ofNat 32 word).toInt where
  searched := rfl
  displaced := rfl
  absolute := rfl
  reached := by
    obtain ⟨tokens, spelled, first⟩ := (start_ok_iff _ nearData start).mp found
    exact ⟨tokens, start, start, spelled, first, .stop _, rfl⟩
  read := ⟨word, (word_some_iff nearData (start + 1) word).mp read, rfl⟩

theorem near_displacements_followed :
    (nearQuery "E9").Displaces nearData 6 (-4) ∧
      (nearQuery "E9").address nearData 0 = .ok ⟨6, .file⟩ ∧
      (nearQuery "E8").Displaces nearData 1 (-5) ∧
      (nearQuery "E8").address nearData 0 = .ok ⟨0x100000000, .file⟩ ∧
      ((nearQuery "E8").address nearData 0 = .error (.malformed "E8" "g") ∨
        ∃ address, (nearQuery "E8").address nearData 0 = .ok address ∧
          0x80000000 ≤ address.value ∧ nearData.size ≤ address.value) := by
  have jump : (nearQuery "E9").Displaces nearData 6 (-4) :=
    near_query_displaces "E9" 5 0xFFFFFFFC (by decide +kernel) (by decide +kernel)
  have call : (nearQuery "E8").Displaces nearData 1 (-5) :=
    near_query_displaces "E8" 0 0xFFFFFFFB (by decide +kernel) (by decide +kernel)
  have small : nearData.size ≤ 0x80000000 := by decide
  have jumped := (displacements_followed_as_signed small jump 0).1 (by decide)
  have called := (displacements_followed_as_signed small call 0).2 (by decide) (by decide)
  refine ⟨jump, jumped.1 ⟨by decide, by decide⟩, call, ?_, called⟩
  decide +kernel

end SymbolQuery

end DebugRecovery
