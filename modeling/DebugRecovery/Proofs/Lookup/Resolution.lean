import DebugRecovery.Bytes
import DebugRecovery.Proofs.Lookup
import DebugRecovery.Proofs.Signature

/-!
# What a search resolves to

A search starts at the first place where its signature occurs and computes with
integers from there: it follows the chain of words, moves, adds a displacement
that wraps at 32 bits, and counts from the image base. Every sum has to be an
address of 64 bits and every word has to lie inside the data. The search resolves
exactly when all of them do, and to the address that the computation tells. It
fails in two ways only; a word that is not inside the data is never read.
-/

set_option autoImplicit false

namespace DebugRecovery

/-- The integer is an address of 64 bits. -/
def IsAddress (value : Int) : Prop := 0 ≤ value ∧ value < addressLimit

/-- Four bytes lie inside the data from the place on. -/
def Inside (data : ByteArray) (place : Int) : Prop := 0 ≤ place ∧ place + 4 ≤ data.size

/-- The four bytes from the place on are inside the data, and `word` is their number, the least
significant byte first. -/
def WordAt (data : ByteArray) (place : Int) (word : Nat) : Prop :=
  Inside data place ∧ word = numberAt data place.toNat 4

/-- From one address to another along a chain: each step adds its distance and goes on with the word
that stands there. -/
inductive Follows (data : ByteArray) : List Int → Int → Int → Prop where
  | stop (address : Int) : Follows data [] address address
  | step {address distance last : Int} {rest : List Int} (word : Nat)
      (moved : IsAddress (address + distance)) (read : WordAt data (address + distance) word)
      (further : Follows data rest word last) : Follows data (distance :: rest) address last

theorem word_some_iff (data : ByteArray) (offset word : Nat) :
    word? data offset = some word ↔ WordAt data offset word := by
  unfold word? WordAt Inside
  by_cases inside : offset + 4 ≤ data.size
  · have number : numberAt data offset 4 =
        data[offset].toNat + 256 * (data[offset + 1].toNat +
          256 * (data[offset + 2].toNat + 256 * data[offset + 3].toNat)) := by
      have second : offset + 1 < data.size := by omega
      have third : offset + 1 + 1 < data.size := by omega
      have fourth : offset + 1 + 1 + 1 < data.size := by omega
      simp only [numberAt, slice, littleEndian, dif_pos (show offset < data.size by omega), second,
        third, fourth, ↓reduceDIte, Nat.mul_zero, Nat.add_zero]
    rw [dif_pos inside, Option.some.injEq, Int.toNat_natCast, number]
    have bounds : (0 : Int) ≤ offset ∧ (offset : Int) + 4 ≤ data.size := by omega
    simp only [bounds, true_and, eq_comm]
  · rw [dif_neg inside]
    simp only [reduceCtorEq, false_iff]
    rintro ⟨bounds, _⟩
    omega

theorem shift_some_iff_address (address : Nat) (distance : Int) (moved : Nat) :
    shift? address distance = some moved ↔
      (moved : Int) = address + distance ∧ IsAddress (address + distance) := by
  unfold IsAddress
  rw [shift_some_iff]
  omega

theorem shift_exists {address : Nat} {distance : Int} (reached : IsAddress (address + distance)) :
    ∃ moved : Nat, shift? address distance = some moved ∧ (moved : Int) = address + distance := by
  obtain ⟨moved, same⟩ := Int.eq_ofNat_of_zero_le reached.1
  have landed : (moved : Int) = address + distance := same.symm
  exact ⟨moved, (shift_some_iff_address address distance moved).mpr ⟨landed, reached⟩, landed⟩

namespace SymbolQuery

variable {query : SymbolQuery} {data : ByteArray} {imageBase start : Int} {address : Address}

theorem dereference_some_iff (data : ByteArray) (start word : Nat) (distance : Int) :
    dereference? data start distance = some word ↔
      IsAddress (start + distance) ∧ WordAt data (start + distance) word := by
  refine Option.bind_eq_some_iff.trans ?_
  constructor
  · rintro ⟨place, moved, read⟩
    obtain ⟨same, reached⟩ := (shift_some_iff_address start distance place).mp moved
    have there := (word_some_iff data place word).mp read
    exact ⟨reached, same ▸ there⟩
  · rintro ⟨reached, there⟩
    obtain ⟨place, moved, same⟩ := shift_exists reached
    exact ⟨place, moved, (word_some_iff data place word).mpr (same ▸ there)⟩

theorem chain_some_iff (data : ByteArray) (offsets : List Int) (start last : Nat) :
    offsets.foldlM (dereference? data) start = some last ↔ Follows data offsets start last := by
  induction offsets generalizing start with
  | nil =>
      rw [List.foldlM_nil]
      constructor
      · intro same
        obtain rfl := Option.some.inj same
        exact .stop _
      · intro followed
        generalize ended : (last : Int) = stop at followed
        cases followed
        exact congrArg some (Int.ofNat.inj ended.symm)
  | cons distance rest induction =>
      rw [List.foldlM_cons]
      constructor
      · intro followed
        obtain ⟨word, step, others⟩ := Option.bind_eq_some_iff.mp followed
        obtain ⟨moved, read⟩ := (dereference_some_iff data start word distance).mp step
        exact .step word moved read ((induction word).mp others)
      · rintro (_ | ⟨word, moved, read, further⟩)
        have step := (dereference_some_iff data start word distance).mpr ⟨moved, read⟩
        exact Option.bind_eq_some_iff.mpr ⟨word, step, (induction word).mpr further⟩

/-- What a chain ends with is the number of a word, or where it started. -/
theorem follows_natural {offsets : List Int} {start : Nat} {last : Int}
    (followed : Follows data offsets start last) : ∃ reached : Nat, last = reached := by
  generalize begun : (start : Int) = origin at followed
  induction followed generalizing start with
  | stop address => exact ⟨start, begun.symm⟩
  | step word _ _ _ induction => exact induction rfl

/-- How a query comes from the start of a match to an address: `last` ends its chain, and `target` is
what it comes to before the image base is taken off. -/
structure Arrives (query : SymbolQuery) (data : ByteArray) (imageBase start last target : Int)
    (address : Address) : Prop where
  chain : Follows data query.offsets start last
  moved : IsAddress (last + query.extra)
  direct : query.ripRelative = false → target = last + query.extra
  displaced : query.ripRelative = true → ∃ word, WordAt data (last + query.extra) word ∧
    target = (last + query.extra + word) % displacementLimit + query.ripOffset ∧ IsAddress target
  absolute : query.relative = false → address.value = target
  based : query.relative = true → address.value = target - imageBase ∧ IsAddress address.value
  space : address.space = .memory ↔ query.offsets ≠ [] ∨ query.relative = true

/-- A place from which a query would read a word: that of a step of its chain, after the steps
before it, or that of its displacement. -/
inductive Visits (query : SymbolQuery) (data : ByteArray) (start : Int) : Int → Prop where
  | step (front back : List Int) (distance reached : Int)
      (split : query.offsets = front ++ distance :: back)
      (followed : Follows data front start reached) : Visits query data start (reached + distance)
  | displacement (last : Int) (displaced : query.ripRelative = true)
      (followed : Follows data query.offsets start last) :
      Visits query data start (last + query.extra)

theorem displace_some_iff_word (query : SymbolQuery) (data : ByteArray) (field target : Nat) :
    query.displace? data field = some target ↔
      ∃ word, WordAt data field word ∧
        (target : Int) = (field + word : Int) % displacementLimit + query.ripOffset ∧
        IsAddress target := by
  refine Option.bind_eq_some_iff.trans ?_
  constructor
  · rintro ⟨word, read, moved⟩
    obtain ⟨same, reached⟩ := (shift_some_iff_address _ _ _).mp moved
    refine ⟨word, (word_some_iff data field word).mp read, ?_, ?_⟩
    · rw [same]
      norm_cast
    · rw [same]
      exact reached
  · rintro ⟨word, read, same, reached⟩
    refine ⟨word, (word_some_iff data field word).mpr read, ?_⟩
    apply (shift_some_iff_address _ _ _).mpr
    have landed : (target : Int) =
        ((field + word) % displacementLimit : Nat) + query.ripOffset := by
      rw [same]
      norm_cast
    exact ⟨landed, landed ▸ reached⟩

theorem target_some_iff (query : SymbolQuery) (data : ByteArray) (field target : Nat) :
    (if query.ripRelative then query.displace? data field else some field) = some target ↔
      (query.ripRelative = false → (target : Int) = field) ∧
        (query.ripRelative = true → ∃ word, WordAt data field word ∧
          (target : Int) = (field + word : Int) % displacementLimit + query.ripOffset ∧
          IsAddress target) := by
  cases query.ripRelative with
  | false =>
      simp only [Bool.false_eq_true, ↓reduceIte, Option.some.injEq, forall_const, false_implies,
        and_true]
      omega
  | true => simp [displace_some_iff_word]

/-- The last step of `follow?`, which takes off the image base and tells the space. -/
theorem based_some_iff (query : SymbolQuery) (imageBase : Int) (target : Nat) (address : Address) :
    (if query.relative then
        (shift? target (-imageBase)).bind fun distance => some ⟨distance, .memory⟩
      else some ⟨target, if query.offsets.isEmpty then .file else .memory⟩) = some address ↔
      (query.relative = false → address.value = target) ∧
        (query.relative = true → address.value = target - imageBase ∧ IsAddress address.value) ∧
        (address.space = .memory ↔ query.offsets ≠ [] ∨ query.relative = true) := by
  obtain ⟨value, space⟩ := address
  cases query.relative with
  | false =>
      have turned : (target : Int) = value ↔ value = target := eq_comm
      rw [if_neg (by simp), Option.some.injEq, Address.mk.injEq, turned]
      cases query.offsets <;> cases space <;> simp
  | true =>
      rw [if_pos rfl, Option.bind_eq_some_iff]
      simp only [Option.some.injEq, Address.mk.injEq, shift_some_iff_address]
      constructor
      · rintro ⟨distance, ⟨same, reached⟩, rfl, rfl⟩
        exact ⟨by simp, fun _ => ⟨same, same ▸ reached⟩, by simp⟩
      · rintro ⟨_, based, there⟩
        obtain ⟨rfl, reached⟩ := based trivial
        have shifted : IsAddress (target + -imageBase) := reached
        obtain ⟨moved, _, same⟩ := shift_exists shifted
        exact ⟨moved, ⟨same, reached⟩, same, (there.mpr (Or.inr trivial)).symm⟩

theorem follow_eq (query : SymbolQuery) (data : ByteArray) (imageBase : Int) (start : Nat) :
    query.follow? data imageBase start =
      (query.offsets.foldlM (dereference? data) start).bind fun last =>
        (shift? last query.extra).bind fun field =>
          (if query.ripRelative then query.displace? data field else some field).bind fun target =>
            if query.relative then
              (shift? target (-imageBase)).bind fun distance => some ⟨distance, .memory⟩
            else some ⟨target, if query.offsets.isEmpty then .file else .memory⟩ := by
  unfold follow?
  cases query.ripRelative <;> rfl

theorem follow_some_iff (query : SymbolQuery) (data : ByteArray) (imageBase : Int) (start : Nat)
    (address : Address) :
    query.follow? data imageBase start = some address ↔
      ∃ last target, query.Arrives data imageBase start last target address := by
  rw [follow_eq]
  constructor
  · intro followed
    obtain ⟨last, chain, followed⟩ := Option.bind_eq_some_iff.mp followed
    obtain ⟨field, moved, followed⟩ := Option.bind_eq_some_iff.mp followed
    obtain ⟨target, displaced, followed⟩ := Option.bind_eq_some_iff.mp followed
    obtain ⟨same, reached⟩ := (shift_some_iff_address last query.extra field).mp moved
    obtain ⟨direct, displacement⟩ := (target_some_iff query data field target).mp displaced
    obtain ⟨absolute, based, space⟩ :=
      (based_some_iff query imageBase target address).mp followed
    rw [same] at direct displacement
    exact ⟨last, target, (chain_some_iff data query.offsets start last).mp chain, reached, direct,
      displacement, absolute, based, space⟩
  · rintro ⟨last, target, arrives⟩
    obtain ⟨last, rfl⟩ := follows_natural arrives.chain
    obtain ⟨field, moved, same⟩ := shift_exists arrives.moved
    have direct := arrives.direct
    have displacement := arrives.displaced
    rw [← same] at direct displacement
    have natural : ∃ number : Nat, target = number := by
      cases displacing : query.ripRelative with
      | false => exact ⟨field, direct displacing⟩
      | true =>
          obtain ⟨_, _, _, reached⟩ := displacement displacing
          exact Int.eq_ofNat_of_zero_le reached.1
    obtain ⟨target, rfl⟩ := natural
    refine Option.bind_eq_some_iff.mpr
      ⟨last, (chain_some_iff data query.offsets start last).mpr arrives.chain, ?_⟩
    refine Option.bind_eq_some_iff.mpr ⟨field, moved, ?_⟩
    refine Option.bind_eq_some_iff.mpr
      ⟨target, (target_some_iff query data field target).mpr ⟨direct, displacement⟩, ?_⟩
    exact (based_some_iff query imageBase target address).mpr
      ⟨arrives.absolute, arrives.based, arrives.space⟩

/-- The signature is one, and first occurs at `start`, from where the query comes to the address. -/
def Resolves (query : SymbolQuery) (data : ByteArray) (imageBase : Int) (address : Address) :
    Prop :=
  ∃ tokens start last target, Signature.Spelled query.pattern tokens ∧
    tokens.First data start ∧ query.Arrives data imageBase start last target address

/-- The signature is one, and occurs nowhere in the data. -/
def Lacks (query : SymbolQuery) (data : ByteArray) : Prop :=
  ∃ tokens, Signature.Spelled query.pattern tokens ∧ ∀ offset, ¬ tokens.Occurs data offset

theorem start_ok_iff (query : SymbolQuery) (data : ByteArray) (offset : Nat) :
    query.start data = .ok offset ↔
      ∃ tokens, Signature.Spelled query.pattern tokens ∧ tokens.First data offset := by
  simp only [← Signature.of_text_some_iff, ← Signature.find_some_iff_first]
  unfold start Signature.ofText
  cases Signature.ofText? query.pattern with
  | none => simp
  | some tokens =>
      cases found : tokens.find? data with
      | none => simp [found]
      | some first => simp [found]

theorem start_absent_iff (query : SymbolQuery) (data : ByteArray) :
    query.start data = .error (.absent query.name) ↔ query.Lacks data := by
  unfold Lacks
  simp only [← Signature.of_text_some_iff, ← Signature.find_none_iff]
  unfold start malformed Signature.ofText
  cases Signature.ofText? query.pattern with
  | none => simp
  | some tokens =>
      cases found : tokens.find? data with
      | none => simp [found]
      | some first => simp [found]

theorem address_ok_iff_resolves (searched : query.startRva = 0) (address : Address) :
    query.address data imageBase = .ok address ↔ query.Resolves data imageBase address := by
  unfold Resolves
  constructor
  · intro resolved
    cases begun : query.start data with
    | error failure =>
        rw [address_of_failure searched begun] at resolved
        contradiction
    | ok offset =>
        obtain ⟨tokens, spelled, first⟩ := (start_ok_iff query data offset).mp begun
        obtain ⟨last, target, arrives⟩ := (follow_some_iff query data imageBase offset address).mp
          ((address_ok_iff_follow searched begun address).mp resolved)
        exact ⟨tokens, offset, last, target, spelled, first, arrives⟩
  · rintro ⟨tokens, offset, last, target, spelled, first, arrives⟩
    have begun := (start_ok_iff query data offset).mpr ⟨tokens, spelled, first⟩
    apply (address_ok_iff_follow searched begun address).mpr
    exact (follow_some_iff query data imageBase offset address).mpr ⟨last, target, arrives⟩

theorem address_absent_iff (searched : query.startRva = 0) :
    query.address data imageBase = .error (.absent query.name) ↔ query.Lacks data := by
  rw [← start_absent_iff]
  cases begun : query.start data with
  | error failure => rw [address_of_failure searched begun]; simp
  | ok offset =>
      rw [address_of_start searched begun]
      cases query.follow? data imageBase offset <;> simp [malformed]

theorem word_unique {place : Int} {word other : Nat} (read : WordAt data place word)
    (again : WordAt data place other) : word = other := by
  rw [read.2, again.2]

theorem follows_unique {offsets : List Int} {last other : Int}
    (followed : Follows data offsets start last) (again : Follows data offsets start other) :
    last = other := by
  induction followed with
  | stop => cases again; rfl
  | step word _ read _ induction =>
      cases again with
      | step found _ readToo further =>
          obtain rfl := word_unique read readToo
          exact induction further

/-- A chain that can be followed to its end has a word at each of its steps. -/
theorem step_inside {front back : List Int} {distance reached last : Int}
    (whole : Follows data (front ++ distance :: back) start last)
    (followed : Follows data front start reached) : Inside data (reached + distance) := by
  induction followed with
  | stop =>
      cases whole with
      | step _ _ read _ => exact read.1
  | step word _ read _ induction =>
      cases whole with
      | step found _ readToo further =>
          obtain rfl := word_unique read readToo
          exact induction further

theorem visit_inside {last target place : Int}
    (arrives : query.Arrives data imageBase start last target address)
    (visits : query.Visits data start place) : Inside data place := by
  cases visits with
  | step front back distance reached split followed =>
      have whole := arrives.chain
      rw [split] at whole
      exact step_inside whole followed
  | displacement ended displaced followed =>
      obtain rfl := follows_unique arrives.chain followed
      obtain ⟨word, read, _⟩ := arrives.displaced displaced
      exact read.1

/-- A search resolves to the address that it computes, or it fails: with its name when its signature
occurs nowhere, with its pattern and name in every other case. Where it would read a word that is not
inside the data it fails before. -/
theorem resolution_as_computed (query : SymbolQuery) (data : ByteArray) (imageBase : Int)
    (searched : query.startRva = 0) :
    (∀ address, query.address data imageBase = .ok address ↔
      query.Resolves data imageBase address) ∧
    (∀ failure, query.address data imageBase = .error failure ↔
      (failure = .absent query.name ∧ query.Lacks data) ∨
      (failure = .malformed query.pattern query.name ∧ ¬ query.Lacks data ∧
        ∀ address, ¬ query.Resolves data imageBase address)) ∧
    (∀ tokens start place, Signature.Spelled query.pattern tokens → tokens.First data start →
      query.Visits data start place → Inside data place ∨
        query.address data imageBase = .error (.malformed query.pattern query.name)) := by
  have resolved : ∀ address, query.address data imageBase = .ok address ↔
      query.Resolves data imageBase address := address_ok_iff_resolves searched
  have lacking : query.address data imageBase = .error (.absent query.name) ↔ query.Lacks data :=
    address_absent_iff searched
  refine ⟨resolved, fun failure => ⟨fun failed => ?_, ?_⟩, ?_⟩
  · have unresolved : ∀ address, ¬ query.Resolves data imageBase address := by
      intro address resolves
      rw [(resolved address).mpr resolves] at failed
      contradiction
    rcases address_error failed with rfl | rfl
    · refine Or.inr ⟨rfl, fun lacks => ?_, unresolved⟩
      rw [lacking.mpr lacks] at failed
      exact absurd (Except.error.inj failed) (by simp [malformed])
    · exact Or.inl ⟨rfl, lacking.mp failed⟩
  · rintro (⟨rfl, lacks⟩ | ⟨rfl, present, unresolved⟩)
    · exact lacking.mpr lacks
    · cases outcome : query.address data imageBase with
      | ok address => exact absurd ((resolved address).mp outcome) (unresolved address)
      | error failure =>
          rcases address_error outcome with rfl | rfl
          · rfl
          · exact absurd (lacking.mp outcome) present
  · intro tokens start place spelled first visits
    have begun := (start_ok_iff query data start).mpr ⟨tokens, spelled, first⟩
    cases followed : query.follow? data imageBase start with
    | none =>
        rw [address_of_start searched begun, followed]
        exact Or.inr rfl
    | some address =>
        obtain ⟨last, target, arrives⟩ :=
          (follow_some_iff query data imageBase start address).mp followed
        exact Or.inl (visit_inside arrives visits)

def backwardData : ByteArray := ⟨#[0x90, 0xA1, 7, 0, 0, 0, 0xCC, 0xFE, 0xFF, 0xFF, 0xFF]⟩

def backwardQuery : SymbolQuery :=
  { name := "g", pattern := "a1 ? ?? ?? ??", offsets := [1], ripRelative := true, ripOffset := 4,
    relative := true }

theorem backward_query_resolves :
    backwardQuery.startRva = 0 ∧ backwardQuery.address backwardData 2 = .ok ⟨7, .memory⟩ ∧
      backwardQuery.Resolves backwardData 2 ⟨7, .memory⟩ := by
  have outcome : backwardQuery.address backwardData 2 = .ok ⟨7, .memory⟩ := by decide +kernel
  refine ⟨rfl, outcome, ?_⟩
  exact ((backwardQuery.resolution_as_computed backwardData 2 rfl).1 ⟨7, .memory⟩).mp outcome

end SymbolQuery

end DebugRecovery
