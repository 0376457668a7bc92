import DebugRecovery.Proofs.Lookup.Arrival

/-!
# Two routes to a byte of a section

A byte that a section has both in the file and in memory can be asked for by
its offset in the file, as the place where a signature matches, and by its
address in memory, as a word that a chain of words ends with. Both routes lead
to the same place. Each of them fails exactly when the number that it comes to
is no address: an address counted from the image base may not be negative, even
where a section of the table starts before the base.
-/

set_option autoImplicit false

namespace DebugRecovery

theorem word_lt {data : ByteArray} {offset word : Nat} (read : word? data offset = some word) :
    word < displacementLimit := by
  unfold word? at read
  split at read
  · rename_i inside
    obtain rfl := Option.some.inj read
    have first := data[offset].toNat_lt
    have second := data[offset + 1].toNat_lt
    have third := data[offset + 2].toNat_lt
    have fourth := data[offset + 3].toNat_lt
    unfold displacementLimit
    omega
  · contradiction

namespace SymbolQuery

variable {query : SymbolQuery} {data : ByteArray} {start word : Nat}

/-- The query asks for the place where its signature first matches. -/
structure Plain (query : SymbolQuery) (data : ByteArray) (start : Nat) : Prop where
  searched : query.startRva = 0
  direct : query.offsets = []
  unmoved : query.extra = 0
  undisplaced : query.ripRelative = false
  absolute : query.relative = false
  matched : query.start data = .ok start

/-- The query follows a chain of words that ends with `word`, and takes it relative to the image
base. -/
structure Chained (query : SymbolQuery) (data : ByteArray) (word : Nat) : Prop where
  searched : query.startRva = 0
  chain : query.offsets ≠ []
  unmoved : query.extra = 0
  undisplaced : query.ripRelative = false
  based : query.relative = true
  followed : ∃ start, query.start data = .ok start ∧
    query.offsets.foldlM (dereference? data) start = some word

/-- The last step of a chain reads its result from the file. -/
theorem chain_word_lt {offsets : List Int} (chain : offsets ≠ [])
    (followed : offsets.foldlM (dereference? data) start = some word) :
    word < displacementLimit := by
  induction offsets generalizing start with
  | nil => contradiction
  | cons distance rest induction =>
      rw [List.foldlM_cons] at followed
      obtain ⟨next, step, others⟩ := Option.bind_eq_some_iff.mp followed
      cases rest with
      | nil =>
          obtain rfl := Option.some.inj others
          obtain ⟨place, _, read⟩ := Option.bind_eq_some_iff.mp step
          exact word_lt read
      | cons distance others' => exact induction (by simp) others

theorem follow_of_plain (plain : query.Plain data start) (imageBase : Int) (address : Address) :
    query.follow? data imageBase start = some address ↔
      start < addressLimit ∧ address = ⟨start, .file⟩ := by
  have followed : Follows data query.offsets start start := by
    rw [plain.direct]
    exact .stop _
  rw [follow_moved_iff followed plain.undisplaced plain.absolute, plain.unmoved, Int.add_zero,
    space_of_direct plain.direct]
  simp only [IsAddress, Int.natCast_nonneg, true_and, Int.ofNat_lt]

theorem follow_of_chain (chained : query.Chained data word)
    (followed : query.offsets.foldlM (dereference? data) start = some word) (imageBase : Int)
    (address : Address) :
    query.follow? data imageBase start = some address ↔
      0 ≤ word - imageBase ∧ word - imageBase < addressLimit ∧
        address = ⟨word - imageBase, .memory⟩ := by
  have bound := chain_word_lt chained.chain followed
  have reached : IsAddress word := by
    unfold displacementLimit at bound
    unfold IsAddress addressLimit
    omega
  have chain := (chain_some_iff data query.offsets start word).mp followed
  rw [follow_based_iff chain chained.undisplaced chained.based, chained.unmoved, Int.add_zero]
  simp only [reached, true_and]
  rw [IsAddress, and_assoc]

end SymbolQuery

namespace Territory

variable {territory : Territory} {query : SymbolQuery} {start word : Nat}

theorem locate_plain_iff (plain : query.Plain territory.data start) (place : Placement) :
    territory.locate query = .ok (query.symbolAt place) ↔
      start < addressLimit ∧
        (⟨start, .file⟩ : Address).place? territory.sections = some place := by
  rw [locate_at_iff]
  simp only [SymbolQuery.address_ok_iff_follow plain.searched plain.matched,
    SymbolQuery.follow_of_plain plain]
  constructor
  · rintro ⟨_, ⟨bounded, rfl⟩, mapped⟩
    exact ⟨bounded, mapped⟩
  · rintro ⟨bounded, mapped⟩
    exact ⟨_, ⟨bounded, rfl⟩, mapped⟩

theorem locate_chain_iff (chained : query.Chained territory.data word) (place : Placement) :
    territory.locate query = .ok (query.symbolAt place) ↔
      0 ≤ word - territory.imageBase ∧ word - territory.imageBase < addressLimit ∧
        (⟨word - territory.imageBase, .memory⟩ : Address).place? territory.sections =
          some place := by
  obtain ⟨start, matched, followed⟩ := chained.followed
  rw [locate_at_iff]
  simp only [SymbolQuery.address_ok_iff_follow chained.searched matched,
    SymbolQuery.follow_of_chain chained followed]
  constructor
  · rintro ⟨_, ⟨positive, bounded, rfl⟩, mapped⟩
    exact ⟨positive, bounded, mapped⟩
  · rintro ⟨positive, bounded, mapped⟩
    exact ⟨_, ⟨positive, bounded, rfl⟩, mapped⟩

/-- Two queries ask for the byte at `offset` in a section that has the byte in the file and in
memory: one matches it, the other ends with the word for its address. -/
structure Routes (territory : Territory) (entry : Section) (offset : Nat)
    (plain chained : SymbolQuery) (start word : Nat) : Prop where
  member : entry ∈ territory.sections
  stored : (offset : Int) < entry.file.size
  loaded : (offset : Int) < entry.memory.size
  direct : plain.Plain territory.data start
  matched : (start : Int) = entry.file.start + offset
  indirect : chained.Chained territory.data word
  read : (word : Int) = territory.imageBase + entry.memory.start + offset

/-- Both routes find the byte, each exactly when the number that it comes to is an address. -/
theorem routes_agree_iff {entry : Section} {offset : Nat} {plain chained : SymbolQuery}
    (separateFile : Separate .file territory.sections)
    (separateMemory : Separate .memory territory.sections)
    (routes : Routes territory entry offset plain chained start word) :
    (territory.locate plain = .ok (plain.symbolAt ⟨entry.index, offset⟩) ↔
      start < addressLimit) ∧
    (territory.locate chained = .ok (chained.symbolAt ⟨entry.index, offset⟩) ↔
      0 ≤ entry.memory.start + offset ∧ entry.memory.start + offset < addressLimit) := by
  have stored := routes.stored
  have loaded := routes.loaded
  have matched := routes.matched
  have read := routes.read
  unfold Span.size at stored loaded
  have filePlace : (⟨start, .file⟩ : Address).place? territory.sections =
      some ⟨entry.index, offset⟩ := by
    have inside : (⟨start, .file⟩ : Address).In entry := by
      apply (Span.holds_iff entry.file start).mpr
      omega
    rw [Address.place_of_holder separateFile routes.member inside]
    simp only [Address.placeFrom, Section.span, Option.some.injEq, Placement.mk.injEq, true_and]
    omega
  have distance : (word : Int) - territory.imageBase = entry.memory.start + offset := by omega
  have memoryPlace : (⟨entry.memory.start + offset, .memory⟩ : Address).place?
      territory.sections = some ⟨entry.index, offset⟩ := by
    have inside : (⟨entry.memory.start + offset, .memory⟩ : Address).In entry := by
      apply (Span.holds_iff entry.memory (entry.memory.start + offset)).mpr
      omega
    rw [Address.place_of_holder separateMemory routes.member inside]
    simp only [Address.placeFrom, Section.span, Option.some.injEq, Placement.mk.injEq, true_and]
    omega
  constructor
  · rw [locate_plain_iff routes.direct]
    simp only [filePlace, and_true]
  · rw [locate_chain_iff routes.indirect, distance]
    simp only [memoryPlace, and_true]

def routeBytes : ByteArray := ⟨#[0xa1, 0x02, 0x30, 0x40, 0x00, 0xc3, 0x00, 0x00, 0x2a, 0x00]⟩

def routeImage (imageBase dataStart : Int) : Territory :=
  { data := routeBytes, imageBase
    sections := [⟨1, ⟨0x10, 0x16⟩, ⟨0, 6⟩, ".text"⟩,
      ⟨2, ⟨dataStart, dataStart + 4⟩, ⟨6, 10⟩, ".data"⟩] }

def matchQuery : SymbolQuery := { name := "v", pattern := "2A" }

def wordQuery : SymbolQuery := { name := "w", pattern := "A1", offsets := [1], relative := true }

theorem match_query_plain : matchQuery.Plain routeBytes 8 :=
  ⟨rfl, rfl, rfl, rfl, rfl, by decide +kernel⟩

theorem word_query_chained : wordQuery.Chained routeBytes 0x403002 :=
  ⟨rfl, by decide, rfl, rfl, rfl, 0, by decide +kernel, by decide +kernel⟩

theorem routes_of_image (imageBase dataStart : Int) (loaded : imageBase + dataStart = 0x403000) :
    Routes (routeImage imageBase dataStart) ⟨2, ⟨dataStart, dataStart + 4⟩, ⟨6, 10⟩, ".data"⟩ 2
      matchQuery wordQuery 8 0x403002 where
  member := by simp [routeImage]
  stored := by simp [Span.size]
  loaded := by
    simp only [Span.size]
    omega
  direct := match_query_plain
  matched := rfl
  indirect := word_query_chained
  read := by
    simp only [routeImage]
    omega

theorem routes_agree_above_base :
    (routeImage 0x400000 0x3000).locate matchQuery = .ok (matchQuery.symbolAt ⟨2, 2⟩) ∧
      (routeImage 0x400000 0x3000).locate wordQuery = .ok (wordQuery.symbolAt ⟨2, 2⟩) := by
  have separateFile : Separate .file (routeImage 0x400000 0x3000).sections :=
    separate_of_order (by decide)
  have separateMemory : Separate .memory (routeImage 0x400000 0x3000).sections :=
    separate_of_order (by decide)
  obtain ⟨direct, indirect⟩ := routes_agree_iff separateFile separateMemory
    (routes_of_image 0x400000 0x3000 rfl)
  exact ⟨direct.mpr (by decide), indirect.mpr (by decide)⟩

/-- Where `.data` starts before the image base, the signature finds the byte and the word is refused,
since it lies below the base. -/
theorem routes_part_below_base :
    Separate .file (routeImage 0x404000 (-0x1000)).sections ∧
      Separate .memory (routeImage 0x404000 (-0x1000)).sections ∧
      Routes (routeImage 0x404000 (-0x1000)) ⟨2, ⟨-0x1000, -0xffc⟩, ⟨6, 10⟩, ".data"⟩ 2
        matchQuery wordQuery 8 0x403002 ∧
      (routeImage 0x404000 (-0x1000)).locate matchQuery = .ok (matchQuery.symbolAt ⟨2, 2⟩) ∧
      (routeImage 0x404000 (-0x1000)).locate wordQuery = .error (.malformed "A1" "w") ∧
      (routeImage 0x404000 (-0x1000)).locate wordQuery ≠ .ok (wordQuery.symbolAt ⟨2, 2⟩) := by
  refine ⟨separate_of_order (by decide), separate_of_order (by decide),
    routes_of_image 0x404000 (-0x1000) rfl, by decide +kernel, by decide +kernel,
    by decide +kernel⟩

end Territory

end DebugRecovery
