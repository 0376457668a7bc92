import DebugRecovery.Proofs.Lookup.Arrival

/-!
# Coordinates of the file and of memory

A displacement is a distance in memory, but it is added to an offset of the
file. An address given outright counts from the image base, but the base is
added to it before it is compared with the section table. For both the exact
condition is stated under which the place found is the one meant: that the
sections lie alike in both spaces and no sum wraps, and that the base is zero.
-/

set_option autoImplicit false

namespace DebugRecovery

/-- The number that a 32-bit word stands for in two's complement. -/
def signed (word : Nat) : Int := if word < 0x80000000 then word else word - 0x100000000

theorem displaced_eq (field word : Nat) :
    (((field + word) % displacementLimit : Nat) : Int) =
      (field + signed word) % displacementLimit := by
  unfold signed displacementLimit
  split <;> omega

namespace SymbolQuery

variable {query : SymbolQuery} {data : ByteArray} {imageBase : Int} {field word : Nat}

/-- The query reads the displacement `word` at the offset `field` of the file and asks for what it
refers to; nothing but the match and the extra distance comes before. -/
structure Refers (query : SymbolQuery) (data : ByteArray) (field word : Nat) : Prop where
  searched : query.startRva = 0
  direct : query.offsets = []
  displaced : query.ripRelative = true
  absolute : query.relative = false
  matched : ∃ start, query.start data = .ok start ∧ (field : Int) = start + query.extra
  read : word? data field = some word

/-- The number that the search takes for an offset of the file. -/
def landing (query : SymbolQuery) (field word : Nat) : Int :=
  (field + signed word) % displacementLimit + query.ripOffset

/-- The address that the instruction refers to when its field lies in the section. -/
def referent (query : SymbolQuery) (source : Section) (field word : Nat) : Int :=
  source.memory.start + (field - source.file.start) + signed word + query.ripOffset

/-- The landing is as far into the data of the target as the referent is into its memory exactly when
the target lies as far from its data as the source does, the wraps of the displacement aside. -/
theorem landing_distance_iff (query : SymbolQuery) (source target : Section) (field word : Nat) :
    query.landing field word - target.file.start =
        query.referent source field word - target.memory.start ↔
      target.memory.start - target.file.start =
        source.memory.start - source.file.start +
          displacementLimit * ((field + signed word) / displacementLimit) := by
  have division := Int.emod_add_mul_ediv (field + signed word) displacementLimit
  unfold landing referent
  constructor
  · intro same
    omega
  · intro same
    omega

theorem follow_of_reference (refers : query.Refers data field word) {start : Nat}
    (matched : (field : Int) = start + query.extra) (imageBase : Int) (address : Address) :
    query.follow? data imageBase start = some address ↔
      field < addressLimit ∧ 0 ≤ query.landing field word ∧
        query.landing field word < addressLimit ∧ address = ⟨query.landing field word, .file⟩ := by
  have followed : Follows data query.offsets start start := by
    rw [refers.direct]
    exact .stop _
  have read : WordAt data (start + query.extra) word := by
    rw [← matched]
    exact (word_some_iff data field word).mp refers.read
  have landed : (field + word : Int) % displacementLimit + query.ripOffset =
      query.landing field word := by
    rw [landing, ← displaced_eq]
    norm_cast
  rw [follow_displaced_iff followed refers.displaced refers.absolute read, ← matched, landed,
    space_of_direct refers.direct]
  simp only [IsAddress, Int.natCast_nonneg, true_and, Int.ofNat_lt, and_assoc]

theorem address_of_reference (refers : query.Refers data field word) (imageBase : Int)
    (address : Address) :
    query.address data imageBase = .ok address ↔
      field < addressLimit ∧ 0 ≤ query.landing field word ∧
        query.landing field word < addressLimit ∧ address = ⟨query.landing field word, .file⟩ := by
  obtain ⟨start, found, matched⟩ := refers.matched
  rw [address_ok_iff_follow refers.searched found,
    ← follow_of_reference refers matched imageBase address]

end SymbolQuery

namespace Territory

variable {territory : Territory} {query : SymbolQuery} {field word : Nat}

theorem locate_reference_iff (refers : query.Refers territory.data field word)
    (place : Placement) :
    territory.locate query = .ok (query.symbolAt place) ↔
      field < addressLimit ∧ 0 ≤ query.landing field word ∧
        query.landing field word < addressLimit ∧
        (⟨query.landing field word, .file⟩ : Address).place? territory.sections = some place := by
  rw [locate_at_iff]
  constructor
  · rintro ⟨address, resolved, mapped⟩
    obtain ⟨reached, positive, bounded, rfl⟩ :=
      (SymbolQuery.address_of_reference refers territory.imageBase address).mp resolved
    exact ⟨reached, positive, bounded, mapped⟩
  · rintro ⟨reached, positive, bounded, mapped⟩
    refine ⟨_, ?_, mapped⟩
    exact (SymbolQuery.address_of_reference refers territory.imageBase _).mpr
      ⟨reached, positive, bounded, rfl⟩

theorem locate_override_iff (given : query.startRva ≠ 0) (place : Placement) :
    territory.locate query = .ok (query.symbolAt place) ↔
      (⟨query.startRva + territory.imageBase, .memory⟩ : Address).place? territory.sections =
        some place := by
  rw [locate_at_iff, SymbolQuery.address_of_override given]
  constructor
  · rintro ⟨_, resolved, mapped⟩
    obtain rfl := Except.ok.inj resolved
    exact mapped
  · intro mapped
    exact ⟨_, rfl, mapped⟩

/-- The field of the reference lies in the section `source`, in its data and in its memory, and what
it refers to lies in the memory of the section `target` and has data in the file. -/
structure Reference (territory : Territory) (query : SymbolQuery) (source target : Section)
    (field word : Nat) : Prop where
  refers : query.Refers territory.data field word
  sourceMember : source ∈ territory.sections
  stored : source.file.holds field = true
  loaded : (field : Int) - source.file.start < source.memory.size
  targetMember : target ∈ territory.sections
  inside : target.memory.holds (query.referent source field word) = true
  backed : query.referent source field word - target.memory.start < target.file.size

/-- The search finds what a reference refers to exactly when the file has the same distance from
the field to it as memory. If sections differ in their numbers, both sections then lie as far in
memory from their data, but for a multiple of the displacement's range. -/
theorem reference_found_iff {source target : Section}
    (separate : Separate .file territory.sections)
    (reference : Reference territory query source target field word) :
    (territory.locate query = .ok (query.symbolAt
        ⟨target.index, query.referent source field word - target.memory.start⟩) ↔
      field < addressLimit ∧ 0 ≤ query.landing field word ∧
        query.landing field word < addressLimit ∧
        ∃ other ∈ territory.sections, other.index = target.index ∧
          other.file.holds (query.landing field word) = true ∧
          query.landing field word - other.file.start =
            query.referent source field word - target.memory.start) ∧
    (Numbered territory.sections →
      (territory.locate query = .ok (query.symbolAt
          ⟨target.index, query.referent source field word - target.memory.start⟩) ↔
        field < addressLimit ∧ 0 ≤ query.landing field word ∧
          query.landing field word < addressLimit ∧
          target.memory.start - target.file.start =
            source.memory.start - source.file.start +
              displacementLimit * ((field + signed word) / displacementLimit))) := by
  rw [locate_reference_iff reference.refers]
  constructor
  · rw [Address.place_at_iff separate]
    rfl
  · intro numbered
    rw [Address.place_at_entry_iff separate numbered reference.targetMember]
    have bounds := Span.offset_bounds reference.inside
    have backed := reference.backed
    have distance := query.landing_distance_iff source target field word
    refine and_congr_right fun _ => and_congr_right fun _ => and_congr_right fun _ => ?_
    rw [← distance]
    constructor
    · rintro ⟨_, same⟩
      exact same
    · intro same
      refine ⟨?_, same⟩
      -- The target has data for the offset that was found, which is the offset that was meant.
      apply (Span.holds_iff target.file (query.landing field word)).mpr
      unfold Span.size at backed
      omega

def callSection : Section := ⟨1, ⟨0x1000, 0x1007⟩, ⟨0, 7⟩, ".text"⟩

def callImage : Territory :=
  { data := ⟨#[0xe8, 1, 0, 0, 0, 0x90, 0xc3]⟩, imageBase := 0x400000, sections := [callSection] }

def callQuery : SymbolQuery :=
  { name := "helper", pattern := "E8 ?? ?? ?? ??", extra := 1, ripRelative := true, ripOffset := 4 }

theorem call_reference : Reference callImage callQuery callSection callSection 1 1 where
  refers :=
    { searched := rfl, direct := rfl, displaced := rfl, absolute := rfl
      matched := ⟨0, by decide +kernel, rfl⟩
      read := rfl }
  sourceMember := by decide
  stored := by decide
  loaded := by decide
  targetMember := by decide
  inside := by decide
  backed := by decide

theorem call_reference_found :
    callImage.locate callQuery = .ok (callQuery.symbolAt ⟨1, 6⟩) := by
  have separate : Separate .file callImage.sections := separate_of_order (by decide)
  have numbered : Numbered callImage.sections := by
    unfold Numbered
    decide
  refine ((reference_found_iff separate call_reference).2 numbered).mpr ?_
  decide

def loadSection : Section := ⟨1, ⟨0x40, 0x46⟩, ⟨0, 6⟩, ".text"⟩

def dataSection : Section := ⟨2, ⟨0x80, 0x90⟩, ⟨0x10, 0x20⟩, ".data"⟩

def loadImage : Territory :=
  { data := ⟨(([0x8b, 0x05, 0x3e] : List UInt8) ++ List.replicate 77 0).toArray⟩
    imageBase := 0
    sections := [loadSection, dataSection, ⟨3, ⟨0xc0, 0xd0⟩, ⟨0x40, 0x50⟩, ".rdata"⟩] }

def loadQuery : SymbolQuery :=
  { name := "g", pattern := "8B 05 ?? ?? ?? ??", extra := 2, ripRelative := true, ripOffset := 4 }

theorem load_reference : Reference loadImage loadQuery loadSection dataSection 2 0x3e where
  refers :=
    { searched := rfl, direct := rfl, displaced := rfl, absolute := rfl
      matched := ⟨0, by decide +kernel, rfl⟩
      read := rfl }
  sourceMember := by decide
  stored := by decide
  loaded := by decide
  targetMember := by decide
  inside := by decide
  backed := by decide

/-- The load refers to `.data + 4`, and the search finds `.rdata + 4`. -/
theorem load_reference_lost :
    Separate .file loadImage.sections ∧ Separate .memory loadImage.sections ∧
      Reference loadImage loadQuery loadSection dataSection 2 0x3e ∧
      loadQuery.referent loadSection 2 0x3e - dataSection.memory.start = 4 ∧
      loadImage.locate loadQuery = .ok (loadQuery.symbolAt ⟨3, 4⟩) ∧
      loadImage.locate loadQuery ≠ .ok (loadQuery.symbolAt ⟨dataSection.index, 4⟩) := by
  refine ⟨separate_of_order (by decide), separate_of_order (by decide), load_reference,
    by decide, by decide +kernel, by decide +kernel⟩

/-- The search finds the place of an address given outright exactly when a section of the number
meant starts as far behind the one meant as the image base tells. If sections differ in their
numbers, the image base is then zero. -/
theorem override_found_iff {entry : Section}
    (separate : Separate .memory territory.sections) (member : entry ∈ territory.sections)
    (given : query.startRva ≠ 0) (inside : entry.memory.holds query.startRva = true) :
    (territory.locate query = .ok (query.symbolAt
        ⟨entry.index, query.startRva - entry.memory.start⟩) ↔
      ∃ other ∈ territory.sections, other.index = entry.index ∧
        other.memory.holds (query.startRva + territory.imageBase) = true ∧
        other.memory.start = entry.memory.start + territory.imageBase) ∧
    (Numbered territory.sections →
      (territory.locate query = .ok (query.symbolAt
          ⟨entry.index, query.startRva - entry.memory.start⟩) ↔
        territory.imageBase = 0)) := by
  rw [locate_override_iff given]
  constructor
  · rw [Address.place_at_iff separate]
    have distance : ∀ other : Section,
        query.startRva + territory.imageBase - other.memory.start =
            query.startRva - entry.memory.start ↔
          other.memory.start = entry.memory.start + territory.imageBase := by
      intro other
      omega
    simp only [Section.span, Address.In, distance]
  · intro numbered
    rw [Address.place_at_entry_iff separate numbered member]
    simp only [Section.span, Address.In]
    constructor
    · rintro ⟨_, same⟩
      omega
    · intro zero
      rw [zero, Int.add_zero]
      exact ⟨inside, rfl⟩

def textSection : Section := ⟨1, ⟨0x1000, 0x2000⟩, ⟨0x400, 0x1400⟩, ".text"⟩

def textImage (imageBase : Int) : Territory :=
  { data := ⟨#[]⟩, imageBase, sections := [textSection] }

def textQuery : SymbolQuery := { name := "f", startRva := 0x1100 }

theorem override_found_at_zero :
    (textImage 0).locate textQuery = .ok (textQuery.symbolAt ⟨1, 0x100⟩) := by
  have separate : Separate .memory (textImage 0).sections := separate_of_order (by decide)
  have member : textSection ∈ (textImage 0).sections := by decide
  have numbered : Numbered (textImage 0).sections := by
    unfold Numbered
    decide
  exact ((override_found_iff separate member (by decide) (by decide)).2 numbered).mpr rfl

/-- The section holds the address that is given, and the search finds no section that does. -/
theorem override_lost_at_base :
    Separate .memory (textImage 0x400000).sections ∧
      textSection ∈ (textImage 0x400000).sections ∧ textQuery.startRva ≠ 0 ∧
      textSection.memory.holds textQuery.startRva = true ∧
      (textImage 0x400000).locate textQuery = .error (.unmapped "f" "") ∧
      (textImage 0x400000).locate textQuery ≠
        .ok (textQuery.symbolAt
          ⟨textSection.index, textQuery.startRva - textSection.memory.start⟩) := by
  refine ⟨separate_of_order (by decide), by decide, by decide, by decide, by decide +kernel,
    by decide +kernel⟩

end Territory

end DebugRecovery
