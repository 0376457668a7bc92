import DebugRecovery.Proofs.Section

/-!
# Section tables as maps of addresses

A section table maps an address to its place in the first section that holds it,
and an address that no section holds to nothing. Where the ranges of a space are
separate no section comes before another one that holds the same address, and
the table can be read in any order. Where sections differ in their numbers a
place belongs to one section and so to one address. Neither asks for ranges that
hold anything, nor for addresses that are not negative.
-/

set_option autoImplicit false

namespace DebugRecovery

theorem Span.disjoint_symm {left right : Span} (apart : left.Disjoint right) :
    right.Disjoint left := by
  intro value inside
  cases other : left.holds value with
  | false => rfl
  | true => exact absurd inside (by simp [apart value other])

theorem separate_perm {space : AddressSpace} {sections others : List Section}
    (separate : Separate space sections) (permuted : sections.Perm others) :
    Separate space others :=
  permuted.pairwise separate Span.disjoint_symm

/-- The place is in the section, as far from the start of its range as the address is. -/
def Placement.Marks (place : Placement) (entry : Section) (address : Address) : Prop :=
  place.sectionIndex = entry.index ∧
    (entry.span address.space).start + place.offset = address.value

namespace Address

variable {address other : Address} {sections others : List Section} {place : Placement}

theorem marks_iff (place : Placement) (entry : Section) (address : Address) :
    place.Marks entry address ↔ place = address.placeFrom entry := by
  obtain ⟨index, offset⟩ := place
  simp only [Placement.Marks, placeFrom, Placement.mk.injEq]
  constructor
  · rintro ⟨same, distance⟩
    exact ⟨same, by omega⟩
  · rintro ⟨same, distance⟩
    exact ⟨same, by omega⟩

/-- The order of a separate table does not matter. -/
theorem place_perm (separate : Separate address.space sections) (permuted : sections.Perm others) :
    address.place? others = address.place? sections := by
  cases found : address.place? sections with
  | none =>
      rw [place_none_iff] at found ⊢
      intro entry member
      exact found entry (permuted.mem_iff.mpr member)
  | some place =>
      obtain ⟨entry, member, inside, rfl⟩ := place_some found
      exact place_of_holder (separate_perm separate permuted) (permuted.mem_iff.mp member) inside

/-- If sections differ in their numbers, a place has one address in each space. -/
theorem place_injective (numbered : Numbered sections) (space : other.space = address.space)
    (here : address.place? sections = some place) (there : other.place? sections = some place) :
    other = address := by
  obtain ⟨entry, member, _, rfl⟩ := place_some here
  obtain ⟨otherEntry, otherMember, _, same⟩ := place_some there
  have index : entry.index = otherEntry.index := congrArg Placement.sectionIndex same
  have offset := congrArg Placement.offset same
  obtain rfl := section_of_number numbered member otherMember index
  obtain ⟨value, counted⟩ := address
  obtain ⟨otherValue, otherCounted⟩ := other
  simp only at space
  subst space
  simp only [placeFrom] at offset
  obtain rfl : otherValue = value := by omega
  rfl

/-- An address is mapped to the first section that holds it, at the offset that leads from the start
of its range to the address, and is not mapped where no section holds it. In a separate table the
order of the sections does not matter, and in one whose sections differ in their numbers two
addresses of one space never have the same place. -/
theorem addresses_mapped_by_first_holder (sections : List Section) (address : Address) :
    (∀ place, address.place? sections = some place ↔
      ∃ entry, address.FirstIn sections entry ∧ place.Marks entry address) ∧
    (address.place? sections = none ↔ ∀ entry ∈ sections, ¬ address.In entry) ∧
    (Separate address.space sections → ∀ others, sections.Perm others →
      address.place? others = address.place? sections) ∧
    (Numbered sections → ∀ other place, other.space = address.space →
      address.place? sections = some place → other.place? sections = some place →
        other = address) := by
  refine ⟨?_, place_none_iff address sections, ?_, ?_⟩
  · intro place
    simp only [marks_iff, place_first_iff]
  · intro separate others permuted
    exact place_perm separate permuted
  · intro numbered other place space here there
    exact place_injective numbered space here there

def unevenTable : List Section :=
  [⟨1, ⟨-0x10, 0⟩, ⟨0, 0x10⟩, ".init"⟩, ⟨2, ⟨0, 0⟩, ⟨0x20, 0x10⟩, ".note"⟩,
    ⟨3, ⟨0, 0x10⟩, ⟨0x10, 0x20⟩, ".text"⟩]

theorem uneven_table_mapped :
    Separate .memory unevenTable ∧ Numbered unevenTable ∧
      (⟨0, .memory⟩ : Address).place? unevenTable = some ⟨3, 0⟩ ∧
      (⟨0, .memory⟩ : Address).place? unevenTable.reverse = some ⟨3, 0⟩ ∧
      (⟨-1, .memory⟩ : Address).place? unevenTable ≠ some ⟨3, 0⟩ := by
  have separate : Separate .memory unevenTable := separate_of_order (by decide)
  have numbered : Numbered unevenTable := by
    unfold Numbered
    decide
  have found : (⟨0, .memory⟩ : Address).place? unevenTable = some ⟨3, 0⟩ := by decide
  obtain ⟨_, _, ordered, injective⟩ := addresses_mapped_by_first_holder unevenTable ⟨0, .memory⟩
  refine ⟨separate, numbered, found, ?_, ?_⟩
  · rw [ordered separate unevenTable.reverse unevenTable.reverse_perm.symm, found]
  · intro again
    exact absurd (injective numbered ⟨-1, .memory⟩ ⟨3, 0⟩ rfl found again) (by decide)

end Address

end DebugRecovery
