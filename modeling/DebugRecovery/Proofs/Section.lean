import DebugRecovery.Section
import Mathlib.Data.List.Nodup

/-!
# Places in a section table

A place is sound when it is the distance from the start of a range that holds
the address. The first such range decides; when the ranges of a space are
separate there is only one, so that the order of the table does not matter.
Sections are not assumed to differ in their numbers.
-/

set_option autoImplicit false

namespace DebugRecovery

namespace Span

/-- No value lies in both. An empty span is disjoint from every other. -/
def Disjoint (left right : Span) : Prop :=
  ∀ value, left.holds value = true → right.holds value = false

theorem disjoint_of_order {left right : Span}
    (ordered : left.stop ≤ right.start ∨ right.stop ≤ left.start) : left.Disjoint right := by
  intro value inside
  have leftBounds := (holds_iff left value).mp inside
  cases other : right.holds value with
  | false => rfl
  | true =>
      have rightBounds := (holds_iff right value).mp other
      omega

theorem offset_bounds {span : Span} {value : Int} (inside : span.holds value = true) :
    0 ≤ value - span.start ∧ value - span.start < span.size := by
  have bounds := (span.holds_iff value).mp inside
  unfold size
  omega

end Span

/-- The ranges of the table in one of the spaces are pairwise disjoint. -/
def Separate (space : AddressSpace) (sections : List Section) : Prop :=
  sections.Pairwise fun left right => (left.span space).Disjoint (right.span space)

/-- The sections of the table differ in their numbers. -/
def Numbered (sections : List Section) : Prop := (sections.map Section.index).Nodup

/-- Ranges that follow each other, in any order of the table, are separate. -/
theorem separate_of_order {space : AddressSpace} {sections : List Section}
    (ordered : sections.Pairwise fun left right =>
      (left.span space).stop ≤ (right.span space).start ∨
        (right.span space).stop ≤ (left.span space).start) :
    Separate space sections :=
  ordered.imp Span.disjoint_of_order

theorem section_of_number {sections : List Section} (numbered : Numbered sections)
    {left right : Section} (leftMember : left ∈ sections) (rightMember : right ∈ sections)
    (same : left.index = right.index) : left = right :=
  List.inj_on_of_nodup_map numbered leftMember rightMember same

namespace Address

/-- The place that an address has in the range of a section. -/
def placeFrom (address : Address) (entry : Section) : Placement :=
  ⟨entry.index, address.value - (entry.span address.space).start⟩

/-- The range of the section in the space of the address holds it. -/
def In (address : Address) (entry : Section) : Prop :=
  (entry.span address.space).holds address.value = true

theorem place_in_some_iff (address : Address) (entry : Section) (place : Placement) :
    address.placeIn? entry = some place ↔ address.In entry ∧ place = address.placeFrom entry := by
  unfold placeIn? In placeFrom
  by_cases inside : (entry.span address.space).holds address.value = true
  · simp [inside, eq_comm]
  · simp [inside]

theorem place_in_none_iff (address : Address) (entry : Section) :
    address.placeIn? entry = none ↔ ¬ address.In entry := by
  unfold placeIn? In
  simp

/-- The section holds the address, and none before it in the table does. -/
def FirstIn (address : Address) (sections : List Section) (entry : Section) : Prop :=
  ∃ front back, sections = front ++ entry :: back ∧ address.In entry ∧
    ∀ earlier ∈ front, ¬ address.In earlier

theorem place_first_iff (address : Address) (sections : List Section) (place : Placement) :
    address.place? sections = some place ↔
      ∃ entry, address.FirstIn sections entry ∧ place = address.placeFrom entry := by
  rw [place?, List.findSome?_eq_some_iff]
  simp only [place_in_some_iff, place_in_none_iff]
  constructor
  · rintro ⟨front, entry, back, split, ⟨inside, same⟩, before⟩
    exact ⟨entry, ⟨front, back, split, inside, before⟩, same⟩
  · rintro ⟨entry, ⟨front, back, split, inside, before⟩, same⟩
    exact ⟨front, entry, back, split, ⟨inside, same⟩, before⟩

theorem place_some {address : Address} {sections : List Section} {place : Placement}
    (found : address.place? sections = some place) :
    ∃ entry ∈ sections, address.In entry ∧ place = address.placeFrom entry := by
  obtain ⟨entry, ⟨front, back, rfl, inside, _⟩, same⟩ :=
    (place_first_iff address sections place).mp found
  exact ⟨entry, by simp, inside, same⟩

theorem place_none_iff (address : Address) (sections : List Section) :
    address.place? sections = none ↔ ∀ entry ∈ sections, ¬ address.In entry := by
  simp only [place?, List.findSome?_eq_none_iff, place_in_none_iff]

/-- In any table the place is in the first section that holds the address, told from those before by
its number. -/
theorem place_behind_iff {address : Address} {front back : List Section} {entry : Section}
    (inside : address.In entry) (fresh : ∀ other ∈ front, other.index ≠ entry.index) :
    address.place? (front ++ entry :: back) = some (address.placeFrom entry) ↔
      ∀ other ∈ front, ¬ address.In other := by
  have here := (place_in_some_iff address entry _).mpr ⟨inside, rfl⟩
  have split : address.place? (front ++ entry :: back) =
      (address.place? front).or (some (address.placeFrom entry)) := by
    simp only [place?, List.findSome?_append, List.findSome?_cons, here]
  rw [split]
  constructor
  · intro found
    cases earlier : address.place? front with
    | none => exact (place_none_iff address front).mp earlier
    | some place =>
        obtain ⟨other, member, _, same⟩ := place_some earlier
        rw [earlier, Option.some_or, Option.some.injEq] at found
        exact absurd (congrArg Placement.sectionIndex (same.symm.trans found)) (fresh other member)
  · intro free
    rw [(place_none_iff address front).mpr free, Option.none_or]

theorem holder_unique {address : Address} {sections : List Section}
    (separate : Separate address.space sections) {left right : Section}
    (leftMember : left ∈ sections) (rightMember : right ∈ sections)
    (leftHolds : address.In left) (rightHolds : address.In right) : left = right := by
  induction sections with
  | nil => simp at leftMember
  | cons first rest induction =>
      obtain ⟨apart, separateRest⟩ := List.pairwise_cons.mp separate
      -- The first section and one of the rest never hold the same address.
      have excludes : ∀ other ∈ rest, address.In first → ¬ address.In other := by
        intro other member holds
        have free := apart other member address.value holds
        simp [In, free]
      rcases List.mem_cons.mp leftMember with leftFirst | leftRest
      · rcases List.mem_cons.mp rightMember with rightFirst | rightRest
        · rw [leftFirst, rightFirst]
        · rw [leftFirst] at leftHolds
          exact absurd rightHolds (excludes right rightRest leftHolds)
      · rcases List.mem_cons.mp rightMember with rightFirst | rightRest
        · rw [rightFirst] at rightHolds
          exact absurd leftHolds (excludes left leftRest rightHolds)
        · exact induction separateRest leftRest rightRest

/-- In a separate table every section that holds the address gives its place. -/
theorem place_of_holder {address : Address} {sections : List Section}
    (separate : Separate address.space sections) {entry : Section} (member : entry ∈ sections)
    (inside : address.In entry) : address.place? sections = some (address.placeFrom entry) := by
  cases found : address.place? sections with
  | none => exact absurd inside ((place_none_iff address sections).mp found entry member)
  | some place =>
      obtain ⟨holder, holderMember, holds, same⟩ := place_some found
      rw [same, holder_unique separate holderMember member holds inside]

theorem place_some_iff {address : Address} {sections : List Section}
    (separate : Separate address.space sections) (place : Placement) :
    address.place? sections = some place ↔
      ∃ entry ∈ sections, address.In entry ∧ place = address.placeFrom entry := by
  constructor
  · exact place_some
  · rintro ⟨entry, member, inside, rfl⟩
    exact place_of_holder separate member inside

/-- In a separate table an address has the place if a section of that number has it there. -/
theorem place_at_iff {address : Address} {sections : List Section}
    (separate : Separate address.space sections) (index offset : Int) :
    address.place? sections = some ⟨index, offset⟩ ↔
      ∃ other ∈ sections, other.index = index ∧ address.In other ∧
        address.value - (other.span address.space).start = offset := by
  rw [place_some_iff separate]
  simp only [placeFrom, Placement.mk.injEq]
  constructor
  · rintro ⟨other, member, inside, rfl, rfl⟩
    exact ⟨other, member, rfl, inside, rfl⟩
  · rintro ⟨other, member, rfl, inside, rfl⟩
    exact ⟨other, member, inside, rfl, rfl⟩

theorem place_at_entry_iff {address : Address} {sections : List Section}
    (separate : Separate address.space sections) (numbered : Numbered sections)
    {entry : Section} (member : entry ∈ sections) (offset : Int) :
    address.place? sections = some ⟨entry.index, offset⟩ ↔
      address.In entry ∧ address.value - (entry.span address.space).start = offset := by
  rw [place_at_iff separate]
  constructor
  · rintro ⟨other, otherMember, same, inside, distance⟩
    obtain rfl := section_of_number numbered otherMember member same
    exact ⟨inside, distance⟩
  · rintro ⟨inside, distance⟩
    exact ⟨entry, member, rfl, inside, distance⟩

end Address

end DebugRecovery
