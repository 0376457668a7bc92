import DebugRecovery.Image.Reader
import DebugRecovery.Proofs.Each
import DebugRecovery.Proofs.Image.Linkable

/-!
# The numbers of sections in portable executables

The section headers of a file stand one behind the other. The sections of the
image are not numbered in this order but by their addresses in memory, from the
lowest on; only headers with the same address keep the order of the file. So the
section with a number is the one that the header with that number tells, for all
numbers, exactly when the addresses of the headers never go down.
-/

set_option autoImplicit false

namespace DebugRecovery.Portable

/-- Where the section headers start: behind the optional header, whose length the file header
tells. -/
def tableStart (data : ByteArray) : Nat :=
  let fileHeader := numberAt data 60 4 + 4
  fileHeader + 20 + numberAt data (fileHeader + 16) 2

/-- The section header that `position` others stand before. -/
def headerAt (data : ByteArray) (position : Nat) : SectionHeader :=
  .at data (tableStart data + headerLength * position)

/-- The ranges of the section are those that the header tells. -/
def SectionHeader.Tells (header : SectionHeader) (entry : Section) : Prop :=
  entry.memory = ⟨header.virtualAddress, header.virtualAddress + header.virtualSize⟩ ∧
    entry.file = ⟨header.rawPointer, header.rawPointer + header.rawSize⟩

/-- Of the headers at the two positions, the first is for a lower address, or for the same one and
stands before the other. -/
def Precedes (data : ByteArray) (first second : Nat) : Prop :=
  (headerAt data first).virtualAddress < (headerAt data second).virtualAddress ∨
    (headerAt data first).virtualAddress = (headerAt data second).virtualAddress ∧ first < second

variable {data : ByteArray} {image : Image} {headers : List SectionHeader} {count : Nat}

theorem section_headers_listed {alignment : Alignment} {offset : Nat}
    (listed : sectionHeaders data alignment count offset = .ok headers) :
    headers = (List.range headers.length).map fun position =>
      SectionHeader.at data (offset + headerLength * position) := by
  induction count generalizing offset headers with
  | zero =>
      cases listed
      rfl
  | succ count induction =>
      unfold sectionHeaders at listed
      dsimp only at listed
      split at listed
      · cases listed
        rfl
      split at listed
      · contradiction
      split at listed
      · cases listed
        rfl
      split at listed
      · cases listed
        rfl
      obtain ⟨rest, further, finished⟩ := except_bind_ok listed
      cases finished
      rw [List.length_cons, List.range_succ_eq_map, List.map_cons, List.map_map, induction further,
        List.length_map, List.length_range]
      congr 1
      apply List.map_congr_left
      intro position _
      have offsets : offset + headerLength + headerLength * position =
          offset + headerLength * (position + 1) := by
        rw [Nat.mul_add, Nat.mul_one]
        omega
      exact congrArg (SectionHeader.at data) offsets

theorem unless_refused {Value : Type} {refused : Prop} [Decidable refused] {detail : String}
    {next : Unit → Except ImageFailure Value} {value : Value}
    (finished : (if refused then refuse detail >>= next else next ()) = .ok value) :
    next () = .ok value := by
  split at finished
  · contradiction
  · exact finished

theorem read_ok (accepted : read data = .ok image) :
    ∃ headers, headers = (List.range headers.length).map (headerAt data) ∧
      image.sections = sections headers := by
  unfold read at accepted
  have located := unless_refused accepted
  have signed := unless_refused located
  obtain ⟨_, _, further⟩ := except_bind_ok signed
  have opened := unless_refused further
  dsimp only at opened
  split at opened
  · contradiction
  · obtain ⟨headers, listed, finished⟩ := except_bind_ok opened
    cases finished
    exact ⟨headers, section_headers_listed listed, rfl⟩

theorem own_place {number place : Nat} (member : (number, place) ∈ (List.range count).zipIdx) :
    number = place := by
  obtain ⟨_, same⟩ := List.getElem?_eq_some_iff.mp (List.mk_mem_zipIdx_iff_getElem?.mp member)
  rw [← same, List.getElem_range]

/-- Numbers in the order of their keys, and those with one key in their own order. -/
theorem sorted_by_key (key : Nat → Nat) (count : Nat) :
    ((List.range count).mergeSort fun first second => key first ≤ key second).Pairwise
      fun first second => key first < key second ∨ key first = key second ∧ first < second := by
  let le : Nat → Nat → Bool := fun first second => key first ≤ key second
  have trans : ∀ a b c, le a b = true → le b c = true → le a c = true := by
    simp only [le, decide_eq_true_eq]
    omega
  have total : ∀ a b, (le a b || le b a) = true := by
    simp only [le, Bool.or_eq_true, decide_eq_true_eq]
    omega
  have distinct : ((List.range count).mergeSort le).Nodup :=
    (List.mergeSort_perm _ le).nodup_iff.mpr List.nodup_range
  -- Sorting the numbers together with their positions, which they are, tells ties apart.
  have ordered := List.pairwise_mergeSort (List.zipIdxLE_trans trans) (List.zipIdxLE_total total)
    (List.range count).zipIdx
  rw [← List.mergeSort_zipIdx] at distinct ⊢
  rw [List.pairwise_map]
  refine ((List.pairwise_map.mp distinct).and ordered).imp_of_mem ?_
  rintro ⟨first, place⟩ ⟨second, other⟩ firstMember secondMember ⟨different, sorted⟩
  obtain rfl := own_place (List.mem_mergeSort.mp firstMember)
  obtain rfl := own_place (List.mem_mergeSort.mp secondMember)
  have apart : first ≠ second := different
  simp only [List.zipIdxLE, le, decide_eq_true_eq, Bool.if_false_right, Bool.and_eq_true] at sorted
  dsimp only
  obtain ⟨ascending, tied⟩ := sorted
  by_cases same : key second ≤ key first
  · rw [if_pos same, decide_eq_true_eq] at tied
    omega
  · omega

/-- The positions of the headers in the order in which their sections are numbered. -/
def addressOrder (data : ByteArray) (count : Nat) : List Nat :=
  (List.range count).mergeSort fun first second =>
    (headerAt data first).virtualAddress ≤ (headerAt data second).virtualAddress

def numberedAlong (data : ByteArray) (order : List Nat) : List Section :=
  order.mapIdx fun place position => (headerAt data position).numbered (place + 1)

theorem sections_numbered_along (listed : headers = (List.range count).map (headerAt data)) :
    sections headers = numberedAlong data (addressOrder data count) := by
  have sorted : byAddress headers = (addressOrder data count).map (headerAt data) := by
    rw [listed, addressOrder, byAddress]
    exact (List.map_mergeSort (f := headerAt data) fun _ _ _ _ => rfl).symm
  rw [sections, sorted, numberedAlong]
  apply List.ext_getElem?
  intro place
  rw [List.getElem?_mapIdx, List.getElem?_mapIdx, List.getElem?_map, Option.map_map]
  rfl

theorem mem_numbered_along_iff (data : ByteArray) (order : List Nat) (entry : Section) :
    entry ∈ numberedAlong data order ↔ ∃ (place : Nat) (inside : place < order.length),
      entry = (headerAt data order[place]).numbered (place + 1) := by
  simp only [numberedAlong, List.mem_mapIdx, eq_comm]

theorem numbered_along_length (data : ByteArray) (order : List Nat) :
    (numberedAlong data order).length = order.length := by
  rw [numberedAlong, List.length_mapIdx]

theorem address_order_perm (data : ByteArray) (count : Nat) :
    (addressOrder data count).Perm (List.range count) := List.mergeSort_perm _ _

/-- The sections are those of the headers of the file, numbered in the order of their addresses. -/
theorem read_numbered (accepted : read data = .ok image) :
    image.sections = numberedAlong data (addressOrder data image.sections.length) := by
  obtain ⟨headers, listed, made⟩ := read_ok accepted
  have along := sections_numbered_along listed
  have count : image.sections.length = headers.length := by
    rw [made, along, numbered_along_length, (address_order_perm data headers.length).length_eq,
      List.length_range]
  rw [count, made, along]

/-- No header is for a lower address than one before it. -/
def Ascending (data : ByteArray) (count : Nat) : Prop :=
  ∀ first second, first < second → second < count →
    (headerAt data first).virtualAddress ≤ (headerAt data second).virtualAddress

/-- Each section is the one that the header with its number, counted from one, tells. -/
def FollowFile (data : ByteArray) (entries : List Section) : Prop :=
  ∀ entry ∈ entries, ∀ position : Nat, entry.index = position + 1 →
    (headerAt data position).Tells entry

theorem address_order_ascending (ascending : Ascending data count) :
    addressOrder data count = List.range count := by
  apply List.mergeSort_of_pairwise
  refine List.pairwise_lt_range.imp_of_mem fun _ later earlier => ?_
  exact decide_eq_true (ascending _ _ earlier (List.mem_range.mp later))

theorem follow_of_ascending (ascending : Ascending data count) :
    FollowFile data (numberedAlong data (addressOrder data count)) := by
  rw [address_order_ascending ascending]
  intro entry member position same
  obtain ⟨place, inside, rfl⟩ := (mem_numbered_along_iff data _ entry).mp member
  simp only [SectionHeader.numbered, List.getElem_range] at same ⊢
  obtain rfl : place = position := by omega
  exact ⟨rfl, rfl⟩

/-- Where the numbers follow the file, the header numbered with a position and the one that stands
there are for the same address. -/
theorem address_of_follow {order : List Nat} (follow : FollowFile data (numberedAlong data order))
    {position : Nat} (inside : position < order.length) :
    (headerAt data order[position]).virtualAddress = (headerAt data position).virtualAddress := by
  have member := (mem_numbered_along_iff data order _).mpr ⟨position, inside, rfl⟩
  have start := congrArg Span.start (follow _ member position rfl).1
  exact Int.natCast_inj.mp start

theorem ascending_of_follow
    (follow : FollowFile data (numberedAlong data (addressOrder data count))) :
    Ascending data count := by
  intro first second earlier inside
  have length : (addressOrder data count).length = count := by
    rw [(address_order_perm data count).length_eq, List.length_range]
  have firstInside : first < (addressOrder data count).length := by omega
  have secondInside : second < (addressOrder data count).length := by omega
  have ordered := List.pairwise_iff_getElem.mp
    (sorted_by_key (fun position => (headerAt data position).virtualAddress) count)
    first second firstInside secondInside earlier
  have firstTold := address_of_follow follow firstInside
  have secondTold := address_of_follow follow secondInside
  unfold addressOrder at firstTold secondTold
  omega

/-- The sections of an accepted file are numbered in the order of their addresses, those with the
same address in the order of the file. So the ranges of each section are told by the header that has
its number in the file exactly when the headers are in the order of their addresses. -/
theorem section_numbers_follow_file_iff (portable : Image.format? data = some .portableExecutable)
    (accepted : Image.read data = .ok image) :
    (∃ order : List Nat, order.Perm (List.range image.sections.length) ∧
      order.Pairwise (Precedes data) ∧ image.sections = numberedAlong data order) ∧
    (FollowFile data image.sections ↔ Ascending data image.sections.length) := by
  rw [Image.read, portable] at accepted
  have numbered := read_numbered accepted
  constructor
  · exact ⟨addressOrder data image.sections.length, address_order_perm _ _,
      sorted_by_key (fun position => (headerAt data position).virtualAddress) _, numbered⟩
  · constructor
    · intro follow
      rw [numbered] at follow
      exact ascending_of_follow follow
    · intro ascending
      rw [numbered]
      exact follow_of_ascending ascending

/-- In the file the code stands behind the data, in memory before it. -/
def codeHeader : SectionHeader := ⟨[0x2E, 0x74, 0x65, 0x78, 0x74, 0, 0, 0], 0x20, 0x1000, 16, 0x210⟩

def dataHeader : SectionHeader := ⟨[0x2E, 0x64, 0x61, 0x74, 0x61, 0, 0, 0], 0x10, 0x2000, 16, 0x200⟩

def headerBytes (header : SectionHeader) : List UInt8 :=
  header.name ++ [header.virtualSize, header.virtualAddress, header.rawSize,
    header.rawPointer].flatMap (Linkable.fieldBytes 4) ++ List.replicate 16 0

/-- The optional header has 96 bytes, and the section headers follow it. -/
def bytesOf (headers : List SectionHeader) : ByteArray :=
  let start := [0x4D, 0x5A] ++ List.replicate 58 0 ++ Linkable.fieldBytes 4 64
  let file := [0x50, 0x45, 0, 0, 0x4C, 1, 2, 0] ++ List.replicate 12 0 ++ [96, 0, 2, 1]
  let optional := [0x0B, 1] ++ List.replicate 26 0 ++
    [0x400000, 0x1000, 0x10].flatMap (Linkable.fieldBytes 4) ++ List.replicate 56 0
  ⟨(start ++ file ++ optional ++ headers.flatMap headerBytes ++ List.replicate 280 0).toArray⟩

def imageOf (headers : List SectionHeader) : Image :=
  ⟨bytesOf headers, 0x400000, false, sections headers, .portableExecutable⟩

/-- The bytes pass every check of the reader and hold these headers. -/
def Parts (data : ByteArray) (header : OptionalHeader) (headers : List SectionHeader) : Prop :=
  Image.format? data = some .portableExecutable ∧ ¬ data.size < 64 ∧
    ¬ data.size < numberAt data 60 4 ∧ checkSignature data (numberAt data 60 4) = .ok () ∧
    ¬ data.size < numberAt data 60 4 + 4 + 20 ∧
    OptionalHeader.read? data (numberAt data 60 4 + 4 + 20) = some header ∧
    sectionHeaders data header.alignment
      (min (numberAt data (numberAt data 60 4 + 4 + 2) 2) maxSections) (tableStart data) =
        .ok headers

instance (data : ByteArray) (header : OptionalHeader) (headers : List SectionHeader) :
    Decidable (Parts data header headers) :=
  inferInstanceAs (Decidable (_ ∧ _ ∧ _ ∧ _ ∧ _ ∧ _ ∧ _))

theorem read_of_parts {header : OptionalHeader} (parts : Parts data header headers) :
    Image.read data =
      .ok ⟨data, header.imageBase, header.is64, sections headers, .portableExecutable⟩ := by
  obtain ⟨portable, long, placed, signed, room, optional, listed⟩ := parts
  have table : tableStart data = numberAt data 60 4 + 4 + 20 +
    numberAt data (numberAt data 60 4 + 4 + 16) 2 := rfl
  rw [table] at listed
  rw [Image.read, portable]
  simp only [read, long, placed, signed, room, optional, listed, ↓reduceIte, except_ok_bind]

def optionalHeader : OptionalHeader := ⟨false, 0x400000, 0x1000, 16⟩

theorem code_first_parts :
    Parts (bytesOf [codeHeader, dataHeader]) optionalHeader [codeHeader, dataHeader] := by
  decide +kernel

theorem code_first_follows_file :
    Image.format? (bytesOf [codeHeader, dataHeader]) = some .portableExecutable ∧
      Image.read (bytesOf [codeHeader, dataHeader]) = .ok (imageOf [codeHeader, dataHeader]) ∧
      FollowFile (bytesOf [codeHeader, dataHeader]) (imageOf [codeHeader, dataHeader]).sections := by
  have portable := code_first_parts.1
  have read : Image.read (bytesOf [codeHeader, dataHeader]) =
      .ok (imageOf [codeHeader, dataHeader]) := read_of_parts code_first_parts
  refine ⟨portable, read, ?_⟩
  apply (section_numbers_follow_file_iff portable read).2.mpr
  have count : (imageOf [codeHeader, dataHeader]).sections.length = 2 := by
    simp [imageOf, sections, byAddress]
  rw [count]
  intro first second earlier inside
  obtain ⟨rfl, rfl⟩ : first = 0 ∧ second = 1 := by omega
  decide +kernel

/-- The first header of the file is that of the data, but the first section is the code. -/
theorem data_first_misnumbered :
    Image.format? (bytesOf [dataHeader, codeHeader]) = some .portableExecutable ∧
      Image.read (bytesOf [dataHeader, codeHeader]) = .ok (imageOf [dataHeader, codeHeader]) ∧
      headerAt (bytesOf [dataHeader, codeHeader]) 0 = dataHeader ∧
      (imageOf [dataHeader, codeHeader]).sections =
        [⟨1, ⟨0x1000, 0x1020⟩, ⟨0x210, 0x220⟩, ".text"⟩,
          ⟨2, ⟨0x2000, 0x2010⟩, ⟨0x200, 0x210⟩, ".data"⟩] ∧
      ¬ FollowFile (bytesOf [dataHeader, codeHeader])
        (imageOf [dataHeader, codeHeader]).sections := by
  have parts : Parts (bytesOf [dataHeader, codeHeader]) optionalHeader
      [dataHeader, codeHeader] := by decide +kernel
  have first : headerAt (bytesOf [dataHeader, codeHeader]) 0 = dataHeader := by decide +kernel
  have sorted : byAddress [dataHeader, codeHeader] = [codeHeader, dataHeader] := by
    simp [byAddress, List.mergeSort, dataHeader, codeHeader]
  have numbered : (imageOf [dataHeader, codeHeader]).sections =
      [⟨1, ⟨0x1000, 0x1020⟩, ⟨0x210, 0x220⟩, ".text"⟩,
        ⟨2, ⟨0x2000, 0x2010⟩, ⟨0x200, 0x210⟩, ".data"⟩] := by
    rw [imageOf, sections, sorted]
    decide +kernel
  refine ⟨parts.1, read_of_parts parts, first, numbered, fun follow => ?_⟩
  rw [numbered] at follow
  have told := (follow _ List.mem_cons_self 0 rfl).1
  rw [first] at told
  exact absurd told (by decide)

end DebugRecovery.Portable
