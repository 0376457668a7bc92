import DebugRecovery.Image.Linkable
import DebugRecovery.Proofs.Each
import DebugRecovery.Proofs.Section

/-!
# Addresses in linkable files

The section table of a file has an entry for every header that is not null, in
the order and with the numbers of the headers. The sections that take up
addresses may be apart and the table still not separate: the zeros that each
thread starts with have an address and a size in their header, but they take
up no addresses, and the entry for them covers those of the section behind. An
address is placed in the section that takes it up exactly when no such header
of a lower number covers it.
-/

set_option autoImplicit false

namespace DebugRecovery.Linkable

namespace SectionHeader

/-- Whether every thread has the section for itself. -/
def isThreadLocal (header : SectionHeader) : Bool := header.flags / 0x400 % 2 == 1

/-- The zeros that each thread starts with: a model for memory that is elsewhere. -/
def ThreadZeros (header : SectionHeader) : Prop :=
  header.isAllocated = true ∧ header.isThreadLocal = true ∧ header.kind = kindNoBits

def TakesAddresses (header : SectionHeader) : Prop :=
  header.kind ≠ kindNull ∧ header.isAllocated = true ∧ ¬ header.ThreadZeros

def addresses (header : SectionHeader) : Span := ⟨header.address, header.address + header.size⟩

instance (header : SectionHeader) : Decidable header.ThreadZeros :=
  inferInstanceAs (Decidable (_ ∧ _ ∧ _))

instance (header : SectionHeader) : Decidable header.TakesAddresses :=
  inferInstanceAs (Decidable (_ ∧ _ ∧ _))

end SectionHeader

/-- No address is taken up by two sections. -/
def Apart (headers : List NamedHeader) : Prop :=
  headers.Pairwise fun left right =>
    left.header.TakesAddresses → right.header.TakesAddresses →
      left.header.addresses.Disjoint right.header.addresses

theorem apart_of_order {headers : List NamedHeader}
    (ordered : headers.Pairwise fun left right =>
      left.header.TakesAddresses → right.header.TakesAddresses →
        left.header.addresses.stop ≤ right.header.addresses.start ∨
          right.header.addresses.stop ≤ left.header.addresses.start) : Apart headers :=
  ordered.imp fun apart leftTakes rightTakes =>
    Span.disjoint_of_order (apart leftTakes rightTakes)

def fileOf (data : ByteArray) : Except ImageFailure File := do
  let layout ← identify data
  let header ← readAt 0 (Header.reader data layout)
  .ok ⟨data, layout, header⟩

/-- The headers of all sections, the null section among them. -/
def File.namedHeaders (file : File) : Except ImageFailure (List NamedHeader) := do
  let count ← file.sectionCount
  (List.range' 0 count).mapM file.namedHeader

def sectionHeaders (data : ByteArray) : Except ImageFailure (List NamedHeader) := do
  (← fileOf data).namedHeaders

/-- The entries for headers of which the first has the number `index`. -/
def tableFrom (base : Nat) : Nat → List NamedHeader → List Section
  | _, [] => []
  | index, named :: rest =>
      if named.header.kind == kindNull then tableFrom base (index + 1) rest
      else named.numbered base index :: tableFrom base (index + 1) rest

def imageOf (file : File) (segments : List Segment) (headers : List NamedHeader) : Image :=
  let base := imageBase segments
  ⟨file.data, base, file.layout.is64, tableFrom base 0 headers, .linkable⟩

theorem sections_from_eq (file : File) (base count index : Nat) :
    file.sectionsFrom base count index =
      tableFrom base index <$> (List.range' index count).mapM file.namedHeader := by
  induction count generalizing index with
  | zero => rfl
  | succ count induction =>
      simp only [File.sectionsFrom, List.range'_succ, List.mapM_cons, induction, map_bind,
        bind_map_left, map_pure]
      rfl

/-- Reading an image is reading its file, its segments and the headers of its sections, and making
the table of the headers. -/
theorem read_eq (data : ByteArray) :
    read data = (do
      let file ← fileOf data
      let segments ← file.segments
      let headers ← file.namedHeaders
      .ok (imageOf file segments headers)) := by
  simp only [read, fileOf, File.sections, File.namedHeaders, sections_from_eq, bind_assoc,
    except_ok_bind, bind_map_left, imageOf]

/-- What the stages of reading an image give. -/
structure Stages (data : ByteArray) (file : File) (segments : List Segment)
    (headers : List NamedHeader) : Prop where
  opened : fileOf data = .ok file
  segmented : file.segments = .ok segments
  headed : file.namedHeaders = .ok headers

namespace Stages

variable {data : ByteArray} {file : File} {segments : List Segment} {headers : List NamedHeader}
  {image : Image}

theorem read (stages : Stages data file segments headers) :
    read data = .ok (imageOf file segments headers) := by
  rw [read_eq, stages.opened, except_ok_bind, stages.segmented, except_ok_bind, stages.headed,
    except_ok_bind]

theorem of_read (accepted : Linkable.read data = .ok image) :
    ∃ file segments headers, Stages data file segments headers ∧
      image = imageOf file segments headers := by
  rw [read_eq] at accepted
  obtain ⟨file, opened, accepted⟩ := except_bind_ok accepted
  obtain ⟨segments, segmented, accepted⟩ := except_bind_ok accepted
  obtain ⟨headers, headed, accepted⟩ := except_bind_ok accepted
  exact ⟨file, segments, headers, ⟨opened, segmented, headed⟩, (Except.ok.inj accepted).symm⟩

theorem listed (stages : Stages data file segments headers) :
    sectionHeaders data = .ok headers := by
  rw [sectionHeaders, stages.opened, except_ok_bind, stages.headed]

end Stages

theorem file_of_parts {data : ByteArray} {layout : Layout} {header : Header}
    (identified : identify data = .ok layout)
    (headed : readAt 0 (Header.reader data layout) = .ok header) :
    fileOf data = .ok ⟨data, layout, header⟩ := by
  rw [fileOf, identified, except_ok_bind, headed, except_ok_bind]

theorem read_ok {data : ByteArray} {image : Image} (accepted : read data = .ok image) :
    ∃ headers, sectionHeaders data = .ok headers ∧
      image.sections = tableFrom image.imageBase 0 headers := by
  obtain ⟨file, segments, headers, stages, rfl⟩ := Stages.of_read accepted
  exact ⟨headers, stages.listed, rfl⟩

section Table

variable {base index : Nat}

theorem table_from_append (front back : List NamedHeader) :
    tableFrom base index (front ++ back) =
      tableFrom base index front ++ tableFrom base (index + front.length) back := by
  induction front generalizing index with
  | nil => rfl
  | cons named front induction =>
      have further : tableFrom base (index + 1) (front ++ back) =
          tableFrom base (index + 1) front ++ tableFrom base (index + (front.length + 1)) back := by
        rw [induction, Nat.add_assoc, Nat.add_comm 1]
      simp only [List.cons_append, tableFrom, List.length_cons, further]
      split
      · rfl
      · rfl

/-- The entry for a header that is not null, and those for the headers on both sides of it. -/
theorem table_from_split (base : Nat) {headers : List NamedHeader} {place : Nat}
    (bound : place < headers.length) (kind : headers[place].header.kind ≠ kindNull) :
    tableFrom base 0 headers = tableFrom base 0 (headers.take place) ++
      headers[place].numbered base place ::
        tableFrom base (place + 1) (headers.drop (place + 1)) := by
  have length : (headers.take place).length = place := by
    rw [List.length_take]
    omega
  calc
    tableFrom base 0 headers
      = tableFrom base 0 (headers.take place ++ headers[place] :: headers.drop (place + 1)) := by
        rw [List.getElem_cons_drop, List.take_append_drop]
    _ = _ := by
        rw [table_from_append, length, Nat.zero_add, tableFrom]
        simp only [beq_iff_eq, kind, ↓reduceIte]

theorem mem_table_from_iff (headers : List NamedHeader) (entry : Section) :
    entry ∈ tableFrom base index headers ↔
      ∃ (place : Nat) (named : NamedHeader), headers[place]? = some named ∧
        named.header.kind ≠ kindNull ∧ entry = named.numbered base (index + place) := by
  induction headers generalizing index with
  | nil => simp [tableFrom]
  | cons first rest induction =>
      -- The first header stands at place zero, the others one place further on.
      have split : (∃ (place : Nat) (named : NamedHeader), (first :: rest)[place]? = some named ∧
            named.header.kind ≠ kindNull ∧ entry = named.numbered base (index + place)) ↔
          (first.header.kind ≠ kindNull ∧ entry = first.numbered base index) ∨
            entry ∈ tableFrom base (index + 1) rest := by
        rw [induction]
        constructor
        · rintro ⟨place, named, found, kind, same⟩
          cases place with
          | zero =>
              obtain rfl := Option.some.inj found
              exact Or.inl ⟨kind, same⟩
          | succ place =>
              refine Or.inr ⟨place, named, found, kind, ?_⟩
              rw [same, Nat.add_assoc, Nat.add_comm 1]
        · rintro (⟨kind, same⟩ | ⟨place, named, found, kind, same⟩)
          · exact ⟨0, first, rfl, kind, same⟩
          · refine ⟨place + 1, named, found, kind, ?_⟩
            rw [same, Nat.add_assoc, Nat.add_comm 1]
      rw [split, tableFrom]
      by_cases null : first.header.kind = kindNull
      · simp [null]
      · simp [null]

theorem numbered_holds_iff (named : NamedHeader) (base index : Nat) (address : Int) :
    (⟨address - base, .memory⟩ : Address).In (named.numbered base index) ↔
      named.header.isAllocated = true ∧ named.header.addresses.holds address = true := by
  simp only [Address.In, Section.span, NamedHeader.numbered, SectionHeader.addresses,
    Span.holds_iff]
  cases named.header.isAllocated with
  | false =>
      simp only [Bool.false_eq_true, ↓reduceIte, false_and, iff_false]
      omega
  | true =>
      simp only [↓reduceIte, true_and]
      omega

/-- The entries before that of a section which takes the address up and hold it too are those for
the zeros of threads. -/
theorem table_from_free_iff {front back : List NamedHeader} {named : NamedHeader} {address : Int}
    (apart : Apart (front ++ named :: back)) (takes : named.header.TakesAddresses)
    (inside : named.header.addresses.holds address = true) :
    (∀ other ∈ tableFrom base 0 front, ¬ (⟨address - base, .memory⟩ : Address).In other) ↔
      ∀ other ∈ front, other.header.ThreadZeros →
        other.header.addresses.holds address = false := by
  obtain ⟨_, _, across⟩ := List.pairwise_append.mp apart
  constructor
  · intro free other member zeros
    obtain ⟨place, found⟩ := List.mem_iff_getElem?.mp member
    have kind : other.header.kind ≠ kindNull := by
      rw [zeros.2.2]
      decide
    have entry : other.numbered base (0 + place) ∈ tableFrom base 0 front :=
      (mem_table_from_iff front _).mpr ⟨place, other, found, kind, rfl⟩
    have missed := free _ entry
    rw [numbered_holds_iff] at missed
    exact Bool.eq_false_iff.mpr fun holds => missed ⟨zeros.1, holds⟩
  · intro free entry member holds
    obtain ⟨place, other, found, kind, rfl⟩ := (mem_table_from_iff front entry).mp member
    have inFront := List.mem_of_getElem? found
    obtain ⟨allocated, covers⟩ := (numbered_holds_iff other base _ address).mp holds
    by_cases zeros : other.header.ThreadZeros
    · rw [free other inFront zeros] at covers
      contradiction
    · have disjoint := across other inFront named (by simp) ⟨kind, allocated, zeros⟩ takes
      rw [disjoint address covers] at inside
      contradiction

theorem table_from_fresh (headers : List NamedHeader) {place : Nat} (entry : Section)
    (member : entry ∈ tableFrom base 0 (headers.take place)) : entry.index ≠ place := by
  obtain ⟨earlier, named, found, _, rfl⟩ := (mem_table_from_iff _ entry).mp member
  obtain ⟨bound, _⟩ := List.getElem?_eq_some_iff.mp found
  rw [List.length_take] at bound
  simp only [NamedHeader.numbered]
  omega

end Table

/-- An address that a section takes up is placed there, as far in as it is behind the address of the
section, exactly when the zeros of threads do not cover it under a lower number. -/
theorem taken_address_placed_iff {data : ByteArray} {image : Image}
    (accepted : read data = .ok image) :
    ∃ headers, sectionHeaders data = .ok headers ∧
      (Apart headers → ∀ (index : Nat) (named : NamedHeader) (address : Int),
        headers[index]? = some named → named.header.TakesAddresses →
        named.header.addresses.holds address = true →
        ((⟨address - image.imageBase, .memory⟩ : Address).place? image.sections =
            some ⟨index, address - named.header.address⟩ ↔
          ∀ other ∈ headers.take index, other.header.ThreadZeros →
            other.header.addresses.holds address = false)) := by
  obtain ⟨headers, listed, table⟩ := read_ok accepted
  refine ⟨headers, listed, fun apart index named address found takes inside => ?_⟩
  obtain ⟨bound, rfl⟩ := List.getElem?_eq_some_iff.mp found
  have entries := table_from_split image.imageBase bound takes.1
  have here : (⟨address - image.imageBase, .memory⟩ : Address).In
      (headers[index].numbered image.imageBase index) :=
    (numbered_holds_iff headers[index] image.imageBase index address).mpr ⟨takes.2.1, inside⟩
  have placed : (⟨address - image.imageBase, .memory⟩ : Address).placeFrom
      (headers[index].numbered image.imageBase index) =
        ⟨index, address - headers[index].header.address⟩ := by
    simp only [Address.placeFrom, Section.span, NamedHeader.numbered, takes.2.1, ↓reduceIte,
      Placement.mk.injEq, true_and]
    omega
  rw [table, entries, ← placed, Address.place_behind_iff here (table_from_fresh headers)]
  have split : Apart (headers.take index ++ headers[index] :: headers.drop (index + 1)) := by
    rw [List.getElem_cons_drop, List.take_append_drop]
    exact apart
  exact table_from_free_iff split takes inside

def fieldBytes (width value : Nat) : List UInt8 :=
  (List.range width).map fun place => UInt8.ofNat (value / Nat.pow 256 place)

def zerosHeader : NamedHeader := ⟨⟨1, 8, 0x403, 268, 268, 8, 0, 0⟩, ".tbss"⟩

def dataHeader : NamedHeader := ⟨⟨7, 1, 3, 268, 268, 16, 0, 0⟩, ".data"⟩

/-- The zeros of threads, eight bytes from 268 on, come before the data, sixteen bytes from 268 on. -/
def threadHeaders : List NamedHeader :=
  [⟨⟨0, 0, 0, 0, 0, 0, 0, 0⟩, ""⟩, zerosHeader, dataHeader,
    ⟨⟨13, 3, 0, 0, 244, 23, 0, 0⟩, ".shstrtab"⟩]

/-- The fields of a section header, with no further information and no alignment. -/
def headerFields (header : SectionHeader) : List Nat :=
  [header.name, header.kind, header.flags, header.address, header.offset, header.size, header.link,
    0, 0, header.entrySize]

def threadBytes : ByteArray :=
  let identification := [0x7F, 0x45, 0x4C, 0x46, 1, 1, 1, 0, 0, 0, 0, 0, 0, 0, 0, 0]
  let header := [3, 3].flatMap (fieldBytes 2) ++ [1, 0, 52, 84, 0].flatMap (fieldBytes 4) ++
    [52, 32, 1, 40, 4, 3].flatMap (fieldBytes 2)
  let segment := [1, 0, 0, 0, 284, 284, 7, 0x1000]
  let headers := threadHeaders.flatMap fun named => headerFields named.header
  let names := "\x00.tbss\x00.data\x00.shstrtab\x00".toList.map fun letter => letter.toUInt8
  ⟨(identification ++ header ++ (segment ++ headers).flatMap (fieldBytes 4) ++ names ++
    List.replicate 17 0).toArray⟩

def threadFile : File := ⟨threadBytes, ⟨false, .little⟩, ⟨3, 52, 84, 32, 1, 40, 4, 3⟩⟩

def threadImage : Image := imageOf threadFile [⟨1, 0, 0⟩] threadHeaders

theorem thread_file_stages : Stages threadBytes threadFile [⟨1, 0, 0⟩] threadHeaders where
  opened := file_of_parts (by decide +kernel) (by decide +kernel)
  segmented := by decide +kernel
  headed := by decide +kernel

theorem thread_image_read : read threadBytes = .ok threadImage := thread_file_stages.read

theorem thread_headers_apart : Apart threadHeaders := apart_of_order (by decide)

theorem taken_address_placed_behind_zeros :
    read threadBytes = .ok threadImage ∧
      (⟨280, .memory⟩ : Address).place? threadImage.sections = some ⟨2, 12⟩ := by
  refine ⟨thread_image_read, ?_⟩
  obtain ⟨headers, listed, placed⟩ := taken_address_placed_iff thread_image_read
  obtain rfl := Except.ok.inj (thread_file_stages.listed.symm.trans listed)
  exact (placed thread_headers_apart 2 dataHeader 280 rfl (by decide) (by decide)).mpr (by decide)

/-- An address that the data takes up is placed in the zeros of threads, which come first. -/
theorem data_address_lost_to_zeros :
    read threadBytes = .ok threadImage ∧ sectionHeaders threadBytes = .ok threadHeaders ∧
      Apart threadHeaders ∧ threadHeaders[2]? = some dataHeader ∧
      dataHeader.header.TakesAddresses ∧ dataHeader.header.addresses.holds 272 = true ∧
      (⟨272 - threadImage.imageBase, .memory⟩ : Address).place? threadImage.sections =
        some ⟨1, 4⟩ ∧
      (⟨272 - threadImage.imageBase, .memory⟩ : Address).place? threadImage.sections ≠
        some ⟨2, 272 - dataHeader.header.address⟩ :=
  ⟨thread_image_read, thread_file_stages.listed, thread_headers_apart, rfl, by decide, by decide,
    by decide, by decide⟩

end DebugRecovery.Linkable
