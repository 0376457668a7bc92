import DebugRecovery.Proofs.Image.Linkable
import DebugRecovery.Proofs.Lookup.Routes

/-!
# The image base of linkable files

The image base starts the page of the lowest address that a segment is loaded
at. Where no two sections in memory share an address and none starts below that
one, the base that the table takes off the address of a section is the base that
a lookup takes off the word it has read: the word leads to the section whose
header holds the address, as far in as it lies behind the section's own.
-/

set_option autoImplicit false

namespace DebugRecovery.Linkable

/-- The addresses that segments are loaded at. -/
def loadAddresses (segments : List Segment) : List Nat :=
  (segments.filter (·.kind == segmentLoad)).map Segment.address

/-- The base starts the page in which the lowest of the addresses lies. -/
structure PageOfLowest (base : Nat) (addresses : List Nat) : Prop where
  aligned : pageSize ∣ base
  below : ∀ address ∈ addresses, base ≤ address
  near : ∀ lowest, addresses.min? = some lowest → lowest < base + pageSize
  unloaded : addresses = [] → base = 0

theorem image_base_of_empty {segments : List Segment} (unloaded : loadAddresses segments = []) :
    imageBase segments = 0 := by
  unfold loadAddresses at unloaded
  unfold imageBase
  rw [unloaded]

theorem image_base_of_lowest {segments : List Segment} {lowest : Nat}
    (least : (loadAddresses segments).min? = some lowest) :
    imageBase segments = lowest / pageSize * pageSize := by
  have loaded : (segments.filter (·.kind == segmentLoad)).map Segment.address =
      loadAddresses segments := rfl
  rw [imageBase, loaded]
  cases addresses : loadAddresses segments with
  | nil =>
      rw [addresses] at least
      contradiction
  | cons first others =>
      rw [addresses, List.min?_cons'] at least
      rw [← Option.some.inj least]

theorem image_base_page (segments : List Segment) :
    PageOfLowest (imageBase segments) (loadAddresses segments) := by
  cases least : (loadAddresses segments).min? with
  | none =>
      have unloaded := List.min?_eq_none_iff.mp least
      have zero := image_base_of_empty unloaded
      constructor
      · rw [zero]
        exact Nat.dvd_zero _
      · simp [unloaded]
      · simp [least]
      · intro _
        exact zero
  | some lowest =>
      have page := image_base_of_lowest least
      have bounds := List.min?_eq_some_iff.mp least
      have remainder := Nat.div_add_mod' lowest pageSize
      have bounded := Nat.mod_lt lowest (show 0 < pageSize by decide)
      constructor
      · rw [page]
        exact Nat.dvd_mul_left _ _
      · intro address member
        have above := bounds.2 address member
        omega
      · intro other same
        rw [least] at same
        have others := Option.some.inj same
        omega
      · intro unloaded
        simp [unloaded] at least

def SectionHeader.Loaded (header : SectionHeader) : Prop :=
  header.kind ≠ kindNull ∧ header.isAllocated = true

instance (header : SectionHeader) : Decidable header.Loaded := inferInstanceAs (Decidable (_ ∧ _))

/-- No two sections in memory share an address, and none starts below the lowest of the addresses
that segments are loaded at. -/
structure LaidOut (addresses : List Nat) (headers : List NamedHeader) : Prop where
  apart : headers.Pairwise fun left right =>
    left.header.Loaded → right.header.Loaded →
      left.header.addresses.Disjoint right.header.addresses
  above : ∀ named ∈ headers, named.header.Loaded →
    ∀ lowest, addresses.min? = some lowest → lowest ≤ named.header.address

theorem base_le_of_loaded {segments : List Segment} {headers : List NamedHeader}
    (laidOut : LaidOut (loadAddresses segments) headers) {named : NamedHeader}
    (member : named ∈ headers) (loaded : named.header.Loaded) :
    imageBase segments ≤ named.header.address := by
  have page := image_base_page segments
  cases least : (loadAddresses segments).min? with
  | none =>
      rw [page.unloaded (List.min?_eq_none_iff.mp least)]
      exact Nat.zero_le _
  | some lowest =>
      have below := page.below lowest (List.min?_eq_some_iff.mp least).1
      exact Nat.le_trans below (laidOut.above named member loaded lowest least)

theorem numbered_memory {named : NamedHeader} (loaded : named.header.Loaded) (base index : Nat) :
    (named.numbered base index).memory =
      ⟨named.header.address - base, named.header.address - base + named.header.size⟩ := by
  simp only [NamedHeader.numbered, loaded.2, ↓reduceIte]

theorem numbered_disjoint {left right : NamedHeader} (base leftIndex rightIndex : Nat)
    (apart : left.header.Loaded → right.header.Loaded →
      left.header.addresses.Disjoint right.header.addresses)
    (leftKind : left.header.kind ≠ kindNull) (rightKind : right.header.kind ≠ kindNull) :
    (left.numbered base leftIndex).memory.Disjoint (right.numbered base rightIndex).memory := by
  intro value inside
  have shifted : value = value + base - base := by omega
  rw [shifted] at inside ⊢
  have here := (numbered_holds_iff left base leftIndex (value + base)).mp inside
  apply Bool.eq_false_iff.mpr
  intro also
  have there := (numbered_holds_iff right base rightIndex (value + base)).mp also
  have free := apart ⟨leftKind, here.1⟩ ⟨rightKind, there.1⟩ (value + base) here.2
  rw [there.2] at free
  contradiction

/-- Sections in memory that are apart have separate entries in the table; a section that is not in
memory has an empty entry there. -/
theorem table_from_separate {headers : List NamedHeader} (base index : Nat)
    (apart : headers.Pairwise fun left right =>
      left.header.Loaded → right.header.Loaded →
        left.header.addresses.Disjoint right.header.addresses) :
    Separate .memory (tableFrom base index headers) := by
  induction headers generalizing index with
  | nil => exact List.Pairwise.nil
  | cons first rest induction =>
      have heads := (List.pairwise_cons.mp apart).1
      have tails := induction (index + 1) (List.pairwise_cons.mp apart).2
      rw [tableFrom]
      by_cases null : first.header.kind = kindNull
      · rw [if_pos (beq_iff_eq.mpr null)]
        exact tails
      · rw [if_neg (by rw [beq_iff_eq]; exact null)]
        apply List.Pairwise.cons
        · intro entry member
          obtain ⟨place, other, found, kind, rfl⟩ := (mem_table_from_iff rest entry).mp member
          have inRest := List.mem_of_getElem? found
          exact numbered_disjoint base index _ (heads other inRest) null kind
        · exact tails

/-- The entry of a number is that for the header in its place. -/
theorem entry_of_number {headers : List NamedHeader} {base index : Nat} {named : NamedHeader}
    (found : headers[index]? = some named) (kind : named.header.kind ≠ kindNull) (entry : Section) :
    entry ∈ tableFrom base 0 headers ∧ entry.index = index ↔ entry = named.numbered base index := by
  rw [mem_table_from_iff]
  constructor
  · rintro ⟨⟨place, other, listed, _, rfl⟩, same⟩
    have places : place = index := by
      simp only [NamedHeader.numbered] at same
      omega
    rw [places, found] at listed
    rw [← Option.some.inj listed, places, Nat.zero_add]
  · rintro rfl
    refine ⟨⟨index, named, found, kind, ?_⟩, rfl⟩
    rw [Nat.zero_add]

theorem numbered_listed (base : Nat) {headers : List NamedHeader} {index : Nat} {named : NamedHeader}
    (found : headers[index]? = some named) (kind : named.header.kind ≠ kindNull) :
    named.numbered base index ∈ tableFrom base 0 headers :=
  ((entry_of_number found kind (named.numbered base index)).mpr rfl).1

def segmentHeaders (data : ByteArray) : Except ImageFailure (List Segment) := do
  (← fileOf data).segments

theorem Stages.segments_listed {data : ByteArray} {file : File} {segments : List Segment}
    {headers : List NamedHeader} (stages : Stages data file segments headers) :
    segmentHeaders data = .ok segments := by
  rw [segmentHeaders, stages.opened, except_ok_bind, stages.segmented]

theorem read_parts {data : ByteArray} {image : Image} (accepted : read data = .ok image) :
    ∃ segments headers, segmentHeaders data = .ok segments ∧ sectionHeaders data = .ok headers ∧
      image.data = data ∧ image.imageBase = imageBase segments ∧
      image.sections = tableFrom (imageBase segments) 0 headers := by
  obtain ⟨file, segments, headers, stages, rfl⟩ := Stages.of_read accepted
  have content : file.data = data := by
    obtain ⟨layout, _, opened⟩ := except_bind_ok stages.opened
    obtain ⟨header, _, opened⟩ := except_bind_ok opened
    rw [← Except.ok.inj opened]
  exact ⟨segments, headers, stages.segments_listed, stages.listed, content, rfl, rfl⟩

/-- A chain that ends with an absolute address leads to the section in memory that has it. -/
theorem locate_absolute_address {data : ByteArray} {segments : List Segment}
    {headers : List NamedHeader} (laidOut : LaidOut (loadAddresses segments) headers)
    {index address : Nat} {named : NamedHeader} (found : headers[index]? = some named)
    (loaded : named.header.Loaded) (inside : named.header.addresses.holds address = true)
    {query : SymbolQuery} (chained : query.Chained data address) :
    Territory.locate ⟨data, imageBase segments, tableFrom (imageBase segments) 0 headers⟩ query =
      .ok (query.symbolAt ⟨index, address - named.header.address⟩) := by
  have based := base_le_of_loaded laidOut (List.mem_of_getElem? found) loaded
  have bounds := (Span.holds_iff named.header.addresses address).mp inside
  have small : address < displacementLimit := by
    obtain ⟨start, _, followed⟩ := chained.followed
    exact SymbolQuery.chain_word_lt chained.chain followed
  have entry := numbered_listed (imageBase segments) found loaded.1
  have holds : (⟨address - imageBase segments, .memory⟩ : Address).In
      (named.numbered (imageBase segments) index) :=
    (numbered_holds_iff named (imageBase segments) index address).mpr ⟨loaded.2, inside⟩
  have placed := Address.place_of_holder
    (table_from_separate (imageBase segments) 0 laidOut.apart) entry holds
  rw [Territory.locate_chain_iff chained]
  dsimp only
  simp only [SectionHeader.addresses] at bounds
  refine ⟨by omega, ?_, ?_⟩
  · unfold displacementLimit at small
    unfold addressLimit
    omega
  · rw [placed]
    simp only [Address.placeFrom, Section.span, NamedHeader.numbered, loaded.2, ↓reduceIte,
      Option.some.injEq, Placement.mk.injEq, true_and]
    omega

/-- In a file that is read, the base starts the page of the lowest address loaded at. If the sections
in memory are laid out from there on, each of them has its addresses counted from the base under the
number of its header, and a word for an absolute address leads to the section that has it. -/
theorem absolute_words_located {data : ByteArray} {image : Image}
    (accepted : read data = .ok image) :
    ∃ segments headers, segmentHeaders data = .ok segments ∧ sectionHeaders data = .ok headers ∧
      PageOfLowest image.imageBase (loadAddresses segments) ∧
      (LaidOut (loadAddresses segments) headers →
        ∀ (index : Nat) (named : NamedHeader), headers[index]? = some named →
          named.header.Loaded →
          (∃ entry ∈ image.sections, entry.index = index) ∧
          (∀ entry ∈ image.sections, entry.index = index →
            entry.memory = ⟨named.header.address - image.imageBase,
              named.header.address - image.imageBase + named.header.size⟩ ∧
            0 ≤ entry.memory.start) ∧
          ∀ (query : SymbolQuery) (address : Nat), query.Chained image.data address →
            named.header.addresses.holds address = true →
            Territory.locate ⟨image.data, image.imageBase, image.sections⟩ query =
              .ok (query.symbolAt ⟨index, address - named.header.address⟩)) := by
  obtain ⟨segments, headers, segmented, listed, content, base, table⟩ := read_parts accepted
  rw [base, table]
  refine ⟨segments, headers, segmented, listed, image_base_page segments, ?_⟩
  intro laidOut index named found loaded
  refine ⟨?_, ?_, ?_⟩
  · exact ⟨_, numbered_listed (imageBase segments) found loaded.1, rfl⟩
  · intro entry member number
    have same := (entry_of_number found loaded.1 entry).mp ⟨member, number⟩
    have based := base_le_of_loaded laidOut (List.mem_of_getElem? found) loaded
    rw [same, numbered_memory loaded]
    refine ⟨rfl, ?_⟩
    dsimp only
    omega
  · intro query address chained inside
    exact locate_absolute_address laidOut found loaded inside chained

def loadedSegment : Segment := ⟨1, 84, 0x8049054⟩

def loadedHeader : NamedHeader := ⟨⟨1, 1, 3, 0x80490E0, 224, 16, 0, 0⟩, ".data"⟩

def loadedHeaders : List NamedHeader :=
  [⟨⟨0, 0, 0, 0, 0, 0, 0, 0⟩, ""⟩, loadedHeader, ⟨⟨7, 3, 0, 0, 204, 17, 0, 0⟩, ".shstrtab"⟩]

/-- A file of 240 bytes with its data in memory from 0x80490E0 on, loaded from 0x8049054 on. The data
start with a load of the word that lies eight bytes behind their start. -/
def loadedBytes : ByteArray :=
  let identification := [0x7F, 0x45, 0x4C, 0x46, 1, 1, 1, 0, 0, 0, 0, 0, 0, 0, 0, 0]
  let header := [3, 3].flatMap (fieldBytes 2) ++ [1, 0, 52, 84, 0].flatMap (fieldBytes 4) ++
    [52, 32, 1, 40, 3, 2].flatMap (fieldBytes 2)
  let segment := [1, 84, 0x8049054, 0x8049054, 156, 156, 7, 0x1000]
  let headers := loadedHeaders.flatMap fun named => headerFields named.header
  let names := "\x00.data\x00.shstrtab\x00".toList.map fun letter => letter.toUInt8
  let content := [0xA1, 0xE8, 0x90, 4, 8] ++ List.replicate 11 0
  ⟨(identification ++ header ++ (segment ++ headers).flatMap (fieldBytes 4) ++ names ++ [0, 0, 0] ++
    content).toArray⟩

def loadedFile : File := ⟨loadedBytes, ⟨false, .little⟩, ⟨3, 52, 84, 32, 1, 40, 3, 2⟩⟩

def loadedImage : Image := imageOf loadedFile [loadedSegment] loadedHeaders

def loadQuery : SymbolQuery := { name := "v", pattern := "A1", offsets := [1], relative := true }

theorem loaded_file_stages : Stages loadedBytes loadedFile [loadedSegment] loadedHeaders where
  opened := file_of_parts (by decide +kernel) (by decide +kernel)
  segmented := by decide +kernel
  headed := by decide +kernel

theorem loaded_image_read : read loadedBytes = .ok loadedImage := loaded_file_stages.read

theorem loaded_headers_laid_out : LaidOut (loadAddresses [loadedSegment]) loadedHeaders where
  apart := by
    have ordered : loadedHeaders.Pairwise fun left right =>
        left.header.Loaded → right.header.Loaded →
          left.header.addresses.stop ≤ right.header.addresses.start ∨
            right.header.addresses.stop ≤ left.header.addresses.start := by decide
    exact ordered.imp fun apart left right => Span.disjoint_of_order (apart left right)
  above := by
    intro named member loaded lowest least
    have only : named = loadedHeader := by
      revert named
      decide
    obtain rfl : 0x8049054 = lowest := Option.some.inj least
    rw [only]
    decide

theorem load_query_chained : loadQuery.Chained loadedImage.data 0x80490E8 :=
  ⟨rfl, by decide, rfl, rfl, rfl, 224, by decide +kernel, by decide +kernel⟩

theorem absolute_word_located_in_data :
    read loadedBytes = .ok loadedImage ∧ loadedImage.imageBase = 0x8049000 ∧
      LaidOut (loadAddresses [loadedSegment]) loadedHeaders ∧
      loadQuery.Chained loadedImage.data 0x80490E8 ∧
      Territory.locate ⟨loadedImage.data, loadedImage.imageBase, loadedImage.sections⟩ loadQuery =
        .ok (loadQuery.symbolAt ⟨1, 8⟩) := by
  refine ⟨loaded_image_read, by decide, loaded_headers_laid_out, load_query_chained, ?_⟩
  obtain ⟨segments, headers, segmented, listed, _, located⟩ :=
    absolute_words_located loaded_image_read
  obtain rfl := Except.ok.inj (loaded_file_stages.segments_listed.symm.trans segmented)
  obtain rfl := Except.ok.inj (loaded_file_stages.listed.symm.trans listed)
  have every := located loaded_headers_laid_out 1 loadedHeader rfl (by decide)
  exact every.2.2 loadQuery 0x80490E8 load_query_chained (by decide)

end DebugRecovery.Linkable
