import DebugRecovery.Image.Linkable.Header
import DebugRecovery.Image.Linkable.Kind
import DebugRecovery.Text.Quoted
import DebugRecovery.Text.Utf8

/-!
The sections of an Executable and Linkable Format file, with their names. A
section whose kind asks for something is checked: tables of symbols and notes
link to the right kind of section, entries have their length, and what a hash
table or a list of attributes starts with can be read.
-/

set_option autoImplicit false

namespace DebugRecovery.Linkable

/-- A file with its layout and header. -/
structure File where
  data : ByteArray
  layout : Layout
  header : Header

/-- A section header with the name of the section. -/
structure NamedHeader where
  header : SectionHeader
  name : String
  deriving DecidableEq, Repr

namespace File

def invalid {Value : Type} (detail : String) : Except ImageFailure Value := .error (.invalid detail)

def require (condition : Bool) (detail : String) : Except ImageFailure Unit :=
  if condition then .ok () else invalid detail

def machine (file : File) : Machine := .ofCode file.header.machine

def segment (file : File) (index : Nat) : Except ImageFailure Segment := do
  let size := file.header.segmentSize
  require (file.header.segmentOffset == 0 || Segment.headerLength file.layout ≤ size)
    s!"Too small e_phentsize: {size}"
  readAt (file.header.segmentOffset + index * size) (Segment.reader file.data file.layout)

def sectionHeader (file : File) (index : Nat) : Except ImageFailure SectionHeader := do
  let size := file.header.sectionSize
  require (file.header.sectionOffset == 0 || SectionHeader.length file.layout ≤ size)
    s!"Too small e_shentsize: {size}"
  let offset := file.header.sectionOffset + index * size
  let fileSize := file.data.size
  require (offset ≤ fileSize) s!"Reading section {index} at offset {offset} past EOF {fileSize}"
  readAt offset (SectionHeader.reader file.data file.layout)

/-- The marker for a number that is kept in the first section header. -/
def inFirstSection : Nat := 0xFFFF

def nameTableIndex (file : File) : Except ImageFailure Nat :=
  if file.header.nameSection == inFirstSection then
    (file.sectionHeader 0).map SectionHeader.link
  else .ok file.header.nameSection

/-- The header of the section that holds the names, if it can be read. -/
def nameTable? (file : File) : Option SectionHeader :=
  (file.nameTableIndex.bind file.sectionHeader).toOption

def sectionCount (file : File) : Except ImageFailure Nat :=
  if file.header.sectionOffset == 0 then .ok 0
  else if file.header.sectionCount == 0 then (file.sectionHeader 0).map SectionHeader.size
  else .ok file.header.sectionCount

/-- The bytes from an offset on up to the first zero. -/
def terminated? (data : ByteArray) (offset : Nat) : Option (List UInt8) :=
  if inside : offset < data.size then
    if data[offset] == 0 then some []
    else (terminated? data (offset + 1)).map (data[offset] :: ·)
  else none
termination_by data.size - offset

/-- A name without a zero after it is empty. -/
def name (file : File) (header : SectionHeader) : Except ImageFailure String :=
  match file.nameTable? with
  | none => invalid "String Table not found"
  | some table =>
      let offset := table.offset + header.name
      if offset < offsetLimit then
        .ok (String.ofList (Text.Utf8.replaced ((terminated? file.data offset).getD [])))
      else .error .unreachable

/-- The section that a link leads to, which has to be of an admitted kind. -/
def linked (file : File) (index : Nat) (admitted : List Nat) (complaint : String → String) :
    Except ImageFailure NamedHeader := do
  let header ← file.sectionHeader index
  require (admitted.contains header.kind) (complaint (file.machine.kindLabel header.kind))
  let name ← file.name header
  .ok ⟨header, name⟩

def linkedStrings (file : File) (index : Nat) : Except ImageFailure NamedHeader :=
  file.linked index [kindStrings] fun label =>
    s!"SHT_SYMTAB section points at section {index} of type {label}, expected SHT_STRTAB"

/-- A table of symbols has to name its table of strings and to hold whole entries. -/
def checkSymbols (file : File) (table : NamedHeader) : Except ImageFailure Unit := do
  let _ ← file.linkedStrings table.header.link
  let shown := Text.quoted table.name
  require (table.header.entrySize != 0) s!"Expected entry size of section {shown} to be > 0"
  require (table.header.size % table.header.entrySize == 0)
    s!"Expected section size to be a multiple of entry size in section {shown}"

/-- A section that is about symbols has to name their table. -/
def checkSymbolsLink (file : File) (index : Nat) : Except ImageFailure Unit := do
  let table ← file.linked index [kindSymbols, kindDynamicSymbols] fun label =>
    s!"Section points at section {index} of type {label}, expected SHT_SYMTAB/SHT_DYNSYM"
  file.checkSymbols table

def checkDynamic (file : File) (index : Nat) : Except ImageFailure Unit := do
  let _ ← file.linked index [kindStrings, kindNoBits, kindNull] fun label =>
    s!"Unexpected section type {label}, expected ('SHT_STRTAB', 'SHT_NOBITS', 'SHT_NULL')"

def checkRelocations (file : File) (header : SectionHeader) (entryLength : Nat) :
    Except ImageFailure Unit :=
  let label := file.machine.kindLabel header.kind
  require (header.entrySize == entryLength)
    s!"Expected sh_entsize of {label} section to be {entryLength}"

def checkPackedRelocations (file : File) (header : SectionHeader) : Except ImageFailure Unit :=
  let word := file.layout.word
  let size := header.entrySize
  require (size == word) s!"Expected RELR entry size to be {word}, got {size}"

/-- Attributes start with the version of their format, a letter. -/
def checkAttributes (file : File) (offset : Nat) : Except ImageFailure Unit := do
  let version ← readAt offset (field file.data file.layout.order 1)
  let letter := Char.ofNat version
  require (letter == 'A') s!"Unknown attributes version {letter}, expecting 'A'."

/-- A hash table holds the counts of its buckets and chains and then both. -/
def hashReader (file : File) : Reader Unit := do
  let single := field file.data file.layout.order 4
  let buckets ← single
  let chains ← single
  skipArray file.data 4 buckets
  skipArray file.data 4 chains

/-- A filtered hash table holds four numbers, the words of its filter and its buckets. -/
def filteredHashReader (file : File) : Reader Unit := do
  let single := field file.data file.layout.order 4
  let buckets ← single
  let _first ← single
  let words ← single
  let _shift ← single
  skipArray file.data file.layout.word words
  skipArray file.data 4 buckets

def checkHash (file : File) (header : SectionHeader) (reader : Reader Unit) :
    Except ImageFailure Unit := do
  file.checkSymbolsLink header.link
  readAt header.offset reader

/-- Checks what the kind of a section asks for. -/
def check (file : File) (named : NamedHeader) : Except ImageFailure Unit :=
  let header := named.header
  match file.machine.content file.layout.word header.kind with
  | .free => .ok ()
  | .symbols => file.checkSymbols named
  | .symbolNotes => file.checkSymbolsLink header.link
  | .stringNotes => do
      let _ ← file.linkedStrings header.link
  | .relocations entryLength => file.checkRelocations header entryLength
  | .packedRelocations => file.checkPackedRelocations header
  | .dynamic => file.checkDynamic header.link
  | .attributes => file.checkAttributes header.offset
  | .hash => file.checkHash header file.hashReader
  | .filteredHash => file.checkHash header file.filteredHashReader

/-- The header of the section with a number, named and checked. -/
def namedHeader (file : File) (index : Nat) : Except ImageFailure NamedHeader := do
  let header ← file.sectionHeader index
  let name ← file.name header
  file.check ⟨header, name⟩
  .ok ⟨header, name⟩

end File

end DebugRecovery.Linkable
