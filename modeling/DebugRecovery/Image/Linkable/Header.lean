import DebugRecovery.Image.Linkable.Field

/-!
The headers of Executable and Linkable Format files: the header of the file and
those of its segments and sections.
-/

set_option autoImplicit false

namespace DebugRecovery.Linkable

structure Header where
  machine : Nat
  segmentOffset : Nat
  sectionOffset : Nat
  segmentSize : Nat
  segmentCount : Nat
  sectionSize : Nat
  sectionCount : Nat
  nameSection : Nat
  deriving DecidableEq, Repr

/-- The identification has four bytes of magic, five single bytes and seven of padding. -/
def skipIdentification (data : ByteArray) : Reader Unit := do
  skipBytes data 9
  let _ ← field data .little 7

def Header.reader (data : ByteArray) (layout : Layout) : Reader Header := do
  let half := field data layout.order 2
  let single := field data layout.order 4
  let word := field data layout.order layout.word
  skipIdentification data
  let _kind ← half
  let machine ← half
  let _version ← single
  let _entry ← word
  let segmentOffset ← word
  let sectionOffset ← word
  let _flags ← single
  let _headerSize ← half
  let segmentSize ← half
  let segmentCount ← half
  let sectionSize ← half
  let sectionCount ← half
  let nameSection ← half
  return { machine, segmentOffset, sectionOffset, segmentSize, segmentCount, sectionSize,
           sectionCount, nameSection }

structure Segment where
  kind : Nat
  offset : Nat
  address : Nat
  deriving DecidableEq, Repr

/-- The length of a segment header. -/
def Segment.headerLength (layout : Layout) : Nat := if layout.is64 then 56 else 32

def Segment.reader (data : ByteArray) (layout : Layout) : Reader Segment := do
  let single := field data layout.order 4
  let word := field data layout.order layout.word
  let kind ← single
  if layout.is64 then
    let _flags ← single
  let offset ← word
  let address ← word
  let _physical ← word
  let _fileSize ← word
  let _memorySize ← word
  if !layout.is64 then
    let _flags ← single
  let _alignment ← word
  return ⟨kind, offset, address⟩

structure SectionHeader where
  name : Nat
  kind : Nat
  flags : Nat
  address : Nat
  offset : Nat
  size : Nat
  link : Nat
  entrySize : Nat
  deriving DecidableEq, Repr

namespace SectionHeader

/-- The length of a section header. -/
def length (layout : Layout) : Nat := if layout.is64 then 64 else 40

def reader (data : ByteArray) (layout : Layout) : Reader SectionHeader := do
  let single := field data layout.order 4
  let word := field data layout.order layout.word
  let name ← single
  let kind ← single
  let flags ← word
  let address ← word
  let offset ← word
  let size ← word
  let link ← single
  let _info ← single
  let _alignment ← word
  let entrySize ← word
  return { name, kind, flags, address, offset, size, link, entrySize }

/-- Whether the section occupies memory while the program runs. -/
def isAllocated (header : SectionHeader) : Bool := header.flags / 2 % 2 == 1

end SectionHeader

end DebugRecovery.Linkable
