import DebugRecovery.Image.Linkable.File

/-!
Executable and Linkable Format images of either class and byte order. Addresses
in memory count from the image base, the page of the lowest loaded segment; a
section that occupies no memory has an empty range there, and one without bytes
in the file has an empty range in the file. The null section has no entry, but
it counts in the numbering.
-/

set_option autoImplicit false

namespace DebugRecovery.Linkable

namespace File

/-- Goes over the sections from number `index` on, `count` of them, up to the dynamic one at an
offset. -/
def findDynamic (file : File) (offset : Nat) : Nat → Nat → Except ImageFailure Unit
  | 0, _ => .ok ()
  | count + 1, index => do
      let ⟨header, _⟩ ← file.namedHeader index
      if header.kind == kindDynamic && header.offset == offset then .ok ()
      else file.findDynamic offset count (index + 1)

/-- A segment with a number. That of dynamic linking needs its section. -/
def checkedSegment (file : File) (index : Nat) : Except ImageFailure Segment := do
  let segment ← file.segment index
  if segment.kind == segmentDynamic then
    let count ← file.sectionCount
    file.findDynamic segment.offset count 0
  .ok segment

def segments (file : File) : Except ImageFailure (List Segment) :=
  (List.range file.header.segmentCount).mapM file.checkedSegment

end File

def pageSize : Nat := 0x1000

/-- The page of the lowest address of a loaded segment; zero when nothing is loaded. -/
def imageBase (segments : List Segment) : Nat :=
  match (segments.filter (·.kind == segmentLoad)).map Segment.address with
  | [] => 0
  | first :: others => others.foldl min first / pageSize * pageSize

def NamedHeader.numbered (named : NamedHeader) (base index : Nat) : Section :=
  let header := named.header
  let start : Int := if header.isAllocated then header.address - base else 0
  let memorySize : Int := if header.isAllocated then header.size else 0
  let fileSize : Int := if header.kind == kindNoBits then 0 else header.size
  ⟨index, ⟨start, start + memorySize⟩, ⟨header.offset, header.offset + fileSize⟩, named.name⟩

/-- The sections from number `index` on, `count` of them. -/
def File.sectionsFrom (file : File) (base : Nat) :
    Nat → Nat → Except ImageFailure (List Section)
  | 0, _ => .ok []
  | count + 1, index => do
      let named ← file.namedHeader index
      let rest ← file.sectionsFrom base count (index + 1)
      .ok (if named.header.kind == kindNull then rest else named.numbered base index :: rest)

def File.sections (file : File) (base : Nat) : Except ImageFailure (List Section) := do
  let count ← file.sectionCount
  file.sectionsFrom base count 0

def identify (data : ByteArray) : Except ImageFailure Layout := do
  let classByte := slice data 4 1
  let orderByte := slice data 5 1
  if classByte != [1] && classByte != [2] then
    .error (.invalid s!"Invalid EI_CLASS {Text.quotedBytes classByte}")
  else if orderByte != [1] && orderByte != [2] then
    .error (.invalid s!"Invalid EI_DATA {Text.quotedBytes orderByte}")
  else .ok ⟨classByte == [2], if orderByte == [1] then .little else .big⟩

/-- Reads an image; segments come before sections. -/
def read (data : ByteArray) : Except ImageFailure Image := do
  let layout ← identify data
  let header ← readAt 0 (Header.reader data layout)
  let file : File := ⟨data, layout, header⟩
  let base := imageBase (← file.segments)
  let sections ← file.sections base
  .ok ⟨data, base, layout.is64, sections, .linkable⟩

end DebugRecovery.Linkable
