import DebugRecovery.Bytes
import DebugRecovery.Image
import DebugRecovery.Text.Quoted
import DebugRecovery.Text.Utf8

/-!
Portable Executable images. The section table is read up to the first header
that is all zero, lies at the end of the file or breaks three of five limits.
The sections are ordered by their address in memory and numbered from one.
-/

set_option autoImplicit false

namespace DebugRecovery.Portable

structure SectionHeader where
  name : List UInt8
  virtualSize : Nat
  virtualAddress : Nat
  rawSize : Nat
  rawPointer : Nat
  deriving DecidableEq, Repr

def headerLength : Nat := 40

/-- The header at an offset of the file, read from left to right. -/
def SectionHeader.at (data : ByteArray) (offset : Nat) : SectionHeader where
  name := slice data offset 8
  virtualSize := numberAt data (offset + 8) 4
  virtualAddress := numberAt data (offset + 12) 4
  rawSize := numberAt data (offset + 16) 4
  rawPointer := numberAt data (offset + 20) 4

structure Alignment where
  sections : Nat
  file : Nat
  deriving DecidableEq, Repr

/-- Sections finer than a page are aligned like the file. -/
def Alignment.ofSections (alignment : Alignment) : Nat :=
  if alignment.sections < 0x1000 then alignment.file else alignment.sections

def roundDown (value unit : Nat) : Nat := if unit = 0 then value else value / unit * unit

/-- For each of the five limits, whether a section header breaks it. -/
def SectionHeader.flaws (header : SectionHeader) (alignment : Alignment) (fileSize : Nat) :
    List Bool :=
  [fileSize < header.rawSize + header.rawPointer,
    fileSize < roundDown header.rawPointer 0x200,
    0x10000000 < header.virtualSize,
    0x10000000 < roundDown header.virtualAddress alignment.ofSections,
    alignment.file != 0 && header.rawPointer % alignment.file != 0]

def truncated : ImageFailure := .invalid "'Data length less than expected header length.'"

/-- The section headers from an offset on, at most `count` of them. -/
def sectionHeaders (data : ByteArray) (alignment : Alignment) :
    Nat → Nat → Except ImageFailure (List SectionHeader)
  | 0, _ => .ok []
  | count + 1, offset =>
      let bytes := slice data offset headerLength
      if bytes.isEmpty then .ok []
      else if bytes.length < headerLength then .error truncated
      else if bytes.all (· == 0) then .ok []
      else
        let header := SectionHeader.at data offset
        if 3 ≤ (header.flaws alignment data.size).count true then .ok []
        else do
          let rest ← sectionHeaders data alignment count (offset + headerLength)
          .ok (header :: rest)

/-- The name of a section stands in eight bytes with zeros behind it. -/
def SectionHeader.label (header : SectionHeader) : String :=
  String.ofList (Text.Utf8.replaced (header.name.reverse.dropWhile (· == 0)).reverse)

def SectionHeader.numbered (header : SectionHeader) (index : Nat) : Section where
  index := index
  memory := ⟨header.virtualAddress, header.virtualAddress + header.virtualSize⟩
  file := ⟨header.rawPointer, header.rawPointer + header.rawSize⟩
  name := header.label

def byAddress (headers : List SectionHeader) : List SectionHeader :=
  headers.mergeSort fun first second => first.virtualAddress ≤ second.virtualAddress

def sections (headers : List SectionHeader) : List Section :=
  (byAddress headers).mapIdx fun position header => header.numbered (position + 1)

/-- At most this many section headers are read. -/
def maxSections : Nat := 2048

def magic64 : Nat := 0x20B

/-- Where the optional header lies and what it says; its fields from the second half on may be
missing from the file and are zero then. -/
structure OptionalHeader where
  is64 : Bool
  imageBase : Nat
  alignment : Alignment
  deriving DecidableEq, Repr

/-- The bytes an optional header has to have at least. -/
def OptionalHeader.minimum (is64 : Bool) : Nat := if is64 then 73 else 69

def OptionalHeader.read? (data : ByteArray) (offset : Nat) : Option OptionalHeader :=
  let available := data.size - offset
  let is64 := numberAt data offset 2 == magic64
  if available < minimum false || available < minimum is64 then none
  else some {
    is64
    imageBase := if is64 then numberAt data (offset + 24) 8 else numberAt data (offset + 28) 4
    alignment := ⟨numberAt data (offset + 32) 4, numberAt data (offset + 36) 4⟩ }

/-- What stands in place of the signature of another kind of executable. -/
def otherKind? (signature : Nat) : Option String :=
  match signature % 0x10000 with
  | 0x454E => some "NE"
  | 0x454C => some "LE"
  | 0x584C => some "LX"
  | 0x5A56 => some "TE"
  | _ => none

def refuse (detail : String) : Except ImageFailure Unit :=
  .error (.invalid (Text.quoted detail))

def checkSignature (data : ByteArray) (offset : Nat) : Except ImageFailure Unit :=
  let signature := numberAt data offset 4
  if data.size < offset + 4 || signature == 0 then refuse "NT Headers not found."
  else match otherKind? signature with
    | some kind => refuse s!"Invalid NT Headers signature. Probably a {kind} file"
    | none =>
        if signature == 0x4550 then .ok () else refuse "Invalid NT Headers signature."

def read (data : ByteArray) : Except ImageFailure Image := do
  if data.size < 64 then
    refuse "Unable to read the DOS Header, possibly a truncated file."
  let start := numberAt data 60 4
  if data.size < start then refuse "Invalid e_lfanew value, probably not a PE file"
  checkSignature data start
  let fileHeader := start + 4
  let optionalHeader := fileHeader + 20
  if data.size < optionalHeader then refuse "File Header missing"
  let count := numberAt data (fileHeader + 2) 2
  let optionalSize := numberAt data (fileHeader + 16) 2
  match OptionalHeader.read? data optionalHeader with
  | none =>
      .error (.invalid "'No Optional Header found, invalid PE32 or PE32+ file.'")
  | some header => do
      let headers ← sectionHeaders data header.alignment (min count maxSections)
        (optionalHeader + optionalSize)
      .ok ⟨data, header.imageBase, header.is64, sections headers, .portableExecutable⟩

end DebugRecovery.Portable
