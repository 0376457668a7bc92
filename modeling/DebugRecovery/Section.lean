/-!
Sections and addresses. A section occupies a half-open range of the file and one
of memory; an address counts bytes of one of the two. An address maps to the
first section whose range in its space holds it.
-/

set_option autoImplicit false

namespace DebugRecovery

inductive AddressSpace where
  | file
  | memory
  deriving DecidableEq, Repr

def AddressSpace.label : AddressSpace → String
  | .file => "raw"
  | .memory => "virtual"

structure Address where
  value : Int
  space : AddressSpace
  deriving DecidableEq, Repr

/-- The numbers from `start` up to but without `stop`. -/
structure Span where
  start : Int
  stop : Int
  deriving DecidableEq, Repr

namespace Span

def holds (span : Span) (value : Int) : Bool := span.start ≤ value && value < span.stop

def size (span : Span) : Int := span.stop - span.start

theorem holds_iff (span : Span) (value : Int) :
    span.holds value = true ↔ span.start ≤ value ∧ value < span.stop := by
  simp [holds]

end Span

/-- Addresses in memory count from the image base. -/
structure Section where
  index : Int
  memory : Span
  file : Span
  name : String := ""
  deriving DecidableEq, Repr

def Section.span (entry : Section) : AddressSpace → Span
  | .file => entry.file
  | .memory => entry.memory

/-- A place in a section. -/
structure Placement where
  sectionIndex : Int
  offset : Int
  deriving DecidableEq, Repr

namespace Address

def placeIn? (address : Address) (entry : Section) : Option Placement :=
  let span := entry.span address.space
  if span.holds address.value then some ⟨entry.index, address.value - span.start⟩ else none

def place? (address : Address) (sections : List Section) : Option Placement :=
  sections.findSome? address.placeIn?

end Address

end DebugRecovery
