import DebugRecovery.Bytes
import DebugRecovery.Image

/-!
Fields of Executable and Linkable Format files. A field is a number of a fixed
width in the byte order of the file; fields are read one after the other, and
one that the file cuts short says how much of it was left.
-/

set_option autoImplicit false

namespace DebugRecovery.Linkable

/-- The layout of the numbers in one file. -/
structure Layout where
  is64 : Bool
  order : ByteOrder
  deriving DecidableEq, Repr

/-- The width of an address. -/
def Layout.word (layout : Layout) : Nat := if layout.is64 then 8 else 4

/-- Reads fields one after the other, from an offset that moves along. -/
abbrev Reader := StateT Nat (Except ImageFailure)

/-- Offsets from here on are no file positions. -/
def offsetLimit : Nat := 0x8000000000000000

def tooShort (expected found : Nat) : ImageFailure :=
  .invalid s!"expected {expected}, found {found}"

/-- A number of the given width. -/
def field (data : ByteArray) (order : ByteOrder) (width : Nat) : Reader Nat := fun offset =>
  if offset + width ≤ data.size then
    .ok (order.number (slice data offset width), offset + width)
  else .error (tooShort width (data.size - offset))

def skipBytes (data : ByteArray) : Nat → Reader Unit
  | 0 => pure ()
  | count + 1 => do
      let _ ← field data .little 1
      skipBytes data count

/-- An array with its first missing element, of which some bytes may be left. -/
def cutArray (count found width left : Nat) : ImageFailure :=
  let element := s!"FieldError(FieldError('expected {width}, found {left}'))"
  .invalid s!"('expected {count}, found {found}', {element})"

/-- Passes over an array of numbers of the given width. -/
def skipArray (data : ByteArray) (width count : Nat) : Reader Unit := fun offset =>
  let left := data.size - offset
  if count * width ≤ left then .ok ((), offset + count * width)
  else .error (cutArray count (left / width) width (left % width))

def readAt {Value : Type} (offset : Nat) (reader : Reader Value) : Except ImageFailure Value :=
  if offset < offsetLimit then (reader offset).map Prod.fst else .error .unreachable

end DebugRecovery.Linkable
