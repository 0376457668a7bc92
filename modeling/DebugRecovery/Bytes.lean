/-!
Numbers inside a byte buffer. A number is a run of bytes in one of two orders;
a run that reaches past the end of the buffer is cut short there.
-/

set_option autoImplicit false

namespace DebugRecovery

inductive ByteOrder where
  | little
  | big
  deriving DecidableEq, Repr

/-- The number whose least significant byte comes first. -/
def littleEndian : List UInt8 → Nat
  | [] => 0
  | byte :: rest => byte.toNat + 256 * littleEndian rest

def ByteOrder.number : ByteOrder → List UInt8 → Nat
  | .little, bytes => littleEndian bytes
  | .big, bytes => littleEndian bytes.reverse

/-- The bytes at the offsets from `start` on that lie inside the buffer, at most `length` of them. -/
def slice (data : ByteArray) (start : Nat) : Nat → List UInt8
  | 0 => []
  | length + 1 =>
      if inside : start < data.size then data[start] :: slice data (start + 1) length else []

/-- The little-endian number of `width` bytes at an offset; bytes past the end count as zero. -/
def numberAt (data : ByteArray) (offset width : Nat) : Nat := littleEndian (slice data offset width)

end DebugRecovery
