import DebugRecovery.Image.Linkable
import DebugRecovery.Image.Portable

/-!
Reading an image: its first bytes tell the format.
-/

set_option autoImplicit false

namespace DebugRecovery.Image

def format? (data : ByteArray) : Option Image.Format :=
  if slice data 0 4 == [0x7F, 0x45, 0x4C, 0x46] then some .linkable
  else if slice data 0 2 == [0x4D, 0x5A] then some .portableExecutable
  else none

def read (data : ByteArray) : Except ImageFailure Image :=
  match format? data with
  | some .linkable => Linkable.read data
  | some .portableExecutable => Portable.read data
  | none =>
      .error (.invalid
        s!"Unrecognized binary format (magic {Text.quotedBytes (slice data 0 4)})")

end DebugRecovery.Image
