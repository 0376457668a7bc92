import DebugRecovery.Failure
import DebugRecovery.Journal
import DebugRecovery.Section
import DebugRecovery.Text.Numeral

/-!
A loaded binary: its bytes, preferred load address, word size and section table.
-/

set_option autoImplicit false

namespace DebugRecovery

inductive Image.Format where
  | portableExecutable
  | linkable
  deriving DecidableEq, Repr

def Image.Format.label : Image.Format → String
  | .portableExecutable => "PE"
  | .linkable => "ELF"

structure Image where
  data : ByteArray
  imageBase : Nat
  is64 : Bool
  sections : List Section
  format : Image.Format

/-- Why bytes are no image: a rule of the format is broken, or a table lies at an offset that no
file position reaches. -/
inductive ImageFailure where
  | invalid (detail : String)
  | unreachable
  deriving DecidableEq, Repr

def Image.loadedEntry (image : Image) : Entry :=
  let width := if image.is64 then "64" else "32"
  ⟨.info, Channel.image,
    s!"Loaded {image.format.label} image: base=0x{Text.hexadecimal image.imageBase}, " ++
      s!"{width}-bit, {image.sections.length} sections"⟩

end DebugRecovery
