/-!
Capital letters. The capital form of a character is kept here only where all of
it is ASCII; a character whose capital form is not, stands for itself.
-/

set_option autoImplicit false

namespace DebugRecovery.Text

/-- Besides the small letters there are the dotless i, the long s, the sharp s and six ligatures. -/
def capitals (character : Char) : List Char :=
  match character.toNat with
  | 0xDF => ['S', 'S']
  | 0x131 => ['I']
  | 0x17F => ['S']
  | 0xFB00 => ['F', 'F']
  | 0xFB01 => ['F', 'I']
  | 0xFB02 => ['F', 'L']
  | 0xFB03 => ['F', 'F', 'I']
  | 0xFB04 => ['F', 'F', 'L']
  | 0xFB05 => ['S', 'T']
  | 0xFB06 => ['S', 'T']
  | _ => [character.toUpper]

def capitalized (text : String) : String := String.ofList (text.toList.flatMap capitals)

end DebugRecovery.Text
