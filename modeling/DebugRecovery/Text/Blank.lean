/-!
The blank characters of running text and the words between them. A word is a
longest run of characters that are not blank. The blanks are Unicode's
white-space characters together with the four information separators.
-/

set_option autoImplicit false

namespace DebugRecovery.Text

def isBlank (character : Char) : Bool :=
  let code := character.toNat
  (9 ≤ code && code ≤ 13) || (28 ≤ code && code ≤ 32) || code == 0x85 || code == 0xA0 ||
    code == 0x1680 || (0x2000 ≤ code && code ≤ 0x200A) || code == 0x2028 || code == 0x2029 ||
    code == 0x202F || code == 0x205F || code == 0x3000

/-- Whether the first word of a text starts at its first character. -/
def startsWord : List Char → Bool
  | [] => false
  | character :: _ => !isBlank character

/-- A character that is not blank joins the word that starts right after it. -/
def words : List Char → List (List Char)
  | [] => []
  | character :: rest =>
      if isBlank character then words rest
      else match startsWord rest, words rest with
        | true, first :: others => (character :: first) :: others
        | _, others => [character] :: others

theorem words_blank {character : Char} (rest : List Char) (blank : isBlank character = true) :
    words (character :: rest) = words rest := by
  simp [words, blank]

theorem words_lone {character : Char} (rest : List Char) (solid : isBlank character = false)
    (alone : startsWord rest = false) :
    words (character :: rest) = [character] :: words rest := by
  simp [words, solid, alone]

/-- The text without the blanks at its end. -/
def trimEnd (text : String) : String :=
  String.ofList (text.toList.reverse.dropWhile isBlank).reverse

end DebugRecovery.Text
