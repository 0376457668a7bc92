/-!
Whole numbers in print: decimal, hexadecimal with lower-case digits, and a
fixed count of hexadecimal digits. A minus sign stands before the digits.
-/

set_option autoImplicit false

namespace DebugRecovery.Text

def hexDigit (value : Nat) : Char :=
  if value < 10 then Char.ofNat (48 + value) else Char.ofNat (87 + value)

/-- The value of a hexadecimal digit of either case. -/
def hexDigit? (character : Char) : Option Nat :=
  let code := character.toNat
  if 48 ≤ code && code ≤ 57 then some (code - 48)
  else if 65 ≤ code && code ≤ 70 then some (code - 55)
  else if 97 ≤ code && code ≤ 102 then some (code - 87)
  else none

theorem hex_digit_read (value : Fin 16) : hexDigit? (hexDigit value) = some value.val := by
  revert value
  decide

def decimalDigits (value : Nat) : List Char := Nat.toDigits 10 value

def decimal : Int → String
  | .ofNat value => String.ofList (decimalDigits value)
  | .negSucc value => String.ofList ('-' :: decimalDigits (value + 1))

def hexadecimal : Int → String
  | .ofNat value => String.ofList (Nat.toDigits 16 value)
  | .negSucc value => String.ofList ('-' :: Nat.toDigits 16 (value + 1))

/-- The last `count` hexadecimal digits of a number, the most significant first. -/
def hexDigits : Nat → Nat → List Char
  | 0, _ => []
  | count + 1, value => hexDigits count (value / 16) ++ [hexDigit (value % 16)]

/-- A decimal digit and the value it stands for. -/
def digit? (character : Char) : Option Nat :=
  let code := character.toNat
  if 48 ≤ code && code ≤ 57 then some (code - 48) else none

end DebugRecovery.Text
