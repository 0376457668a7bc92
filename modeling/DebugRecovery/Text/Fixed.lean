import DebugRecovery.Text.Numeral

/-!
Decimal numbers with a fixed count of places. The exact value of a binary
fraction is rounded to the nearest number with that many places, and of two
equally near ones to the even one. The sign stays even before zeros, and an
infinity has no digits.
-/

set_option autoImplicit false

namespace DebugRecovery.Text

/-- The quotient rounded to the nearest whole number, a tie to the even one. -/
def roundedQuotient (numerator denominator : Nat) : Nat :=
  let quotient := numerator / denominator
  let twice := 2 * (numerator % denominator)
  if twice < denominator then quotient
  else if denominator < twice then quotient + 1
  else quotient + quotient % 2

/-- A signed number `significand * 2 ^ raised / 2 ^ lowered`. -/
structure BinaryFraction where
  negative : Bool
  significand : Nat
  raised : Nat
  lowered : Nat
  deriving DecidableEq, Repr

/-- The value of a finite float by its 64 bits: sign, biased exponent and fraction. -/
def BinaryFraction.ofFloat (value : Float) : BinaryFraction :=
  let bits := value.toBits.toNat
  let field := bits / 0x10000000000000 % 0x800
  let fraction := bits % 0x10000000000000
  let significand := if field = 0 then fraction else 0x10000000000000 + fraction
  let exponent := max field 1
  ⟨bits / 0x8000000000000000 == 1, significand, exponent - 1075, 1075 - exponent⟩

/-- The digits of a number of `places` places after the point, with the point among them. -/
def pointed (places units : Nat) : List Char :=
  let digits := decimalDigits units
  let padded := List.replicate (places + 1 - digits.length) '0' ++ digits
  padded.take (padded.length - places) ++ '.' :: padded.drop (padded.length - places)

def BinaryFraction.fixed (places : Nat) (value : BinaryFraction) : String :=
  let scaled := value.significand * Nat.pow 2 value.raised * Nat.pow 10 places
  let units := roundedQuotient scaled (Nat.pow 2 value.lowered)
  String.ofList ((if value.negative then ['-'] else []) ++ pointed places units)

/-- Whether the biased exponent is not that of the infinities. -/
def isFinite (value : Float) : Bool := value.toBits.toNat / 0x10000000000000 % 0x800 != 0x7FF

def fixed (places : Nat) (value : Float) : String :=
  if isFinite value then (BinaryFraction.ofFloat value).fixed places
  else if value < 0 then "-inf"
  else "inf"

end DebugRecovery.Text
