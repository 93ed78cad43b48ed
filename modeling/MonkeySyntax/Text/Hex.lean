/-!
Contract: numbers in hexadecimal digits of lower case.

Owns: the digit of a value below sixteen, and the last digits of a number.
-/

set_option autoImplicit false

namespace MonkeySyntax

namespace Hex

/-- The digit of a value below sixteen. -/
def digit (value : Nat) : Char :=
  Char.ofNat (if value < 10 then '0'.toNat + value else 'a'.toNat + (value - 10))

/-- The last digits of a number, as many as asked for, with zeros in front. -/
def digits : Nat → Nat → List Char
  | 0, _ => []
  | count + 1, number => digits count (number / 16) ++ [digit (number % 16)]

@[simp] theorem length_digits (count number : Nat) : (digits count number).length = count := by
  induction count generalizing number with
  | zero => rfl
  | succ count inductionHypothesis => simp [digits, inductionHypothesis]

end Hex

end MonkeySyntax
