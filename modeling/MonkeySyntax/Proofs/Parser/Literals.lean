import Mathlib.Data.List.Induction
import MonkeySyntax.Parser.Expression
import MonkeySyntax.Proofs.Grammar.Derivation
import MonkeySyntax.Proofs.Parser.Steps

/-!
Contract: the numbers that integer literals denote.

Owns: the reading of a literal that consists of decimal digits, however many, which
has a value exactly when the number they denote is in range, and the rule that reads the
current token so.

Leading zeros are dropped and the length is tested before a number is computed. The
test on the length must agree with the comparison of numbers, which it does since the
first digit that is left is not zero.
-/

set_option autoImplicit false

namespace MonkeySyntax

open Grammar (decimal)

/-! ### Digits and numbers -/

theorem Grammar.decimal_append_singleton (digits : List Char) (last : Char) :
    decimal (digits ++ [last]) = 10 * decimal digits + (last.toNat - '0'.toNat) := by
  unfold decimal
  rw [List.foldl_append]
  rfl

theorem Grammar.decimal_zero_cons (digits : List Char) : decimal ('0' :: digits) = decimal digits :=
  rfl

theorem Grammar.decimal_dropWhile_zero (digits : List Char) :
    decimal (digits.dropWhile (· == '0')) = decimal digits := by
  induction digits with
  | nil => rfl
  | cons first others inductionHypothesis =>
      by_cases isZero : first = '0'
      · rw [List.dropWhile_cons_of_pos (by simpa using isZero), inductionHypothesis, isZero,
          decimal_zero_cons]
      · rw [List.dropWhile_cons_of_neg (by simpa using isZero)]

/-- A decimal digit is one of the ten characters from zero to nine. -/
theorem isDigitChar_iff (char : Char) :
    isDigitChar char = true ↔ '0'.toNat ≤ char.toNat ∧ char.toNat ≤ '9'.toNat := by
  unfold isDigitChar
  rw [Bool.and_eq_true, decide_eq_true_eq, decide_eq_true_eq]
  rfl

/-- Digits whose first one is not zero denote a number of as many digits. -/
theorem Grammar.pow_le_decimal {first : Char} (others : List Char)
    (isDigit : isDigitChar first = true) (notZero : first ≠ '0') :
    10 ^ others.length ≤ decimal (first :: others) := by
  induction others using List.reverseRecOn with
  | nil =>
      have atLeast := ((isDigitChar_iff first).mp isDigit).1
      have apart : first.toNat ≠ '0'.toNat := fun same => notZero (Char.toNat_inj.mp same)
      change 1 ≤ 10 * 0 + (first.toNat - '0'.toNat)
      omega
  | append_singleton others last inductionHypothesis =>
      rw [← List.cons_append, decimal_append_singleton, List.length_append, List.length_singleton,
        Nat.pow_succ]
      omega

theorem digitChar_of_isDigit {char : Char} (isDigit : isDigitChar char = true) :
    char.toNat - '0'.toNat < 10 ∧ Nat.digitChar (char.toNat - '0'.toNat) = char := by
  obtain ⟨atLeast, atMost⟩ := (isDigitChar_iff char).mp isDigit
  change 48 ≤ char.toNat at atLeast
  change char.toNat ≤ 57 at atMost
  have small : char.toNat - '0'.toNat < 10 := by
    change char.toNat - 48 < 10
    omega
  refine ⟨small, Char.toNat_inj.mp ?_⟩
  rw [Nat.toNat_digitChar_of_lt_ten small]
  change 48 + (char.toNat - 48) = char.toNat
  omega

/-- Digits without a superfluous zero in front are those of the number that they denote. -/
theorem Grammar.toDigits_decimal (digits : List Char) (isNonempty : digits ≠ [])
    (isDigit : ∀ char ∈ digits, isDigitChar char = true)
    (noZero : digits = ['0'] ∨ digits.head? ≠ some '0') :
    Nat.toDigits 10 (decimal digits) = digits := by
  induction digits using List.reverseRecOn with
  | nil => exact absurd rfl isNonempty
  | append_singleton digits last inductionHypothesis =>
      obtain ⟨small, isLast⟩ :=
        digitChar_of_isDigit (isDigit last (List.mem_append_right _ List.mem_cons_self))
      rw [decimal_append_singleton]
      cases digits with
      | nil =>
          change Nat.toDigits 10 (10 * 0 + _) = [last]
          rw [Nat.mul_zero, Nat.zero_add, Nat.toDigits_of_lt_base small, isLast]
      | cons first others =>
          have notZero : first ≠ '0' := by
            rcases noZero with isZero | notZero
            · simp at isZero
            · simpa using notZero
          have earlier := inductionHypothesis (List.cons_ne_nil _ _)
            (fun char listed => isDigit char (List.mem_append_left _ listed))
            (Or.inr (by simpa using notZero))
          have positive : 0 < decimal (first :: others) :=
            Nat.lt_of_lt_of_le (Nat.pow_pos (by decide))
              (pow_le_decimal others (isDigit first (by simp)) notZero)
          rw [← Nat.toDigits_append_toDigits (by decide) positive small, earlier,
            Nat.toDigits_of_lt_base small, isLast]

namespace Numeral

theorem digitValue?_of_isDigit {char : Char} (isDigit : isDigitChar char = true) :
    digitValue? char = some (char.toNat - '0'.toNat) := by
  obtain ⟨atLeast, atMost⟩ := (isDigitChar_iff char).mp isDigit
  have below : char.toNat < '0'.toNat + 10 := Nat.lt_succ_of_le atMost
  unfold digitValue? zeros
  rw [List.find?_cons_of_pos (by simpa using ⟨atLeast, below⟩)]
  rfl

theorem value?_of_isDigit (digits : List Char)
    (isDigit : ∀ char ∈ digits, isDigitChar char = true) :
    value? digits = some (decimal digits) := by
  induction digits using List.reverseRecOn with
  | nil => rfl
  | append_singleton digits last inductionHypothesis =>
      have earlier := inductionHypothesis fun char listed =>
        isDigit char (List.mem_append_left _ listed)
      have atLast :=
        digitValue?_of_isDigit (isDigit last (List.mem_append_right _ List.mem_cons_self))
      unfold value? at earlier ⊢
      rw [List.foldlM_append, earlier, Grammar.decimal_append_singleton]
      simp [atLast]

end Numeral

/-! ### Literals -/

namespace Parser

/-- A literal of digits has the number they denote as its value when it is in range,
and is refused otherwise. -/
theorem readInteger_of_isDigit (literal : String)
    (isDigit : ∀ char ∈ literal.toList, isDigitChar char = true) :
    readInteger literal =
      if decimal literal.toList ≤ 2 ^ 63 - 1 then .value (decimal literal.toList)
      else .outOfRange := by
  have same := Grammar.decimal_dropWhile_zero literal.toList
  have leftDigits : ∀ char ∈ literal.toList.dropWhile (· == '0'), isDigitChar char = true :=
    fun char listed => isDigit char ((List.dropWhile_suffix _).subset listed)
  have stops := List.head?_dropWhile_not (· == '0') literal.toList
  unfold readInteger
  generalize literal.toList.dropWhile (· == '0') = digits at same leftDigits stops
  by_cases tooLong : greatestIntegerDigits < digits.length
  · have large : 10 ^ greatestIntegerDigits ≤ decimal digits := by
      cases digits with
      | nil => exact absurd tooLong (by decide)
      | cons first others =>
          have longEnough : greatestIntegerDigits ≤ others.length := Nat.le_of_lt_succ tooLong
          have notZero : first ≠ '0' := by simpa using stops
          exact Nat.le_trans (Nat.pow_le_pow_right (by decide) longEnough)
            (Grammar.pow_le_decimal others (leftDigits first List.mem_cons_self) notZero)
    have beyond : (2 : Nat) ^ 63 - 1 < 10 ^ greatestIntegerDigits := by decide
    rw [if_pos tooLong, if_neg (by omega)]
  · rw [if_neg tooLong, Numeral.value?_of_isDigit digits leftDigits, same]
    by_cases inRange : decimal literal.toList ≤ 2 ^ 63 - 1
    · rw [if_pos inRange]
      exact if_neg (Nat.not_lt.mpr inRange)
    · rw [if_neg inRange]
      exact if_pos (Nat.lt_of_not_le inRange)

/-- A token of digits gives the number that they denote when it is in range, and is reported
otherwise. -/
theorem integer_of_isDigit {state : State}
    (isDigit : ∀ char ∈ state.stream.current.literal.toList, isDigitChar char = true) :
    integer state =
      if decimal state.stream.current.literal.toList ≤ 2 ^ 63 - 1 then
        .ok (some (.integer state.stream.current (decimal state.stream.current.literal.toList)))
          state
      else .ok none (state.told (.integerOutOfRange state.stream.current.literal)) := by
  unfold integer
  rw [bind_of_ok (current_run state), readInteger_of_isDigit _ isDigit]
  by_cases inRange : decimal state.stream.current.literal.toList ≤ 2 ^ 63 - 1
  · rw [if_pos inRange, if_pos inRange]
    rfl
  · rw [if_neg inRange, if_neg inRange]
    rfl

end Parser

end MonkeySyntax
