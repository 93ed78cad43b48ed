import Mathlib.Algebra.Group.Nat.Defs
import MonkeySyntax.Json.Text

/-!
Contract: what a quoted string and a number tell.

Owns:
- that so many hexadecimal digits tell every number that has no more of them;
- the ways in which a character is written in a string, and that none of them starts another;
- where the text of a string and the text of a number end.

Does not own: lists, objects and layouts.
-/

set_option autoImplicit false

namespace MonkeySyntax

/-! ### Hexadecimal digits -/

namespace Hex

theorem digit_inj : ∀ first < 16, ∀ second < 16, digit first = digit second → first = second := by
  decide

theorem exists_of_mem_digits {count number : Nat} {char : Char}
    (listed : char ∈ digits count number) : ∃ value < 16, char = digit value := by
  induction count generalizing number with
  | zero => cases listed
  | succ count inductionHypothesis =>
      rcases List.mem_append.mp listed with inFront | isLast
      · exact inductionHypothesis inFront
      · exact ⟨number % 16, Nat.mod_lt _ (by decide), List.mem_singleton.mp isLast⟩

/-- The last digits of a number that has no more of them tell it. -/
theorem digits_inj {count first second : Nat} (isShort : first < 16 ^ count)
    (isShortToo : second < 16 ^ count) (same : digits count first = digits count second) :
    first = second := by
  induction count generalizing first second with
  | zero => omega
  | succ count inductionHypothesis =>
      rw [digits, digits] at same
      obtain ⟨sameFront, sameLast⟩ := List.append_inj same (by simp)
      have sameQuotient : first / 16 = second / 16 :=
        inductionHypothesis (by omega) (by omega) sameFront
      have sameRest : first % 16 = second % 16 :=
        digit_inj _ (by omega) _ (by omega) (List.singleton_inj.mp sameLast)
      omega

end Hex

namespace Json

variable {rest other : List Char}

/-! ### Characters in a string -/

theorem escapeUnit_append_inj {first second : Nat} (isShort : first < 0x10000)
    (isShortToo : second < 0x10000)
    (same : escapeUnit first ++ rest = escapeUnit second ++ other) :
    first = second ∧ rest = other := by
  obtain ⟨sameUnit, sameRest⟩ := List.append_inj same (by simp [escapeUnit])
  have sameDigits : Hex.digits 4 first = Hex.digits 4 second := by simpa [escapeUnit] using sameUnit
  exact ⟨Hex.digits_inj (by omega) (by omega) sameDigits, sameRest⟩

theorem newline_notMem_escapeUnit (unit : Nat) : '\n' ∉ escapeUnit unit := by
  intro listed
  have isDigit : '\n' ∈ Hex.digits 4 unit := by simpa [escapeUnit] using listed
  obtain ⟨value, isBelow, isSame⟩ := Hex.exists_of_mem_digits isDigit
  exact (by decide : ∀ value < 16, '\n' ≠ Hex.digit value) value isBelow isSame

/-- The characters that are written as a letter behind a backslash, with their letters. -/
def shortEscapes : List (Char × Char) :=
  [('"', '"'), ('\\', '\\'), ('\n', 'n'), ('\r', 'r'), ('\t', 't'), ('\x08', 'b'), ('\x0c', 'f')]

/-- The ways to write a character in a string: as it is, as a letter behind a backslash, or as
the one or two sixteen-bit units of its code. -/
inductive Escaped (char : Char) : List Char → Prop
  | plain (notQuote : char ≠ '"') (notBackslash : char ≠ '\\') (notNewline : char ≠ '\n') :
      Escaped char [char]
  | short (letter : Char) (listed : (char, letter) ∈ shortEscapes) : Escaped char ['\\', letter]
  | unit (isShort : char.toNat < 0x10000) : Escaped char (escapeUnit char.toNat)
  | pair (beyond : Nat) (isLong : char.toNat = 0x10000 + beyond) :
      Escaped char (escapeUnit (0xD800 + beyond / 1024) ++ escapeUnit (0xDC00 + beyond % 1024))

theorem escapeChar_of_short :
    ∀ escape ∈ shortEscapes, escapeChar escape.1 = ['\\', escape.2] := by
  decide

theorem escaped_escapeChar (char : Char) : Escaped char (escapeChar char) := by
  by_cases isShort : ∃ letter, (char, letter) ∈ shortEscapes
  · obtain ⟨letter, listed⟩ := isShort
    rw [escapeChar_of_short _ listed]
    exact .short letter listed
  · have notShort : ∀ escape ∈ shortEscapes, char ≠ escape.1 := fun escape listed same =>
      isShort ⟨escape.2, same ▸ listed⟩
    simp only [shortEscapes, List.forall_mem_cons] at notShort
    obtain ⟨notQuote, notBackslash, notNewline, notReturn, notTab, notBackspace, notFeed, -⟩ :=
      notShort
    rw [escapeChar, if_neg notQuote, if_neg notBackslash, if_neg notNewline, if_neg notReturn,
      if_neg notTab, if_neg notBackspace, if_neg notFeed]
    split
    next => exact .plain notQuote notBackslash notNewline
    next =>
      split
      next isBasic => exact .unit isBasic
      next isBeyond => exact .pair _ (by omega)

namespace Escaped

variable {char another letter : Char} {text anotherText : List Char}

theorem toNat_lt (char : Char) :
    char.toNat < 0xD800 ∨ 0xDFFF < char.toNat ∧ char.toNat < 0x110000 :=
  char.valid

theorem ne_of_short (listed : (char, letter) ∈ shortEscapes) : letter ≠ 'u' :=
  (by decide : ∀ escape ∈ shortEscapes, escape.2 ≠ 'u') _ listed

theorem eq_of_short (listed : (char, letter) ∈ shortEscapes)
    (listedToo : (another, letter) ∈ shortEscapes) : char = another :=
  (by decide : ∀ first ∈ shortEscapes, ∀ second ∈ shortEscapes,
    first.2 = second.2 → first.1 = second.1) _ listed _ listedToo rfl

/-- No way to write a character starts a way to write another one, so a character can be told
from what is behind it. -/
theorem append_inj (escaped : Escaped char text) (escapedToo : Escaped another anotherText)
    (same : text ++ rest = anotherText ++ other) : char = another ∧ rest = other := by
  have isCode := toNat_lt char
  have isCodeToo := toNat_lt another
  cases escaped with
  | plain _ notBackslash =>
      cases escapedToo with
      | plain => exact List.cons.inj same
      | _ => exact absurd (List.cons.inj same).1 notBackslash
  | short letter listed =>
      cases escapedToo with
      | plain _ notBackslash => exact absurd (List.cons.inj same).1.symm notBackslash
      | short anotherLetter listedToo =>
          obtain ⟨rfl, sameRest⟩ := List.cons.inj (List.cons.inj same).2
          exact ⟨eq_of_short listed listedToo, sameRest⟩
      | _ => exact absurd (List.cons.inj (List.cons.inj same).2).1 (ne_of_short listed)
  | unit isShort =>
      cases escapedToo with
      | plain _ notBackslash => exact absurd (List.cons.inj same).1.symm notBackslash
      | short _ listedToo =>
          exact absurd (List.cons.inj (List.cons.inj same).2).1.symm (ne_of_short listedToo)
      | unit isShortToo =>
          obtain ⟨sameCode, sameRest⟩ := escapeUnit_append_inj isShort isShortToo same
          exact ⟨Char.toNat_inj.mp sameCode, sameRest⟩
      | pair beyond isLong =>
          rw [List.append_assoc] at same
          -- The first unit of a pair is no character's code.
          have sameUnit := (escapeUnit_append_inj isShort (by omega) same).1
          omega
  | pair beyond isLong =>
      rw [List.append_assoc] at same
      cases escapedToo with
      | plain _ notBackslash => exact absurd (List.cons.inj same).1.symm notBackslash
      | short _ listedToo =>
          exact absurd (List.cons.inj (List.cons.inj same).2).1.symm (ne_of_short listedToo)
      | unit isShortToo =>
          have sameUnit := (escapeUnit_append_inj (by omega) isShortToo same).1
          omega
      | pair beyondToo isLongToo =>
          rw [List.append_assoc] at same
          obtain ⟨sameHigh, sameBehind⟩ := escapeUnit_append_inj (by omega) (by omega) same
          obtain ⟨sameLow, sameRest⟩ := escapeUnit_append_inj (by omega) (by omega) sameBehind
          exact ⟨Char.toNat_inj.mp (by omega), sameRest⟩

theorem newline_notMem (escaped : Escaped char text) : '\n' ∉ text := by
  cases escaped with
  | plain _ _ notNewline => exact fun listed => notNewline (List.mem_singleton.mp listed).symm
  | short letter listed =>
      have notNewline : '\n' ≠ letter :=
        (by decide : ∀ escape ∈ shortEscapes, '\n' ≠ escape.2) _ listed
      simpa using notNewline
  | unit => exact newline_notMem_escapeUnit _
  | pair =>
      exact List.not_mem_append (newline_notMem_escapeUnit _) (newline_notMem_escapeUnit _)

/-- A quotation mark in a string is never written as it is. -/
theorem append_ne_quote_cons (escaped : Escaped char text) : text ++ rest ≠ '"' :: other := by
  intro same
  cases escaped with
  | plain notQuote => exact notQuote (List.cons.inj same).1
  | _ => exact absurd (List.cons.inj same).1 (by decide)

end Escaped

/-! ### Strings -/

theorem toList_quote (text : String) :
    (quote text).toList = '"' :: (text.toList.flatMap escapeChar ++ ['"']) := by
  simp [quote]

theorem flatMap_escapeChar_append_inj (first : List Char) :
    ∀ {second : List Char},
      first.flatMap escapeChar ++ '"' :: rest = second.flatMap escapeChar ++ '"' :: other →
        first = second ∧ rest = other := by
  induction first with
  | nil =>
      intro second same
      cases second with
      | nil => exact ⟨rfl, (List.cons.inj same).2⟩
      | cons another others =>
          rw [List.flatMap_cons, List.append_assoc] at same
          exact absurd same.symm (escaped_escapeChar another).append_ne_quote_cons
  | cons char chars inductionHypothesis =>
      intro second same
      rw [List.flatMap_cons, List.append_assoc] at same
      cases second with
      | nil => exact absurd same (escaped_escapeChar char).append_ne_quote_cons
      | cons another others =>
          rw [List.flatMap_cons, List.append_assoc] at same
          obtain ⟨rfl, sameBehind⟩ :=
            (escaped_escapeChar char).append_inj (escaped_escapeChar another) same
          obtain ⟨rfl, sameRest⟩ := inductionHypothesis sameBehind
          exact ⟨rfl, sameRest⟩

/-- A quoted string can be told from what is behind it. -/
theorem quote_append_inj {first second : String}
    (same : (quote first).toList ++ rest = (quote second).toList ++ other) :
    first = second ∧ rest = other := by
  rw [toList_quote, toList_quote, List.cons_append, List.cons_append, List.append_assoc,
    List.append_assoc] at same
  obtain ⟨sameText, sameRest⟩ := flatMap_escapeChar_append_inj _ (List.cons.inj same).2
  exact ⟨String.toList_inj.mp sameText, sameRest⟩

theorem newline_notMem_quote (text : String) : '\n' ∉ (quote text).toList := by
  rw [toList_quote]
  simp [fun char => (escaped_escapeChar char).newline_notMem]

/-! ### Numbers -/

theorem toList_toString_int (value : Int) :
    (toString value).toList =
      if 0 ≤ value then Nat.toDigits 10 value.toNat else '-' :: Nat.toDigits 10 (-value).toNat := by
  rw [Int.toString_eq_repr, Int.repr_eq_if]
  split <;> simp

theorem toString_int_ne_nil (value : Int) : (toString value).toList ≠ [] := by
  rw [toList_toString_int]
  split
  · exact Nat.toDigits_ne_nil
  · exact List.cons_ne_nil _ _

theorem toDigits_ne_minus {number another : Nat} :
    Nat.toDigits 10 number ≠ '-' :: Nat.toDigits 10 another := by
  intro same
  have isDigit : ('-').isDigit = true :=
    Nat.isDigit_of_mem_toDigits (by decide) (by decide) (same ▸ List.mem_cons_self)
  exact absurd isDigit (by decide)

theorem toString_int_inj {first second : Int}
    (same : (toString first).toList = (toString second).toList) : first = second := by
  have isRead (number : Nat) : Nat.ofDigitChars 10 (Nat.toDigits 10 number) 0 = number :=
    Nat.ofDigitChars_toDigits (by decide) (by decide)
  have sameNumber {number another : Nat}
      (same : Nat.toDigits 10 number = Nat.toDigits 10 another) : number = another := by
    rw [← isRead number, same, isRead]
  rw [toList_toString_int, toList_toString_int] at same
  split at same <;> split at same
  next => have := sameNumber same; omega
  next => exact absurd same toDigits_ne_minus
  next => exact absurd same.symm toDigits_ne_minus
  next => have := sameNumber (List.cons.inj same).2; omega

/-- Whether a number can be written with a character. -/
def isNumberChar (char : Char) : Bool :=
  char == '-' || char.isDigit

theorem isNumberChar_of_mem {value : Int} {char : Char}
    (listed : char ∈ (toString value).toList) : isNumberChar char = true := by
  have ofDigits {number : Nat} (listed : char ∈ Nat.toDigits 10 number) :
      isNumberChar char = true := by
    rw [isNumberChar, Nat.isDigit_of_mem_toDigits (by decide) (by decide) listed, Bool.or_true]
  rw [toList_toString_int] at listed
  split at listed
  · exact ofDigits listed
  · rcases List.mem_cons.mp listed with rfl | listed
    · rfl
    · exact ofDigits listed

theorem takeWhile_toString_append (value : Int)
    (stops : ∀ char ∈ rest.head?, isNumberChar char = false) :
    ((toString value).toList ++ rest).takeWhile isNumberChar = (toString value).toList := by
  have noneBehind : rest.takeWhile isNumberChar = [] := by
    cases rest with
    | nil => rfl
    | cons char behind => exact List.takeWhile_cons_of_neg (by simp [stops char rfl])
  rw [List.takeWhile_append_of_pos fun _ => isNumberChar_of_mem, noneBehind, List.append_nil]

/-- A number can be told from what is behind it, if that does not go on like a number. -/
theorem toString_append_inj {first second : Int}
    (stops : ∀ char ∈ rest.head?, isNumberChar char = false)
    (stopsToo : ∀ char ∈ other.head?, isNumberChar char = false)
    (same : (toString first).toList ++ rest = (toString second).toList ++ other) :
    first = second ∧ rest = other := by
  have sameText : (toString first).toList = (toString second).toList := by
    rw [← takeWhile_toString_append first stops, same, takeWhile_toString_append second stopsToo]
  exact ⟨toString_int_inj sameText, List.append_cancel_left (sameText ▸ same)⟩

end Json

end MonkeySyntax
