import MonkeySyntax.Source.Place
import MonkeySyntax.Token.Basic

/-!
Contract: places said by the text in front of them, and their order.

Owns:
- the line and the column behind a text, counted from its newlines, and that moving
  over the text leads there;
- the order in which places are met, which moving over a character goes up in.
-/

set_option autoImplicit false

namespace MonkeySyntax

namespace Place

/-- The place behind a text: one line more than there are newlines, and one column more
than there are characters behind the last of them. -/
def behind (before : List Char) : Place :=
  ⟨before.length, 1 + before.count '\n', 1 + (before.reverse.takeWhile (· ≠ '\n')).length⟩

theorem behind_append_singleton (before : List Char) (char : Char) :
    behind (before ++ [char]) = (behind before).after char := by
  unfold behind after
  by_cases newline : char = '\n'
  · simp [newline, Nat.add_assoc]
  · simp [newline, Nat.add_assoc]

theorem afterAll_behind (before run : List Char) :
    (behind before).afterAll run = behind (before ++ run) := by
  induction run generalizing before with
  | nil => rw [afterAll_nil, List.append_nil]
  | cons char run inductionHypothesis =>
      rw [afterAll_cons, ← behind_append_singleton, inductionHypothesis, List.append_assoc,
        List.singleton_append]

/-! ### The order of places -/

/-- Whether a place is met before another one. -/
def Precedes (place other : Place) : Prop :=
  place.line < other.line ∨ place.line = other.line ∧ place.column < other.column

theorem Precedes.trans {first second third : Place} (earlier : first.Precedes second)
    (later : second.Precedes third) : first.Precedes third := by
  unfold Precedes at *
  omega

theorem precedes_after (place : Place) (char : Char) : place.Precedes (place.after char) := by
  unfold Precedes after
  split
  · exact Or.inl (Nat.lt_succ_self _)
  · exact Or.inr ⟨rfl, Nat.lt_succ_self _⟩

theorem precedes_afterAll (place : Place) {run : List Char} (isNonempty : run ≠ []) :
    place.Precedes (place.afterAll run) := by
  induction run generalizing place with
  | nil => exact absurd rfl isNonempty
  | cons char run inductionHypothesis =>
      rw [afterAll_cons]
      by_cases isLast : run = []
      · rw [isLast, afterAll_nil]
        exact precedes_after place char
      · exact (precedes_after place char).trans (inductionHypothesis _ isLast)

theorem precedes_behind_append (before : List Char) {run : List Char} (isNonempty : run ≠ []) :
    (behind before).Precedes (behind (before ++ run)) := by
  rw [← afterAll_behind]
  exact precedes_afterAll _ isNonempty

end Place

namespace Token

/-- Whether a token starts before another one. -/
def Precedes (token other : Token) : Prop :=
  token.line < other.line ∨ token.line = other.line ∧ token.column < other.column

theorem Precedes.ne {token other : Token} (earlier : token.Precedes other) : token ≠ other := by
  rintro rfl
  unfold Precedes at earlier
  omega

theorem precedes_ofPlace {place other : Place} (earlier : place.Precedes other)
    (kind otherKind : TokenKind) (literal otherLiteral : String) :
    (ofPlace place kind literal).Precedes (ofPlace other otherKind otherLiteral) := by
  unfold Place.Precedes at earlier
  unfold Precedes ofPlace
  simp only
  omega

end Token

end MonkeySyntax
