import Mathlib.Data.List.TakeWhile
import MonkeySyntax.Proofs.Token.Scanning

/-!
Contract: the tokens of a text taken one by one are those it has as a whole.

Owns:
- the tokens of a text, continued forever by the end of the input;
- the tokens that a cursor gives when it is asked for one again and again, and that they are
  the same;
- the tokens ahead in a stream, by their number;
- the loops of a scan, character by character and token by token, and that they end with what
  is read at once.
-/

set_option autoImplicit false

namespace MonkeySyntax

/-- The tokens of a text by their number, continued forever by the last one, which is the
end of the input. -/
def tokenAt (source : String) (index : Nat) : Token :=
  (tokenize source).getD index ((tokenize source).getLastD (Token.atEnd .start))

namespace TokenStream

/-- The tokens ahead by their number, continued forever by the end of the input. -/
def ahead (stream : TokenStream) (index : Nat) : Token :=
  stream.upcoming.getD index stream.endToken

theorem ahead_zero (stream : TokenStream) : stream.ahead 0 = stream.current := by
  unfold ahead current
  cases stream.upcoming <;> rfl

theorem ahead_succ (stream : TokenStream) (index : Nat) :
    stream.ahead (index + 1) = stream.advance.ahead index := by
  unfold ahead advance
  cases stream.upcoming <;> rfl

end TokenStream

theorem tokenAt_eq_ahead (source : String) (index : Nat) :
    tokenAt source index = (TokenStream.ofString source).ahead index := by
  unfold tokenAt tokenize TokenStream.toList TokenStream.ahead
  rw [List.getLastD_concat, List.getD_eq_getElem?_getD, List.getD_eq_getElem?_getD,
    List.getElem?_append]
  split
  · rfl
  · rename_i beyond
    rw [List.getElem?_eq_none (Nat.le_of_not_lt beyond)]
    cases index - (TokenStream.ofString source).upcoming.length <;> rfl

namespace Cursor

variable (cursor : Cursor)

theorem skipBlanks_skipBlanks : cursor.skipBlanks.skipBlanks = cursor.skipBlanks := by
  have noBlanks : ∀ char ∈ ([] : List Char), isBlankChar char = true :=
    List.forall_mem_nil _
  exact (skip_of_append (List.nil_append _).symm noBlanks cursor.not_blank_skipBlanks).2

theorem nextToken_of_none (ended : cursor.skipBlanks.token? = none) :
    cursor.nextToken = (Token.atEnd cursor.skipBlanks.place, cursor.skipBlanks) := by
  simp only [nextToken, ended, Option.getD_none]

theorem nextToken_of_token? {read : Token × Cursor} (found : cursor.skipBlanks.token? = some read) :
    cursor.nextToken = read := by
  simp only [nextToken, found, Option.getD_some]

theorem token?_eq_none_iff : cursor.token? = none ↔ cursor.rest = [] := by
  unfold token?
  split
  · rename_i ended
    exact iff_of_true rfl ended
  · rename_i first others unread
    exact iff_of_false nofun (by rw [unread]; exact List.cons_ne_nil _ _)

/-- A cursor has no token left when only blanks are. -/
theorem kind_nextToken_eq_endOfInput_iff :
    cursor.nextToken.1.kind = .endOfInput ↔ ∀ char ∈ cursor.rest, isBlankChar char = true := by
  rw [← List.dropWhile_eq_nil_iff]
  change _ ↔ cursor.skipBlanks.rest = []
  rw [← token?_eq_none_iff]
  cases found : cursor.skipBlanks.token? with
  | none =>
      rw [cursor.nextToken_of_none found]
      exact iff_of_true rfl rfl
  | some read =>
      rw [cursor.nextToken_of_token? found]
      have spelled := (divides_of_token? cursor.not_blank_skipBlanks found).1
      exact iff_of_false spelled.kind_ne_endOfInput nofun

theorem current_tokens : cursor.tokens.current = cursor.nextToken.1 := by
  cases found : cursor.skipBlanks.token? with
  | none =>
      rw [tokens_of_none found, cursor.nextToken_of_none found]
      rfl
  | some read =>
      rw [tokens_of_token? found, cursor.nextToken_of_token? found]
      rfl

/-- Behind its next token a cursor has the tokens that are left. -/
theorem advance_tokens : cursor.tokens.advance = cursor.nextToken.2.tokens := by
  cases found : cursor.skipBlanks.token? with
  | none =>
      rw [cursor.nextToken_of_none found, tokens_of_none found,
        tokens_congr cursor.skipBlanks_skipBlanks, tokens_of_none found]
      rfl
  | some read =>
      rw [cursor.nextToken_of_token? found, tokens_of_token? found]
      exact TokenStream.advance_push _ _

/-- The token that a cursor gives when it has been asked for some others before. -/
def pulled : Cursor → Nat → Token
  | cursor, 0 => cursor.nextToken.1
  | cursor, index + 1 => cursor.nextToken.2.pulled index

theorem pulled_eq_ahead (index : Nat) : cursor.pulled index = cursor.tokens.ahead index := by
  induction index generalizing cursor with
  | zero => rw [pulled, TokenStream.ahead_zero, current_tokens]
  | succ index inductionHypothesis =>
      rw [pulled, TokenStream.ahead_succ, advance_tokens, inductionHypothesis]

end Cursor

/-! ### The loops of a scan -/

namespace Cursor

/-- Moving over characters of a class one by one, until the text ends or a character of
another class is met. -/
inductive Skips (belongs : Char → Bool) : Cursor → Cursor → Prop where
  | stop {cursor : Cursor} (stops : cursor.atEnd = true ∨ belongs cursor.current = false) :
      Skips belongs cursor cursor
  | step {cursor behind : Cursor} (unread : cursor.atEnd = false)
      (goesOn : belongs cursor.current = true) (later : Skips belongs cursor.advance behind) :
      Skips belongs cursor behind

theorem skip_of_belongs {cursor : Cursor} {belongs : Char → Bool} {char : Char}
    {rest : List Char} (unread : cursor.rest = char :: rest) (isIn : belongs char = true) :
    cursor.skip belongs = cursor.advance.skip belongs := by
  obtain ⟨_, place⟩ := cursor
  subst unread
  simp only [skip, run, advance, current, List.dropWhile_cons_of_pos isIn,
    List.takeWhile_cons_of_pos isIn, List.tail_cons, List.headD_cons, Place.afterAll_cons]

/-- A run passed at once can be passed one character at a time. -/
theorem skips_skip (belongs : Char → Bool) (cursor : Cursor) :
    cursor.Skips belongs (cursor.skip belongs) := by
  obtain ⟨rest, place⟩ := cursor
  induction rest generalizing place with
  | nil => exact .stop (Or.inl rfl)
  | cons char rest inductionHypothesis =>
      by_cases isIn : belongs char = true
      · refine .step rfl isIn ?_
        rw [skip_of_belongs rfl isIn]
        exact inductionHypothesis (place.after char)
      · have passed : (⟨char :: rest, place⟩ : Cursor).skip belongs = ⟨char :: rest, place⟩ := by
          simp only [skip, run, List.dropWhile_cons_of_neg isIn, List.takeWhile_cons_of_neg isIn,
            Place.afterAll_nil]
        rw [passed]
        exact .stop (Or.inr (Bool.eq_false_iff.mpr isIn))

/-- Asking for one token after the other, until the end of the input is met. -/
inductive Lists : Cursor → List Token → Prop where
  | last {cursor : Cursor} (ended : cursor.nextToken.1.kind = .endOfInput) :
      Lists cursor [cursor.nextToken.1]
  | more {cursor : Cursor} {tokens : List Token}
      (unfinished : cursor.nextToken.1.kind ≠ .endOfInput)
      (later : Lists cursor.nextToken.2 tokens) : Lists cursor (cursor.nextToken.1 :: tokens)

/-- The tokens of a text can be read one at a time. -/
theorem lists_toList_tokens (cursor : Cursor) : cursor.Lists cursor.tokens.toList := by
  fun_induction tokens cursor with
  | case1 cursor ended =>
      have isNext := cursor.nextToken_of_none ended
      have isLast : cursor.nextToken.1.kind = .endOfInput := by rw [isNext]; rfl
      have lists := Lists.last isLast
      rw [isNext] at lists
      exact lists
  | case2 cursor token behind found shorter inductionHypothesis =>
      have isNext := cursor.nextToken_of_token? found
      have spelled := (divides_of_token? (not_blank_skipBlanks cursor) found).1
      have unfinished : cursor.nextToken.1.kind ≠ .endOfInput := by
        rw [isNext]
        exact spelled.kind_ne_endOfInput
      have lists := Lists.more unfinished (by rw [isNext]; exact inductionHypothesis)
      rw [isNext] at lists
      exact lists

end Cursor

/-- The tokens of a text are those that a cursor gives one after the other. -/
theorem tokenAt_eq_pulled (source : String) (index : Nat) :
    tokenAt source index = (Cursor.ofString source).pulled index := by
  rw [tokenAt_eq_ahead, Cursor.pulled_eq_ahead]
  rfl

end MonkeySyntax
