import MonkeySyntax.Source.Cursor
import MonkeySyntax.Token.Stream

/-!
Contract: the tokens of a source text.

Owns:
- the token that starts under a cursor;
- the token after a cursor, which passes over blanks and repeats at the end;
- the tokens of a whole text.

No text is refused: a character that starts no token is a token of its own.
-/

set_option autoImplicit false

namespace MonkeySyntax

namespace Cursor

/-- The token of the one character under the cursor. -/
def single (cursor : Cursor) (kind : TokenKind) : Token × Cursor :=
  (Token.ofPlace cursor.place kind (String.ofList [cursor.current]), cursor.advance)

/-- The token of the character under the cursor and the `=` behind it. -/
def withEquals (cursor : Cursor) (kind : TokenKind) : Token × Cursor :=
  (Token.ofPlace cursor.place kind (String.ofList [cursor.current, '=']),
    cursor.advance.advance)

/-- The token that starts with the character under the cursor, and the cursor
behind it; none at the end of the text. -/
def token? (cursor : Cursor) : Option (Token × Cursor) :=
  match cursor.rest with
  | [] => none
  | first :: _ =>
      some <|
        match TokenKind.doubles.lookup first, TokenKind.singles.lookup first with
        | some (alone, paired), _ =>
            if cursor.next = '=' then cursor.withEquals paired else cursor.single alone
        | none, some kind => cursor.single kind
        | none, none =>
            if isWordChar first then
              let (word, behind) := cursor.readWord
              (Token.ofPlace cursor.place (TokenKind.ofWord word) word, behind)
            else if isDigitChar first then
              let (digits, behind) := cursor.readDigits
              (Token.ofPlace cursor.place .int digits, behind)
            else cursor.single .illegal

/-- The next token behind any blanks, and the cursor behind it. At the end of the
text this is the end of the input, however often it is asked for. -/
def nextToken (cursor : Cursor) : Token × Cursor :=
  let ahead := cursor.skipBlanks
  ahead.token?.getD (Token.atEnd ahead.place, ahead)

/-- Reading a token leaves less to read. -/
theorem length_rest_lt_of_token? {cursor behind : Cursor} {token : Token}
    (found : cursor.token? = some (token, behind)) :
    behind.rest.length < cursor.rest.length := by
  unfold token? at found
  split at found
  · cases found
  · rename_i first others unread
    have shorter : cursor.advance.rest.length < cursor.rest.length := by
      simp [rest_advance, unread]
    have shorterStill : cursor.advance.advance.rest.length < cursor.rest.length := by
      simp only [rest_advance, unread, List.tail_cons, List.length_tail, List.length_cons]
      omega
    rw [Option.some.injEq] at found
    split at found
    · split at found
      · cases found
        exact shorterStill
      · cases found
        exact shorter
    · cases found
      exact shorter
    · split at found
      · rename_i starts
        cases found
        exact length_rest_skip_lt cursor isWordChar unread starts
      · split at found
        · rename_i starts
          cases found
          exact length_rest_skip_lt cursor isDigitChar unread starts
        · cases found
          exact shorter

/-- The tokens from a cursor to the end of its text. -/
def tokens (cursor : Cursor) : TokenStream :=
  match found : cursor.skipBlanks.token? with
  | none => ⟨[], cursor.skipBlanks.place⟩
  | some (token, behind) =>
      have : behind.rest.length < cursor.rest.length :=
        Nat.lt_of_lt_of_le (length_rest_lt_of_token? found)
          (length_rest_skip_le cursor isBlankChar)
      behind.tokens.push token
termination_by cursor.rest.length

end Cursor

/-- The tokens of a source text, as a stream. -/
def TokenStream.ofString (source : String) : TokenStream :=
  (Cursor.ofString source).tokens

/-- The tokens of a source text, with the end of the input as the last one. -/
def tokenize (source : String) : List Token :=
  (TokenStream.ofString source).toList

end MonkeySyntax
