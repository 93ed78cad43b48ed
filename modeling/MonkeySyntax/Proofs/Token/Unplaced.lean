import MonkeySyntax.Proofs.Token.Layout

/-!
Contract: tokens without their positions.

Owns:
- leaving out the position of a token, and all the places of a stream;
- what is left of a token then, and that two texts with the same such parts have the same
  tokens without positions;
- that a text has the same tokens wherever it stands, but for their positions.
-/

set_option autoImplicit false

namespace MonkeySyntax

open Grammar

/-- A token without its position. -/
def Token.unplaced (token : Token) : Token := { token with line := 0, column := 0 }

@[simp] theorem Token.kind_unplaced (token : Token) : token.unplaced.kind = token.kind := rfl

@[simp] theorem Token.literal_unplaced (token : Token) :
    token.unplaced.literal = token.literal := rfl

/-- What a token is and how it reads, wherever it stands. -/
def Token.lexeme (token : Token) : TokenKind × String := (token.kind, token.literal)

theorem Token.map_unplaced_of_lexeme {tokens others : List Token}
    (same : tokens.map lexeme = others.map lexeme) :
    tokens.map unplaced = others.map unplaced := by
  have placed := congrArg (List.map fun (kind, literal) => (⟨kind, literal, 0, 0⟩ : Token)) same
  rw [List.map_map, List.map_map] at placed
  exact placed

namespace TokenStream

/-- A stream without the positions of its tokens and without the place of its end. -/
def unplaced (stream : TokenStream) : TokenStream :=
  ⟨stream.upcoming.map Token.unplaced, ⟨0, 0, 0⟩⟩

theorem current_unplaced (stream : TokenStream) :
    stream.unplaced.current = stream.current.unplaced := by
  obtain ⟨upcoming, finish⟩ := stream
  cases upcoming <;> rfl

theorem advance_unplaced (stream : TokenStream) :
    stream.unplaced.advance = stream.advance.unplaced := by
  unfold advance unplaced
  rw [List.map_tail]

theorem next_unplaced (stream : TokenStream) : stream.unplaced.next = stream.next.unplaced := by
  rw [← current_advance, advance_unplaced, current_unplaced, current_advance]

theorem remaining_unplaced (stream : TokenStream) :
    stream.unplaced.remaining = stream.remaining :=
  List.length_map _

theorem unplaced_ofString_of_lexeme {first second : String}
    (same : (tokenize first).map Token.lexeme = (tokenize second).map Token.lexeme) :
    (ofString first).unplaced = (ofString second).unplaced := by
  have withoutEnd := congrArg List.dropLast (Token.map_unplaced_of_lexeme same)
  rw [← List.map_dropLast, ← List.map_dropLast, tokenize_dropLast, tokenize_dropLast]
    at withoutEnd
  unfold unplaced
  rw [withoutEnd]

end TokenStream

/-! ### Texts at different places -/

/-- The token of a piece, without its position. -/
def Grammar.Piece.token (piece : Piece) : Token := ⟨piece.kind, String.ofList piece.literal, 0, 0⟩

theorem unplaced_tokensBehind (before : List Char) (pieces : List Piece) :
    (tokensBehind before pieces).map Token.unplaced = pieces.map Piece.token := by
  induction pieces generalizing before with
  | nil => rfl
  | cons piece pieces inductionHypothesis =>
      rw [tokensBehind, List.map_cons, inductionHypothesis, List.map_cons]
      rfl

theorem kind_tokensBehind (before : List Char) (pieces : List Piece) :
    (tokensBehind before pieces).map Token.kind = pieces.map Piece.kind := by
  have kinds := congrArg (List.map Token.kind) (unplaced_tokensBehind before pieces)
  rw [List.map_map, List.map_map] at kinds
  exact kinds

/-- A text has the same tokens behind one text and behind another, but for their
positions. -/
theorem Cursor.unplaced_tokens (text before other : List Char) :
    (⟨text, .behind before⟩ : Cursor).tokens.unplaced =
      (⟨text, .behind other⟩ : Cursor).tokens.unplaced := by
  obtain ⟨layout, rfl⟩ := exists_layout ⟨text, .start⟩
  unfold TokenStream.unplaced
  rw [tokens_of_layout, tokens_of_layout, unplaced_tokensBehind, unplaced_tokensBehind]

end MonkeySyntax
