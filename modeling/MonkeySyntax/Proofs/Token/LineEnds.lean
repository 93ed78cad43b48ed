import MonkeySyntax.Proofs.Token.Unplaced
import MonkeySyntax.Text.Lines

/-!
Contract: the tokens of a text whose line ends are changed to newlines.

Owns:
- where the change of line ends passes into the parts of a text;
- the change of the line ends of a layout, which concerns only the blanks;
- that a text has the same lexemes before the change and after it.

Does not own: the positions of the tokens, which do change.
-/

set_option autoImplicit false

namespace MonkeySyntax

namespace Lines

/-- Line ends can be changed on both sides of a character that is no newline. -/
theorem unify_append {behind : List Char} (notNewline : ∀ char ∈ behind.head?, char ≠ '\n')
    (front : List Char) : unify (front ++ behind) = unify front ++ unify behind := by
  fun_induction unify front with
  | case1 => rfl
  | case2 rest inductionHypothesis =>
      simp only [List.cons_append, unify, inductionHypothesis]
  | case3 rest notPair inductionHypothesis =>
      have stillNotPair : ∀ others, rest ++ behind ≠ '\n' :: others := by
        intro others isPair
        cases rest with
        | nil => exact notNewline '\n' (by rw [← List.nil_append behind, isPair]; rfl) rfl
        | cons char rest =>
            cases isPair
            exact notPair rest rfl
      rw [List.cons_append, unify, inductionHypothesis, List.cons_append]
      exact stillNotPair
  | case4 char rest notPair notReturn inductionHypothesis =>
      rw [List.cons_append, unify, inductionHypothesis, List.cons_append]
      · exact fun _ isReturn _ => notReturn isReturn
      · exact notReturn

/-- A text without carriage returns stays as it is in front of another one. -/
theorem unify_append_of_not_mem {front : List Char} (noReturn : '\r' ∉ front)
    (behind : List Char) : unify (front ++ behind) = front ++ unify behind := by
  induction front with
  | nil => rfl
  | cons char front inductionHypothesis =>
      rw [List.mem_cons, not_or] at noReturn
      rw [List.cons_append, unify, inductionHypothesis noReturn.2, List.cons_append]
      · exact fun _ isReturn _ => noReturn.1 isReturn.symm
      · exact fun isReturn => noReturn.1 isReturn.symm

theorem unify_eq_nil_iff (text : List Char) : unify text = [] ↔ text = [] := by
  fun_cases unify text <;> simp

theorem isBlank_unify {gap : List Char} (isBlank : ∀ char ∈ gap, isBlankChar char = true) :
    ∀ char ∈ unify gap, isBlankChar char = true := by
  fun_induction unify gap with
  | case1 => exact isBlank
  | case2 rest inductionHypothesis =>
      simp only [List.forall_mem_cons] at isBlank ⊢
      exact ⟨rfl, inductionHypothesis isBlank.2.2⟩
  | case3 rest _ inductionHypothesis =>
      simp only [List.forall_mem_cons] at isBlank ⊢
      exact ⟨rfl, inductionHypothesis isBlank.2⟩
  | case4 char rest _ _ inductionHypothesis =>
      simp only [List.forall_mem_cons] at isBlank ⊢
      exact ⟨isBlank.1, inductionHypothesis isBlank.2⟩

end Lines

namespace Grammar

theorem Lexeme.return_not_mem {kind : TokenKind} {literal : List Char}
    (lexeme : Lexeme kind literal) : '\r' ∉ literal := by
  intro listed
  cases lexeme with
  | fixed isFixed =>
      have all : ∀ kind ∈ fixedKinds, '\r' ∉ kind.text.toList := by decide +kernel
      exact all kind isFixed listed
  | word _ isWord => exact absurd (isWord _ listed) (by decide)
  | digits _ isDigit => exact absurd (isDigit _ listed) (by decide)
  | other notBlank =>
      rw [← List.mem_singleton.mp listed] at notBlank
      exact absurd notBlank (by decide)

/-- A piece with newlines as its line ends. -/
def Piece.unify (piece : Piece) : Piece where
  gap := Lines.unify piece.gap
  kind := piece.kind
  literal := piece.literal
  isBlank := Lines.isBlank_unify piece.isBlank
  isLexeme := piece.isLexeme

/-- Where line ends are changed, something still stands between neighbours that need it. -/
theorem Piece.Apart.unify {piece next : Piece} (apart : piece.Apart next) :
    piece.unify.Apart next.unify :=
  fun isGap => apart ((Lines.unify_eq_nil_iff next.gap).mp isGap)

/-- A layout with newlines as its line ends. -/
def Layout.unify (layout : Layout) : Layout where
  pieces := layout.pieces.map Piece.unify
  closing := Lines.unify layout.closing
  isBlank := Lines.isBlank_unify layout.isBlank
  isApart := List.isChain_map_of_isChain Piece.unify (fun _ _ => Piece.Apart.unify) layout.isApart

/-- The change of line ends passes over the lexemes. -/
theorem unify_piecesText (pieces : List Piece) (closing : List Char) :
    Lines.unify (piecesText pieces ++ closing) =
      piecesText (pieces.map Piece.unify) ++ Lines.unify closing := by
  induction pieces with
  | nil => rfl
  | cons piece pieces inductionHypothesis =>
      have notNewline : ∀ char ∈ (piece.literal ++ (piecesText pieces ++ closing)).head?,
          char ≠ '\n' := by
        obtain ⟨first, others, starts, notBlank⟩ := piece.isLexeme.exists_first
        rw [starts]
        rintro char ⟨⟩ rfl
        exact absurd notBlank (by decide)
      rw [piecesText_cons, List.append_assoc, List.append_assoc, Lines.unify_append notNewline,
        Lines.unify_append_of_not_mem piece.isLexeme.return_not_mem, inductionHypothesis,
        List.map_cons, piecesText_cons, List.append_assoc, List.append_assoc]
      rfl

theorem Layout.text_unify (layout : Layout) : layout.unify.text = Lines.unify layout.text :=
  (unify_piecesText layout.pieces layout.closing).symm

end Grammar

/-- The tokens of a text keep their kinds and their texts when its line ends are changed to
newlines. -/
theorem lexemes_unify (source : String) :
    (tokenize (String.ofList (Lines.unify source.toList))).map Token.lexeme =
      (tokenize source).map Token.lexeme := by
  obtain ⟨layout, rfl⟩ := exists_layout_of_string source
  have lexemes : ∀ before (pieces : List Grammar.Piece),
      (Grammar.tokensBehind before pieces).map Token.lexeme =
        pieces.map fun piece => piece.token.lexeme := by
    intro before pieces
    have unplaced := congrArg (List.map Token.lexeme) (unplaced_tokensBehind before pieces)
    rw [List.map_map, List.map_map] at unplaced
    exact unplaced
  rw [String.toList_ofList, ← layout.text_unify, tokenize, tokenize,
    TokenStream.ofString_layout, TokenStream.ofString_layout]
  simp only [TokenStream.toList, List.map_append, lexemes, Grammar.Layout.unify, List.map_map]
  rfl

end MonkeySyntax
