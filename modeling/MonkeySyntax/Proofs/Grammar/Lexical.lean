import Mathlib.Data.List.Chain
import MonkeySyntax.Proofs.Source.Position
import MonkeySyntax.Source.Cursor

/-!
Contract: the lexical grammar of the Monkey language, as the type of its layouts.

Owns:
- the lexemes with their kinds, and which of them need something between them;
- layouts, which cut a text into lexemes and the blanks around them;
- the text of a layout, and its tokens with their positions.

Does not own: scanning. The scanner's tables are not mentioned here.
-/

set_option autoImplicit false

namespace MonkeySyntax

namespace Grammar

/-! ### Lexemes -/

/-- The operators and the delimiters. Each is spelled as a diagnostic shows it. -/
def fixedKinds : List TokenKind :=
  [.assign, .plus, .minus, .bang, .asterisk, .slash, .less, .greater, .equal, .notEqual,
    .comma, .semicolon, .leftParen, .rightParen, .leftBrace, .rightBrace]

/-- The lexemes of the language. Whatever is neither blank nor part of another lexeme is
one by itself. -/
inductive Lexeme : TokenKind → List Char → Prop where
  | fixed {kind : TokenKind} (isFixed : kind ∈ fixedKinds) : Lexeme kind kind.text.toList
  | word {word : List Char} (isNonempty : word ≠ [])
      (isWord : ∀ char ∈ word, isWordChar char = true) :
      Lexeme (TokenKind.ofWord (String.ofList word)) word
  | digits {digits : List Char} (isNonempty : digits ≠ [])
      (isDigit : ∀ char ∈ digits, isDigitChar char = true) : Lexeme .int digits
  | other {char : Char} (notBlank : isBlankChar char = false)
      (notWord : isWordChar char = false) (notDigit : isDigitChar char = false)
      (notFixed : ∀ kind ∈ fixedKinds, kind.text.toList ≠ [char]) : Lexeme .illegal [char]

/-- Whether two lexemes would be read otherwise when nothing stands between them: as one
word, as one number, or as one operator. -/
def Fuses (literal next : List Char) : Prop :=
  ((∀ char ∈ literal, isWordChar char = true) ∧ ∀ char ∈ next, isWordChar char = true) ∨
  ((∀ char ∈ literal, isDigitChar char = true) ∧ ∀ char ∈ next, isDigitChar char = true) ∨
  ((literal = ['='] ∨ literal = ['!']) ∧ next.head? = some '=')

instance (literal next : List Char) : Decidable (Fuses literal next) :=
  decidable_of_iff
    ((literal.all isWordChar = true ∧ next.all isWordChar = true) ∨
      (literal.all isDigitChar = true ∧ next.all isDigitChar = true) ∨
      ((literal = ['='] ∨ literal = ['!']) ∧ next.head? = some '='))
    (by simp only [Fuses, List.all_eq_true])

/-! ### Layouts -/

/-- A lexeme and the blanks in front of it. -/
structure Piece where
  gap : List Char
  kind : TokenKind
  literal : List Char
  isBlank : ∀ char ∈ gap, isBlankChar char = true
  isLexeme : Lexeme kind literal

/-- Something stands between two neighbours that need it. -/
def Piece.Apart (piece next : Piece) : Prop :=
  next.gap = [] → ¬ Fuses piece.literal next.literal

instance (piece next : Piece) : Decidable (piece.Apart next) :=
  inferInstanceAs (Decidable (_ → ¬ _))

/-- A text cut into lexemes, the blanks in front of each, and the blanks at the end. -/
structure Layout where
  pieces : List Piece
  closing : List Char
  isBlank : ∀ char ∈ closing, isBlankChar char = true
  isApart : pieces.IsChain Piece.Apart

/-- The text of some pieces. -/
def piecesText (pieces : List Piece) : List Char :=
  pieces.flatMap fun piece => piece.gap ++ piece.literal

/-- The tokens of some pieces that stand behind a text. -/
def tokensBehind (before : List Char) : List Piece → List Token
  | [] => []
  | piece :: pieces =>
      ⟨piece.kind, String.ofList piece.literal, (Place.behind (before ++ piece.gap)).line,
        (Place.behind (before ++ piece.gap)).column⟩ ::
        tokensBehind (before ++ piece.gap ++ piece.literal) pieces

/-- The whole text of a layout. -/
def Layout.text (layout : Layout) : List Char := piecesText layout.pieces ++ layout.closing

/-- The tokens of a layout: one for each lexeme, and the end of the input behind the whole
text. -/
def Layout.tokens (layout : Layout) : List Token :=
  tokensBehind [] layout.pieces ++
    [⟨.endOfInput, "", (Place.behind layout.text).line, (Place.behind layout.text).column⟩]

end Grammar

end MonkeySyntax
