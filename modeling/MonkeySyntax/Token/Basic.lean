import MonkeySyntax.Source.Place
import MonkeySyntax.Token.Kind

/-!
Contract: one token of a Monkey text.

Owns: the token record, the token that marks the end of the input, and the text
by which a token is shown.

Does not own: how tokens are read.
-/

set_option autoImplicit false

namespace MonkeySyntax

/-- A token: its kind, its exact source text, and the line and the column of its
first character. -/
structure Token where
  kind : TokenKind
  literal : String
  line : Int
  column : Int
deriving DecidableEq, Repr

namespace Token

/-- The token of a kind and a source text that starts at a place. -/
def ofPlace (place : Place) (kind : TokenKind) (literal : String) : Token :=
  ⟨kind, literal, place.line, place.column⟩

/-- The token that stands at the end of the input. -/
def atEnd (place : Place) : Token :=
  Token.ofPlace place .endOfInput ""

/-- The text by which a token is shown, which leaves out its position. -/
def display (token : Token) : String :=
  "Token(" ++ token.kind.name ++ ", " ++ token.literal ++ ")"

@[simp] theorem kind_atEnd (place : Place) : (atEnd place).kind = .endOfInput := rfl

@[simp] theorem literal_atEnd (place : Place) : (atEnd place).literal = "" := rfl

end Token

end MonkeySyntax
