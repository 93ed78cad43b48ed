import MonkeySyntax.Text.Lines
import MonkeySyntax.Token.Scan

/-!
Contract: the tokens of a source text in print.

Owns: the listing, which has one token a line and ends with the end of the input.
-/

set_option autoImplicit false

namespace MonkeySyntax

/-- The tokens of a source text, one a line. -/
def tokenListing (source : String) : String :=
  Lines.print ((tokenize source).map Token.display)

end MonkeySyntax
