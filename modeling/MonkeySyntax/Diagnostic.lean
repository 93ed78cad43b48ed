import MonkeySyntax.Token.Basic

/-!
Contract: what a parse can find wrong with a text.

Owns:
- the causes, and the message of each;
- the report of a cause, which keeps the two tokens in view when it was found.

Does not own: where the rules report which cause.
-/

set_option autoImplicit false

namespace MonkeySyntax

/-- A cause for which a text is refused. -/
inductive Diagnostic where
  /-- A token of one kind was required and one of another kind came next. -/
  | unexpected (required found : TokenKind)
  /-- The input ended inside a block. -/
  | unclosedBlock
  /-- No expression starts with a token of this kind. -/
  | startsNoExpression (kind : TokenKind)
  /-- The number that a literal denotes is out of range. -/
  | integerOutOfRange (literal : String)
  /-- An expression exceeds the nesting limit. -/
  | nestedTooDeeply
  /-- A remark made by whoever drives the parse. -/
  | remark (text : String)
deriving DecidableEq, Repr

namespace Diagnostic

/-- The message for a required kind that did not come next. -/
def unexpectedMessage (required found : TokenKind) : String :=
  "expected next token to be " ++ required.text ++ ", got " ++ found.text ++ " instead"

/-- The message that tells a reader the cause. -/
def message : Diagnostic → String
  | .unexpected required found => unexpectedMessage required found
  | .unclosedBlock => unexpectedMessage .rightBrace .endOfInput
  | .startsNoExpression kind => "no prefix parse function for " ++ kind.text ++ " found"
  | .integerOutOfRange literal => "could not parse \"" ++ literal ++ "\" as integer"
  | .nestedTooDeeply => "expression nested too deeply"
  | .remark text => text

end Diagnostic

/-- A cause together with the current and the next token at the moment it was
found. -/
structure Report where
  diagnostic : Diagnostic
  current : Token
  next : Token
deriving DecidableEq, Repr

namespace Report

/-- The message of the reported cause. -/
def message (report : Report) : String := report.diagnostic.message

/-- The line by which a running log tells of a report: the current token and the
message. -/
def logText (report : Report) : String :=
  "parse error at " ++ report.current.display ++ ": " ++ report.message

end Report

end MonkeySyntax
