import MonkeySyntax.Parser.Expression

/-!
Contract: which token leads to which construct, and how expressions are read by
these rules.

Owns:
- the names of what can be done at the start of an expression and behind one;
- rule tables, the standard one, and changes to a table;
- the reading of an expression by precedence, with a limit on its nesting.

Does not own: the constructs.
-/

set_option autoImplicit false

namespace MonkeySyntax

namespace Parser

/-- What can be done at the start of an expression: to read a construct, to pass
over the current token, or to tell at which level a token continues an
expression. -/
inductive OpeningRule where
  | identifier
  | integer
  | boolean
  | unary
  | group
  | conditional
  | function
  | parameters
  | arguments
  | block
  | letStatement
  | returnStatement
  | expressionStatement
  | statement
  | program
  | skip
  | currentLevel
  | nextLevel
deriving DecidableEq, Repr

/-- A construct that can be read behind an expression and takes it in. -/
inductive ContinuationRule where
  | binary
  | call
deriving DecidableEq, Repr

/-- Follows a rule from the current token on. A token passed over leaves no node. -/
def OpeningRule.read (expression : ExpressionReader) : OpeningRule → ParseM (Option Node)
  | .identifier => return some (← Parser.identifier)
  | .integer => Parser.integer
  | .boolean => return some (← Parser.boolean)
  | .unary => Parser.unary expression
  | .group => Parser.group expression
  | .conditional => Parser.conditional expression
  | .function => Parser.function expression
  | .parameters => return (← Parser.parameters).map Node.sequence
  | .arguments => return (← Parser.arguments expression).map Node.sequence
  | .block => Parser.block expression
  | .letStatement => Parser.letStatement expression
  | .returnStatement => Parser.returnStatement expression
  | .expressionStatement => Parser.expressionStatement expression
  | .statement => Parser.statement expression
  | .program => return some (.program (← Parser.program expression))
  | .skip => do
      advance
      return none
  | .currentLevel => return some (.level (← current).kind.precedence)
  | .nextLevel => return some (.level (← next).kind.precedence)

/-- Reads a construct from the current token on, behind a left part that may be
missing. -/
def ContinuationRule.read (expression : ExpressionReader) :
    ContinuationRule → Option Node → ParseM (Option Node)
  | .binary => Parser.binary expression
  | .call => Parser.call expression

/-- The rules that lead from a token's kind to a construct. -/
structure Rules where
  opening : TokenKind → Option OpeningRule
  continuation : TokenKind → Option ContinuationRule

namespace Rules

/-- The tokens that start an expression of the language. -/
def standardOpenings : List (TokenKind × OpeningRule) :=
  [(.ident, .identifier), (.int, .integer), (.trueWord, .boolean), (.falseWord, .boolean),
    (.bang, .unary), (.minus, .unary), (.leftParen, .group), (.ifWord, .conditional),
    (.functionWord, .function)]

/-- The tokens that continue an expression of the language. -/
def standardContinuations : List (TokenKind × ContinuationRule) :=
  [(.plus, .binary), (.minus, .binary), (.slash, .binary), (.asterisk, .binary),
    (.equal, .binary), (.notEqual, .binary), (.less, .binary), (.greater, .binary),
    (.leftParen, .call)]

/-- The rules of the language. -/
def standard : Rules where
  opening kind := standardOpenings.lookup kind
  continuation kind := standardContinuations.lookup kind

/-- Sets or removes the opening rule of a kind. -/
def withOpening (rules : Rules) (kind : TokenKind) (rule : Option OpeningRule) : Rules :=
  { rules with opening := fun asked => if asked = kind then rule else rules.opening asked }

/-- Sets or removes the continuation rule of a kind. -/
def withContinuation (rules : Rules) (kind : TokenKind) (rule : Option ContinuationRule) :
    Rules :=
  { rules with
    continuation := fun asked => if asked = kind then rule else rules.continuation asked }

/-- One turn behind a left part: it ends before a token that binds no tighter
than the level, and before one without a rule. -/
def continuationTurn (rules : Rules) (expression : ExpressionReader) (level : Precedence)
    (left : Option Node) : ParseM (Turn (Option Node) (Option Node)) := do
  let ahead ← next
  if level < ahead.kind.precedence then
    match rules.continuation ahead.kind with
    | none => return .done left
    | some rule =>
        advance
        return .again (← rule.read expression left)
  else
    return .done left

/-- Reads an expression up to an operator that binds no tighter than the level.
The expressions inside its constructs are read as given. -/
def expressionBy (rules : Rules) (expression : ExpressionReader) (level : Precedence) :
    ParseM (Option Node) := do
  let token ← current
  match rules.opening token.kind with
  | none =>
      report (.startsNoExpression token.kind)
      return none
  | some rule =>
      let left ← rule.read expression
      repeatTurns (rules.continuationTurn expression level) left

/-- Reads an expression on a deeper level, and those inside it on levels below, of which
there are only so many. -/
def expressionBelow (rules : Rules) (limit : Nat) : Nat → ExpressionReader
  | 0, _ => abandon .nestedTooDeeply
  | levels + 1, level =>
      deeper limit (rules.expressionBy (rules.expressionBelow limit levels) level)

/-- Reads an expression within a nesting limit. There is one level more than the limit
allows, so that it is always the limit at which the parse is abandoned. -/
def reader (rules : Rules) (limit : Nat) : ExpressionReader :=
  rules.expressionBelow limit (limit + 1)

end Rules

end Parser

end MonkeySyntax
