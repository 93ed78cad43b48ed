import MonkeySyntax.Parser.State

/-!
Contract: how statements, blocks and programs are read.

Owns: the rule of each kind of statement, the loop over the statements of a
block, and the loop over those of a program.

Does not own: how expressions are read, which is a parameter of every rule here.

A rule starts on the first token of its construct and ends on the last one. It
answers with no node when a part of the construct is missing.
-/

set_option autoImplicit false

namespace MonkeySyntax

namespace Parser

/-- The identifier that is the current token, whatever its kind. -/
def identifier : ParseM Node := do
  let token ← current
  return .identifier token token.literal

/-- Reads the expression at the end of a statement, and the semicolon behind it
if there is one. -/
def closingExpression (expression : ExpressionReader) : ParseM (Option Node) := do
  let value ← expression .lowest
  advanceTo .semicolon
  return value

/-- Reads a name, an equals sign and a value. -/
def letStatement (expression : ExpressionReader) : ParseM (Option Node) := do
  let token ← current
  if ← expectNext .ident then
    let name ← identifier
    if ← expectNext .assign then
      advance
      let value ← closingExpression expression
      return value.map (Node.letStatement token name)
    else
      return none
  else
    return none

/-- Reads the value to return. -/
def returnStatement (expression : ExpressionReader) : ParseM (Option Node) := do
  let token ← current
  advance
  let value ← closingExpression expression
  return value.map (Node.returnStatement token)

/-- Reads an expression that stands alone. -/
def expressionStatement (expression : ExpressionReader) : ParseM (Option Node) := do
  let token ← current
  let value ← closingExpression expression
  return value.map (Node.expressionStatement token)

/-- Reads the statement that the current token starts. -/
def statement (expression : ExpressionReader) : ParseM (Option Node) := do
  let token ← current
  match token.kind with
  | .letWord => letStatement expression
  | .returnWord => returnStatement expression
  | _ => expressionStatement expression

/-- One turn of a block: the closing brace ends it, the end of the input breaks
it off, and anything else is a statement to be kept if it has a node. -/
def blockTurn (expression : ExpressionReader) (token : Token) (statements : List Node) :
    ParseM (Turn (List Node) (Option Node)) := do
  let ahead ← current
  if ahead.kind = .rightBrace then
    return .done (some (.block token statements.reverse))
  else if ahead.kind = .endOfInput then
    report .unclosedBlock
    return .done none
  else
    let read ← statement expression
    advance
    return .again (read.toList ++ statements)

/-- Reads a block. The current token is taken for its opening brace. -/
def block (expression : ExpressionReader) : ParseM (Option Node) := do
  let token ← current
  advance
  repeatTurns (blockTurn expression token) []

/-- One turn of a program: the end of the input ends it, and so does a statement
that is nested too deeply, which is reported. -/
def programTurn (expression : ExpressionReader) (statements : List Node) :
    ParseM (Turn (List Node) (List Node)) := do
  let ahead ← current
  if ahead.kind = .endOfInput then
    return .done statements.reverse
  else
    match ← unlessTooDeep (statement expression) with
    | none =>
        report .nestedTooDeeply
        return .done statements.reverse
    | some read =>
        advance
        return .again (read.toList ++ statements)

/-- Reads statements up to the end of the input. -/
def program (expression : ExpressionReader) : ParseM (List Node) :=
  repeatTurns (programTurn expression) []

end Parser

end MonkeySyntax
