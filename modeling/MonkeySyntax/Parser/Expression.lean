import MonkeySyntax.Parser.Statement
import MonkeySyntax.Text.Numeral

/-!
Contract: how the constructs of expressions are read.

Owns:
- the constructs that start an expression, among them literals, groups,
  conditionals and functions;
- the constructs that continue one: binary operators and calls.

Does not own: which token leads to which construct, and how the expressions
inside a construct are read.
-/

set_option autoImplicit false

namespace MonkeySyntax

namespace Parser

/-! ### Literals -/

/-- The greatest number an integer literal may denote. -/
def greatestInteger : Nat := 9223372036854775807

/-- How many digits the greatest number has. -/
def greatestIntegerDigits : Nat := 19

/-- What the text of an integer literal can turn out to be. -/
inductive IntegerReading where
  | value (number : Nat)
  | outOfRange
  | notANumeral
deriving DecidableEq, Repr

/-- Reads the text of an integer literal. Leading zeros do not count. A text that
is too long is out of range, whatever its characters are. -/
def readInteger (literal : String) : IntegerReading :=
  let digits := literal.toList.dropWhile (· == '0')
  if greatestIntegerDigits < digits.length then .outOfRange
  else
    match Numeral.value? digits with
    | none => .notANumeral
    | some number => if greatestInteger < number then .outOfRange else .value number

/-- Reads the current token as an integer. -/
def integer : ParseM (Option Node) := do
  let token ← current
  match readInteger token.literal with
  | .value number => return some (.integer token number)
  | .outOfRange =>
      report (.integerOutOfRange token.literal)
      return none
  | .notANumeral => abandon .notANumeral

/-- Reads the current token as a truth value: the word for truth is true, and any
other token is false. -/
def boolean : ParseM Node := do
  let token ← current
  return .boolean token (decide (token.kind = .trueWord))

/-! ### Operators, groups and calls -/

/-- Reads a unary operator and its operand. -/
def unary (expression : ExpressionReader) : ParseM (Option Node) := do
  let token ← current
  advance
  let operand ← expression .unary
  return operand.map (Node.unary token token.literal)

/-- Reads an operator and its right operand. What binds no tighter than the
operator is left to its caller, so equal operators group to the left. -/
def binary (expression : ExpressionReader) (left : Option Node) : ParseM (Option Node) := do
  let token ← current
  advance
  let right ← expression token.kind.precedence
  match left, right with
  | some left, some right => return some (.binary token left token.literal right)
  | _, _ => return none

/-- Reads an expression in parentheses, which add no node. -/
def group (expression : ExpressionReader) : ParseM (Option Node) := do
  advance
  let inside ← expression .lowest
  if ← expectNext .rightParen then return inside else return none

/-- One turn of an argument list: a comma leads to one more argument. -/
def argumentTurn (expression : ExpressionReader) (arguments : List (Option Node)) :
    ParseM (Turn (List (Option Node)) (List (Option Node))) := do
  let ahead ← next
  if ahead.kind = .comma then
    advance
    advance
    let argument ← expression .lowest
    return .again (argument :: arguments)
  else
    return .done arguments.reverse

/-- All the nodes of a list, or none when one is missing. -/
def allPresent : List (Option Node) → Option (List Node)
  | [] => some []
  | none :: _ => none
  | some node :: others => (allPresent others).map (node :: ·)

/-- Reads the arguments of a call. The current token is taken for the opening
parenthesis. All arguments are read even when one of them is missing. -/
def arguments (expression : ExpressionReader) : ParseM (Option (List Node)) := do
  let ahead ← next
  if ahead.kind = .rightParen then
    advance
    return some []
  else
    advance
    let first ← expression .lowest
    let all ← repeatTurns (argumentTurn expression) [first]
    if ← expectNext .rightParen then return allPresent all else return none

/-- Reads a call's arguments. -/
def call (expression : ExpressionReader) (callee : Option Node) : ParseM (Option Node) := do
  let token ← current
  let read ← arguments expression
  match callee, read with
  | some callee, some arguments => return some (.call token callee arguments)
  | _, _ => return none

/-! ### Conditionals and functions -/

/-- Reads what may follow the first block of a conditional. The outer answer is
missing when an alternative was announced and could not be read. -/
def alternative (expression : ExpressionReader) : ParseM (Option (Option Node)) := do
  let ahead ← next
  if ahead.kind = .elseWord then
    advance
    if ← expectNext .leftBrace then
      let read ← block expression
      return read.map some
    else
      return none
  else
    return some none

/-- Reads a conditional. A missing condition or first block is noticed only after
the alternative has been read. -/
def conditional (expression : ExpressionReader) : ParseM (Option Node) := do
  let token ← current
  if ← expectNext .leftParen then
    advance
    let condition ← expression .lowest
    if ← expectNext .rightParen then
      if ← expectNext .leftBrace then
        let consequence ← block expression
        let otherwise ← alternative expression
        match condition, consequence, otherwise with
        | some condition, some consequence, some otherwise =>
            return some (.conditional token condition consequence otherwise)
        | _, _, _ => return none
      else
        return none
    else
      return none
  else
    return none

/-- One turn of a parameter list: a comma leads to one more name, and otherwise
the list has to end. -/
def parameterTurn (names : List Node) : ParseM (Turn (List Node) (Option (List Node))) := do
  let ahead ← next
  if ahead.kind = .comma then
    advance
    if ← expectNext .ident then
      let name ← identifier
      return .again (name :: names)
    else
      return .done none
  else if ← expectNext .rightParen then
    return .done (some names.reverse)
  else
    return .done none

/-- Reads the parameters of a function. The current token is taken for the
opening parenthesis. -/
def parameters : ParseM (Option (List Node)) := do
  let ahead ← next
  if ahead.kind = .rightParen then
    advance
    return some []
  else if ← expectNext .ident then
    let name ← identifier
    repeatTurns parameterTurn [name]
  else
    return none

/-- Reads a function. -/
def function (expression : ExpressionReader) : ParseM (Option Node) := do
  let token ← current
  if ← expectNext .leftParen then
    match ← parameters with
    | none => return none
    | some names =>
        if ← expectNext .leftBrace then
          let body ← block expression
          return body.map (Node.function token names)
        else
          return none
  else
    return none

end Parser

end MonkeySyntax
