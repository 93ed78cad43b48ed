import MonkeySyntax.Precedence
import MonkeySyntax.Token.Basic

/-!
Contract: the syntax trees of Monkey programs.

Owns:
- the node type, with the token of each node and its literal;
- decidable equality of trees, which compares tokens and their positions too.

Does not own: which trees a parse returns. The rules of a parse may be
rearranged by their user, and a statement may then stand where the language has
an expression. So statements and expressions share one type, lists and levels of
binding can stand in it too, and the shape of an ordinary program is a fact about
the standard rules.
-/

set_option autoImplicit false

namespace MonkeySyntax

/-- A node of a syntax tree. All but the last three keep the token they were
read from. -/
inductive Node where
  | identifier (token : Token) (value : String)
  | integer (token : Token) (value : Int)
  | boolean (token : Token) (value : Bool)
  | unary (token : Token) (operator : String) (operand : Node)
  /-- The token is the operator's. -/
  | binary (token : Token) (left : Node) (operator : String) (right : Node)
  | conditional (token : Token) (condition consequence : Node) (alternative : Option Node)
  | function (token : Token) (parameters : List Node) (body : Node)
  /-- The token is the parenthesis that opens the arguments. -/
  | call (token : Token) (callee : Node) (arguments : List Node)
  | letStatement (token : Token) (name value : Node)
  | returnStatement (token : Token) (value : Node)
  /-- The token is the first one of the expression. -/
  | expressionStatement (token : Token) (expression : Node)
  | block (token : Token) (statements : List Node)
  | program (statements : List Node)
  /-- The names or the arguments between two parentheses, when a rule that reads
  such a list stands where an expression is read. -/
  | sequence (items : List Node)
  /-- A level of binding, when a rule that tells one stands where an expression is
  read. -/
  | level (value : Precedence)
deriving Repr

namespace Node

/-- The name of a node's class. -/
def className : Node → String
  | .identifier .. => "Identifier"
  | .integer .. => "IntegerLiteral"
  | .boolean .. => "Boolean"
  | .unary .. => "PrefixExpression"
  | .binary .. => "InfixExpression"
  | .conditional .. => "IfExpression"
  | .function .. => "FunctionLiteral"
  | .call .. => "CallExpression"
  | .letStatement .. => "LetStatement"
  | .returnStatement .. => "ReturnStatement"
  | .expressionStatement .. => "ExpressionStatement"
  | .block .. => "BlockStatement"
  | .program .. => "Program"
  | .sequence .. => "Sequence"
  | .level .. => "Level"

/-- The token a node was read from. -/
def token? : Node → Option Token
  | .identifier token _ => some token
  | .integer token _ => some token
  | .boolean token _ => some token
  | .unary token _ _ => some token
  | .binary token _ _ _ => some token
  | .conditional token _ _ _ => some token
  | .function token _ _ => some token
  | .call token _ _ => some token
  | .letStatement token _ _ => some token
  | .returnStatement token _ => some token
  | .expressionStatement token _ => some token
  | .block token _ => some token
  | .program _ => none
  | .sequence _ => none
  | .level _ => none

/-- The source text of a node's own token. A program has that of its first
statement, and an empty one has none. -/
def tokenLiteral : Node → String
  | .program (first :: _) => first.tokenLiteral
  | node => (node.token?.map Token.literal).getD ""

/-- The nodes directly under a node, in the order of its fields. -/
def children : Node → List Node
  | .identifier .. => []
  | .integer .. => []
  | .boolean .. => []
  | .unary _ _ operand => [operand]
  | .binary _ left _ right => [left, right]
  | .conditional _ condition consequence alternative =>
      condition :: consequence :: alternative.toList
  | .function _ parameters body => parameters ++ [body]
  | .call _ callee arguments => callee :: arguments
  | .letStatement _ name value => [name, value]
  | .returnStatement _ value => [value]
  | .expressionStatement _ expression => [expression]
  | .block _ statements => statements
  | .program statements => statements
  | .sequence items => items
  | .level _ => []

/-! ### Equality -/

mutual

/-- Whether two trees agree in everything. -/
def agree : Node → Node → Bool
  | .identifier token value, .identifier otherToken otherValue =>
      token == otherToken && value == otherValue
  | .integer token value, .integer otherToken otherValue =>
      token == otherToken && value == otherValue
  | .boolean token value, .boolean otherToken otherValue =>
      token == otherToken && value == otherValue
  | .unary token operator operand, .unary otherToken otherOperator otherOperand =>
      token == otherToken && operator == otherOperator && operand.agree otherOperand
  | .binary token left operator right, .binary otherToken otherLeft otherOperator otherRight =>
      token == otherToken && operator == otherOperator
        && left.agree otherLeft && right.agree otherRight
  | .conditional token condition consequence none,
      .conditional otherToken otherCondition otherConsequence none =>
      token == otherToken && condition.agree otherCondition
        && consequence.agree otherConsequence
  | .conditional token condition consequence (some alternative),
      .conditional otherToken otherCondition otherConsequence (some otherAlternative) =>
      token == otherToken && condition.agree otherCondition
        && consequence.agree otherConsequence && alternative.agree otherAlternative
  | .function token parameters body, .function otherToken otherParameters otherBody =>
      token == otherToken && agreeAll parameters otherParameters && body.agree otherBody
  | .call token callee arguments, .call otherToken otherCallee otherArguments =>
      token == otherToken && callee.agree otherCallee && agreeAll arguments otherArguments
  | .letStatement token name value, .letStatement otherToken otherName otherValue =>
      token == otherToken && name.agree otherName && value.agree otherValue
  | .returnStatement token value, .returnStatement otherToken otherValue =>
      token == otherToken && value.agree otherValue
  | .expressionStatement token expression, .expressionStatement otherToken otherExpression =>
      token == otherToken && expression.agree otherExpression
  | .block token statements, .block otherToken otherStatements =>
      token == otherToken && agreeAll statements otherStatements
  | .program statements, .program otherStatements => agreeAll statements otherStatements
  | .sequence items, .sequence otherItems => agreeAll items otherItems
  | .level value, .level otherValue => value == otherValue
  | _, _ => false

/-- Whether two lists of trees agree in length and item by item. -/
def agreeAll : List Node → List Node → Bool
  | [], [] => true
  | node :: nodes, other :: others => node.agree other && agreeAll nodes others
  | _, _ => false

end

mutual

theorem agree_self : ∀ node : Node, node.agree node = true
  | .identifier .. | .integer .. | .boolean .. | .level .. => by simp [agree]
  | .unary _ _ operand => by simp [agree, agree_self operand]
  | .binary _ left _ right => by simp [agree, agree_self left, agree_self right]
  | .conditional _ condition consequence none => by
      simp [agree, agree_self condition, agree_self consequence]
  | .conditional _ condition consequence (some alternative) => by
      simp [agree, agree_self condition, agree_self consequence, agree_self alternative]
  | .function _ parameters body => by
      simp [agree, agreeAll_self parameters, agree_self body]
  | .call _ callee arguments => by
      simp [agree, agree_self callee, agreeAll_self arguments]
  | .letStatement _ name value => by simp [agree, agree_self name, agree_self value]
  | .returnStatement _ value => by simp [agree, agree_self value]
  | .expressionStatement _ expression => by simp [agree, agree_self expression]
  | .block _ statements => by simp [agree, agreeAll_self statements]
  | .program statements => by simp [agree, agreeAll_self statements]
  | .sequence items => by simp [agree, agreeAll_self items]

theorem agreeAll_self : ∀ nodes : List Node, agreeAll nodes nodes = true
  | [] => rfl
  | node :: nodes => by simp [agreeAll, agree_self node, agreeAll_self nodes]

end

mutual

theorem eq_of_agree : ∀ node other : Node, node.agree other = true → node = other := by
  intro node other agreed
  cases node <;> cases other <;> try (simp [agree] at agreed; done)
  case identifier.identifier => simpa [agree] using agreed
  case integer.integer => simpa [agree] using agreed
  case boolean.boolean => simpa [agree] using agreed
  case unary.unary =>
    simp only [agree, Bool.and_eq_true, beq_iff_eq] at agreed
    obtain ⟨⟨sameToken, sameOperator⟩, sameOperand⟩ := agreed
    rw [sameToken, sameOperator, eq_of_agree _ _ sameOperand]
  case binary.binary =>
    simp only [agree, Bool.and_eq_true, beq_iff_eq] at agreed
    obtain ⟨⟨⟨sameToken, sameOperator⟩, sameLeft⟩, sameRight⟩ := agreed
    rw [sameToken, sameOperator, eq_of_agree _ _ sameLeft, eq_of_agree _ _ sameRight]
  case conditional.conditional alternative _ _ _ otherAlternative =>
    cases alternative <;> cases otherAlternative
    · simp only [agree, Bool.and_eq_true, beq_iff_eq] at agreed
      obtain ⟨⟨sameToken, sameCondition⟩, sameConsequence⟩ := agreed
      rw [sameToken, eq_of_agree _ _ sameCondition, eq_of_agree _ _ sameConsequence]
    · simp [agree] at agreed
    · simp [agree] at agreed
    · simp only [agree, Bool.and_eq_true, beq_iff_eq] at agreed
      obtain ⟨⟨⟨sameToken, sameCondition⟩, sameConsequence⟩, sameAlternative⟩ := agreed
      rw [sameToken, eq_of_agree _ _ sameCondition, eq_of_agree _ _ sameConsequence,
        eq_of_agree _ _ sameAlternative]
  case function.function =>
    simp only [agree, Bool.and_eq_true, beq_iff_eq] at agreed
    obtain ⟨⟨sameToken, sameParameters⟩, sameBody⟩ := agreed
    rw [sameToken, eq_of_agreeAll _ _ sameParameters, eq_of_agree _ _ sameBody]
  case call.call =>
    simp only [agree, Bool.and_eq_true, beq_iff_eq] at agreed
    obtain ⟨⟨sameToken, sameCallee⟩, sameArguments⟩ := agreed
    rw [sameToken, eq_of_agree _ _ sameCallee, eq_of_agreeAll _ _ sameArguments]
  case letStatement.letStatement =>
    simp only [agree, Bool.and_eq_true, beq_iff_eq] at agreed
    obtain ⟨⟨sameToken, sameName⟩, sameValue⟩ := agreed
    rw [sameToken, eq_of_agree _ _ sameName, eq_of_agree _ _ sameValue]
  case returnStatement.returnStatement =>
    simp only [agree, Bool.and_eq_true, beq_iff_eq] at agreed
    rw [agreed.1, eq_of_agree _ _ agreed.2]
  case expressionStatement.expressionStatement =>
    simp only [agree, Bool.and_eq_true, beq_iff_eq] at agreed
    rw [agreed.1, eq_of_agree _ _ agreed.2]
  case block.block =>
    simp only [agree, Bool.and_eq_true, beq_iff_eq] at agreed
    rw [agreed.1, eq_of_agreeAll _ _ agreed.2]
  case program.program =>
    simp only [agree] at agreed
    rw [eq_of_agreeAll _ _ agreed]
  case sequence.sequence =>
    simp only [agree] at agreed
    rw [eq_of_agreeAll _ _ agreed]
  case level.level => simpa [agree] using agreed

theorem eq_of_agreeAll :
    ∀ nodes others : List Node, agreeAll nodes others = true → nodes = others
  | [], [], _ => rfl
  | [], _ :: _, agreed => by simp [agreeAll] at agreed
  | _ :: _, [], agreed => by simp [agreeAll] at agreed
  | node :: nodes, other :: others, agreed => by
      simp only [agreeAll, Bool.and_eq_true] at agreed
      rw [eq_of_agree node other agreed.1, eq_of_agreeAll nodes others agreed.2]

end

theorem agree_iff (node other : Node) : node.agree other = true ↔ node = other :=
  ⟨eq_of_agree node other, fun same => same ▸ agree_self node⟩

instance : DecidableEq Node := fun node other =>
  decidable_of_iff (node.agree other = true) (agree_iff node other)

end Node

end MonkeySyntax
