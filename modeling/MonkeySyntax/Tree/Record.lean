import MonkeySyntax.Json.Value
import MonkeySyntax.Tree.Node

/-!
Contract: a syntax tree as a JSON value.

Owns: the members of each node's object. The first one names the class, the
others are the fields; tokens are left out.
-/

set_option autoImplicit false

namespace MonkeySyntax

namespace Node

mutual

/-- The JSON value of a tree. -/
def record : Node → Json
  | .identifier _ value => .object [("kind", .string "Identifier"), ("value", .string value)]
  | .integer _ value => .object [("kind", .string "IntegerLiteral"), ("value", .int value)]
  | .boolean _ value => .object [("kind", .string "Boolean"), ("value", .bool value)]
  | .unary _ operator operand =>
      .object [("kind", .string "PrefixExpression"), ("operator", .string operator),
        ("right", operand.record)]
  | .binary _ left operator right =>
      .object [("kind", .string "InfixExpression"), ("operator", .string operator),
        ("left", left.record), ("right", right.record)]
  | .conditional _ condition consequence none =>
      .object [("kind", .string "IfExpression"), ("condition", condition.record),
        ("consequence", consequence.record), ("alternative", .null)]
  | .conditional _ condition consequence (some alternative) =>
      .object [("kind", .string "IfExpression"), ("condition", condition.record),
        ("consequence", consequence.record), ("alternative", alternative.record)]
  | .function _ parameters body =>
      .object [("kind", .string "FunctionLiteral"), ("parameters", .array (recordAll parameters)),
        ("body", body.record)]
  | .call _ callee arguments =>
      .object [("kind", .string "CallExpression"), ("function", callee.record),
        ("arguments", .array (recordAll arguments))]
  | .letStatement _ name value =>
      .object [("kind", .string "LetStatement"), ("name", name.record),
        ("value", value.record)]
  | .returnStatement _ value =>
      .object [("kind", .string "ReturnStatement"), ("return_value", value.record)]
  | .expressionStatement _ expression =>
      .object [("kind", .string "ExpressionStatement"), ("expression", expression.record)]
  | .block _ statements =>
      .object [("kind", .string "BlockStatement"), ("statements", .array (recordAll statements))]
  | .program statements =>
      .object [("kind", .string "Program"), ("statements", .array (recordAll statements))]
  | .sequence items => .array (recordAll items)
  | .level value => .int value.rank

/-- The JSON values of some trees. -/
def recordAll : List Node → List Json
  | [] => []
  | node :: nodes => node.record :: recordAll nodes

end

theorem recordAll_eq_map (nodes : List Node) : recordAll nodes = nodes.map record := by
  induction nodes with
  | nil => rfl
  | cons node nodes inductionHypothesis => simp [recordAll, inductionHypothesis]

end Node

end MonkeySyntax
