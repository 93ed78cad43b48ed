import MonkeySyntax.Tree.Node

/-!
Contract: the canonical text of a syntax tree.

Owns: the rendering, which puts every operator application into parentheses and
so shows how a text was grouped.

Does not own: reading that text back.
-/

set_option autoImplicit false

namespace MonkeySyntax

namespace Node

mutual

/-- The canonical text of a tree. Literals show their source text, identifiers
and operators their value. Statements follow each other without a separator. -/
def render : Node → String
  | .identifier _ value => value
  | .integer token _ => token.literal
  | .boolean token _ => token.literal
  | .unary _ operator operand => "(" ++ operator ++ operand.render ++ ")"
  | .binary _ left operator right =>
      "(" ++ left.render ++ " " ++ operator ++ " " ++ right.render ++ ")"
  | .conditional _ condition consequence none =>
      "if" ++ condition.render ++ " " ++ consequence.render
  | .conditional _ condition consequence (some alternative) =>
      "if" ++ condition.render ++ " " ++ consequence.render ++ "else " ++ alternative.render
  | .function token parameters body =>
      token.literal ++ "(" ++ renderList parameters ++ ") " ++ body.render
  | .call _ callee arguments => callee.render ++ "(" ++ renderList arguments ++ ")"
  | .letStatement token name value =>
      token.literal ++ " " ++ name.render ++ " = " ++ value.render ++ ";"
  | .returnStatement token value => token.literal ++ " " ++ value.render ++ ";"
  | .expressionStatement _ expression => expression.render
  | .block _ statements => renderAll statements
  | .program statements => renderAll statements
  | .sequence items => "(" ++ renderList items ++ ")"
  | .level value => toString value.rank

/-- The texts of some trees, one behind the other. -/
def renderAll : List Node → String
  | [] => ""
  | node :: nodes => node.render ++ renderAll nodes

/-- The texts of some trees with commas between them. -/
def renderList : List Node → String
  | [] => ""
  | [node] => node.render
  | node :: next :: nodes => node.render ++ ", " ++ renderList (next :: nodes)

end

end Node

end MonkeySyntax
