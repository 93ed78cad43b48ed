import MonkeySyntax.Proofs.Token.Unplaced
import MonkeySyntax.Tree.Preorder
import MonkeySyntax.Tree.Record
import MonkeySyntax.Tree.Rendering

/-!
Contract: trees without the positions of their tokens.

Owns:
- leaving out the positions of all the tokens of a tree;
- that the JSON value and the canonical text of a tree do not show them;
- the label of a node, which does not either, and that the walk over a tree meets the same
  labels.

Does not own: which trees differ in positions only.
-/

set_option autoImplicit false

namespace MonkeySyntax

namespace Node

mutual

/-- A tree without the positions of its tokens. -/
def unplaced : Node → Node
  | .identifier token value => .identifier token.unplaced value
  | .integer token value => .integer token.unplaced value
  | .boolean token value => .boolean token.unplaced value
  | .unary token operator operand => .unary token.unplaced operator operand.unplaced
  | .binary token left operator right =>
      .binary token.unplaced left.unplaced operator right.unplaced
  | .conditional token condition consequence none =>
      .conditional token.unplaced condition.unplaced consequence.unplaced none
  | .conditional token condition consequence (some alternative) =>
      .conditional token.unplaced condition.unplaced consequence.unplaced
        (some alternative.unplaced)
  | .function token parameters body =>
      .function token.unplaced (unplacedAll parameters) body.unplaced
  | .call token callee arguments => .call token.unplaced callee.unplaced (unplacedAll arguments)
  | .letStatement token name value => .letStatement token.unplaced name.unplaced value.unplaced
  | .returnStatement token value => .returnStatement token.unplaced value.unplaced
  | .expressionStatement token expression =>
      .expressionStatement token.unplaced expression.unplaced
  | .block token statements => .block token.unplaced (unplacedAll statements)
  | .program statements => .program (unplacedAll statements)
  | .sequence items => .sequence (unplacedAll items)
  | .level value => .level value

/-- Some trees without the positions of their tokens. -/
def unplacedAll : List Node → List Node
  | [] => []
  | node :: nodes => node.unplaced :: unplacedAll nodes

end

theorem unplacedAll_eq_map (nodes : List Node) : unplacedAll nodes = nodes.map unplaced := by
  induction nodes with
  | nil => rfl
  | cons node nodes inductionHypothesis => rw [unplacedAll, inductionHypothesis, List.map_cons]

theorem unplaced_conditional (token : Token) (condition consequence : Node)
    (alternative : Option Node) :
    (conditional token condition consequence alternative).unplaced =
      .conditional token.unplaced condition.unplaced consequence.unplaced
        (alternative.map unplaced) := by
  cases alternative <;> rw [unplaced] <;> rfl

mutual

theorem record_unplaced : ∀ node : Node, node.unplaced.record = node.record
  | .identifier .. | .integer .. | .boolean .. | .level .. => by simp [unplaced, record]
  | .unary _ _ operand => by simp [unplaced, record, record_unplaced operand]
  | .binary _ left _ right => by
      simp [unplaced, record, record_unplaced left, record_unplaced right]
  | .conditional _ condition consequence none => by
      simp [unplaced, record, record_unplaced condition, record_unplaced consequence]
  | .conditional _ condition consequence (some alternative) => by
      simp [unplaced, record, record_unplaced condition, record_unplaced consequence,
        record_unplaced alternative]
  | .function _ parameters body => by
      simp [unplaced, record, recordAll_unplacedAll parameters, record_unplaced body]
  | .call _ callee arguments => by
      simp [unplaced, record, record_unplaced callee, recordAll_unplacedAll arguments]
  | .letStatement _ name value => by
      simp [unplaced, record, record_unplaced name, record_unplaced value]
  | .returnStatement _ value => by simp [unplaced, record, record_unplaced value]
  | .expressionStatement _ expression => by simp [unplaced, record, record_unplaced expression]
  | .block _ statements => by simp [unplaced, record, recordAll_unplacedAll statements]
  | .program statements => by simp [unplaced, record, recordAll_unplacedAll statements]
  | .sequence items => by simp [unplaced, record, recordAll_unplacedAll items]

theorem recordAll_unplacedAll : ∀ nodes : List Node, recordAll (unplacedAll nodes) = recordAll nodes
  | [] => rfl
  | node :: nodes => by
      simp [unplacedAll, recordAll, record_unplaced node, recordAll_unplacedAll nodes]

end

mutual

theorem render_unplaced : ∀ node : Node, node.unplaced.render = node.render
  | .identifier .. | .integer .. | .boolean .. | .level .. => by simp [unplaced, render]
  | .unary _ _ operand => by simp [unplaced, render, render_unplaced operand]
  | .binary _ left _ right => by
      simp [unplaced, render, render_unplaced left, render_unplaced right]
  | .conditional _ condition consequence none => by
      simp [unplaced, render, render_unplaced condition, render_unplaced consequence]
  | .conditional _ condition consequence (some alternative) => by
      simp [unplaced, render, render_unplaced condition, render_unplaced consequence,
        render_unplaced alternative]
  | .function _ parameters body => by
      simp [unplaced, render, renderList_unplacedAll parameters, render_unplaced body]
  | .call _ callee arguments => by
      simp [unplaced, render, render_unplaced callee, renderList_unplacedAll arguments]
  | .letStatement _ name value => by
      simp [unplaced, render, render_unplaced name, render_unplaced value]
  | .returnStatement _ value => by simp [unplaced, render, render_unplaced value]
  | .expressionStatement _ expression => by simp [unplaced, render, render_unplaced expression]
  | .block _ statements => by simp [unplaced, render, renderAll_unplacedAll statements]
  | .program statements => by simp [unplaced, render, renderAll_unplacedAll statements]
  | .sequence items => by simp [unplaced, render, renderList_unplacedAll items]

theorem renderAll_unplacedAll : ∀ nodes : List Node, renderAll (unplacedAll nodes) = renderAll nodes
  | [] => rfl
  | node :: nodes => by
      simp [unplacedAll, renderAll, render_unplaced node, renderAll_unplacedAll nodes]

theorem renderList_unplacedAll :
    ∀ nodes : List Node, renderList (unplacedAll nodes) = renderList nodes
  | [] => rfl
  | [node] => by simp [unplacedAll, renderList, render_unplaced node]
  | node :: next :: nodes => by
      have later := renderList_unplacedAll (next :: nodes)
      rw [unplacedAll] at later
      simp [unplacedAll, renderList, render_unplaced node, later]

end

/-! ### The walk -/

/-- The class of a node, and the kind and the literal of its token if it has one. -/
def label (node : Node) : String × Option (TokenKind × String) :=
  (node.className, node.token?.map Token.lexeme)

theorem className_unplaced (node : Node) : node.unplaced.className = node.className := by
  cases node with
  | conditional token condition consequence alternative => cases alternative <;> rfl
  | _ => rfl

theorem token?_unplaced (node : Node) : node.unplaced.token? = node.token?.map Token.unplaced := by
  cases node with
  | conditional token condition consequence alternative => cases alternative <;> rfl
  | _ => rfl

mutual

theorem preorder_unplaced : ∀ node : Node, node.unplaced.preorder = node.preorder.map unplaced
  | .identifier .. | .integer .. | .boolean .. | .level .. => by simp [unplaced, preorder]
  | .unary _ _ operand => by simp [unplaced, preorder, preorder_unplaced operand]
  | .binary _ left _ right => by
      simp [unplaced, preorder, preorder_unplaced left, preorder_unplaced right]
  | .conditional _ condition consequence none => by
      simp [unplaced, preorder, preorder_unplaced condition, preorder_unplaced consequence]
  | .conditional _ condition consequence (some alternative) => by
      simp [unplaced, preorder, preorder_unplaced condition, preorder_unplaced consequence,
        preorder_unplaced alternative]
  | .function _ parameters body => by
      simp [unplaced, preorder, preorderAll_unplacedAll parameters, preorder_unplaced body]
  | .call _ callee arguments => by
      simp [unplaced, preorder, preorder_unplaced callee, preorderAll_unplacedAll arguments]
  | .letStatement _ name value => by
      simp [unplaced, preorder, preorder_unplaced name, preorder_unplaced value]
  | .returnStatement _ value => by simp [unplaced, preorder, preorder_unplaced value]
  | .expressionStatement _ expression => by
      simp [unplaced, preorder, preorder_unplaced expression]
  | .block _ statements => by simp [unplaced, preorder, preorderAll_unplacedAll statements]
  | .program statements => by simp [unplaced, preorder, preorderAll_unplacedAll statements]
  | .sequence items => by simp [unplaced, preorder, preorderAll_unplacedAll items]

theorem preorderAll_unplacedAll :
    ∀ nodes : List Node, preorderAll (unplacedAll nodes) = (preorderAll nodes).map unplaced
  | [] => rfl
  | node :: nodes => by
      simp [unplacedAll, preorderAll, preorder_unplaced node, preorderAll_unplacedAll nodes]

end

theorem label_unplaced (node : Node) : node.unplaced.label = node.label := by
  rw [label, className_unplaced, token?_unplaced, Option.map_map]
  rfl

/-! ### Trees that differ in positions only -/

variable {nodes others : List Node}

theorem map_record_of_unplaced (same : nodes.map unplaced = others.map unplaced) :
    nodes.map record = others.map record := by
  have recorded := congrArg (List.map record) same
  simpa [Function.comp_def, record_unplaced] using recorded

theorem map_render_of_unplaced (same : nodes.map unplaced = others.map unplaced) :
    nodes.map render = others.map render := by
  have rendered := congrArg (List.map render) same
  simpa [Function.comp_def, render_unplaced] using rendered

theorem labels_of_unplaced {node other : Node} (same : node.unplaced = other.unplaced) :
    node.preorder.map label = other.preorder.map label := by
  have walked := congrArg (List.map label) (congrArg preorder same)
  rw [preorder_unplaced, preorder_unplaced] at walked
  simpa [Function.comp_def, label_unplaced] using walked

end Node

end MonkeySyntax
