import MonkeySyntax.Tree.Node

/-!
Contract: all the nodes of a syntax tree in one list.

Owns: the walk that meets each node before the nodes under it, and those from
left to right.
-/

set_option autoImplicit false

namespace MonkeySyntax

namespace Node

mutual

/-- A tree's nodes: first itself, then the nodes under each child in turn. -/
def preorder : Node → List Node
  | node@(.identifier ..) => [node]
  | node@(.integer ..) => [node]
  | node@(.boolean ..) => [node]
  | node@(.unary _ _ operand) => node :: operand.preorder
  | node@(.binary _ left _ right) => node :: (left.preorder ++ right.preorder)
  | node@(.conditional _ condition consequence none) =>
      node :: (condition.preorder ++ consequence.preorder)
  | node@(.conditional _ condition consequence (some alternative)) =>
      node :: (condition.preorder ++ (consequence.preorder ++ alternative.preorder))
  | node@(.function _ parameters body) => node :: (preorderAll parameters ++ body.preorder)
  | node@(.call _ callee arguments) => node :: (callee.preorder ++ preorderAll arguments)
  | node@(.letStatement _ name value) => node :: (name.preorder ++ value.preorder)
  | node@(.returnStatement _ value) => node :: value.preorder
  | node@(.expressionStatement _ expression) => node :: expression.preorder
  | node@(.block _ statements) => node :: preorderAll statements
  | node@(.program statements) => node :: preorderAll statements
  | node@(.sequence items) => node :: preorderAll items
  | node@(.level _) => [node]

/-- The nodes of some trees, tree by tree. -/
def preorderAll : List Node → List Node
  | [] => []
  | node :: nodes => node.preorder ++ preorderAll nodes

end

theorem preorderAll_eq_flatMap (nodes : List Node) :
    preorderAll nodes = nodes.flatMap preorder := by
  induction nodes with
  | nil => rfl
  | cons node nodes inductionHypothesis =>
      rw [preorderAll, inductionHypothesis, List.flatMap_cons]

/-- Every walk starts at the root and goes on below each child. -/
theorem preorder_eq_cons (node : Node) :
    node.preorder = node :: preorderAll node.children := by
  cases node with
  | conditional token condition consequence alternative =>
      cases alternative <;> simp [preorder, preorderAll, children]
  | function token parameters body => simp [preorder, children, preorderAll_eq_flatMap]
  | _ => simp [preorder, preorderAll, children]

/-- A walk meets the root, and what the walks from the nodes under it meet. -/
theorem mem_preorder {visited node : Node} :
    visited ∈ node.preorder ↔
      visited = node ∨ ∃ child ∈ node.children, visited ∈ child.preorder := by
  rw [preorder_eq_cons, preorderAll_eq_flatMap, List.mem_cons, List.mem_flatMap]

theorem self_mem_preorder (node : Node) : node ∈ node.preorder :=
  mem_preorder.mpr (Or.inl rfl)

theorem length_preorder_lt {node child : Node} (isChild : child ∈ node.children) :
    child.preorder.length < node.preorder.length := by
  rw [preorder_eq_cons node, preorderAll_eq_flatMap, List.length_cons]
  exact Nat.lt_succ_of_le
    (List.sublist_flatten_of_mem (List.mem_map_of_mem isChild)).length_le

/-- What holds of a node as soon as it holds of those directly under it holds of every
node. -/
theorem children_induction {motive : Node → Prop}
    (step : ∀ node, (∀ child ∈ node.children, motive child) → motive node) (node : Node) :
    motive node :=
  step node fun child isChild =>
    have := length_preorder_lt isChild
    children_induction step child
termination_by node.preorder.length

/-- The class name and the token of each node that has a token, in preorder. -/
def entries (node : Node) : List (String × Token) :=
  node.preorder.filterMap fun visited =>
    visited.token?.map fun token => (visited.className, token)

end Node

end MonkeySyntax
