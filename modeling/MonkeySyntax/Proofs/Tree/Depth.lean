import MonkeySyntax.Tree.Preorder
import MonkeySyntax.Tree.Rendering

/-!
Contract: trees without conditionals and functions, and how deep their renderings nest.

Owns:
- the absence of conditionals and functions, which passes to every child;
- the depth of a tree, which counts the parentheses that its rendering adds;
- the rendering of a list of trees as characters.
-/

set_option autoImplicit false

namespace MonkeySyntax

namespace Node

/-! ### Plain trees -/

/-- No node of the tree is a conditional or a function. -/
def Plain (node : Node) : Prop :=
  ∀ visited ∈ node.preorder,
    visited.className ≠ "IfExpression" ∧ visited.className ≠ "FunctionLiteral"

theorem Plain.child {node child : Node} (plain : node.Plain) (isChild : child ∈ node.children) :
    child.Plain :=
  fun visited met => plain visited (mem_preorder.mpr (Or.inr ⟨child, isChild, met⟩))

theorem Plain.self {node : Node} (plain : node.Plain) :
    node.className ≠ "IfExpression" ∧ node.className ≠ "FunctionLiteral" :=
  plain node node.self_mem_preorder

/-! ### Depth -/

mutual

/-- How many levels of nesting the rendering of an expression needs, or that of the
expression of a statement. Every application of an operator is in parentheses. -/
def depth : Node → Nat
  | .unary _ _ operand => 2 + operand.depth
  | .binary _ left _ right => max (1 + left.depth) (2 + right.depth)
  | .call _ callee arguments => max callee.depth (1 + greatestDepth arguments)
  | .letStatement _ _ value => value.depth
  | .returnStatement _ value => value.depth
  | .expressionStatement _ expression => expression.depth
  | _ => 1

def greatestDepth : List Node → Nat
  | [] => 0
  | node :: nodes => max node.depth (greatestDepth nodes)

end

/-! ### Renderings as characters -/

theorem toList_render_unary (token : Token) (operator : String) (operand : Node) :
    (unary token operator operand).render.toList =
      '(' :: (operator.toList ++ (operand.render.toList ++ [')'])) := by
  rw [render, String.toList_append, String.toList_append, String.toList_append,
    List.append_assoc, List.append_assoc]
  rfl

theorem toList_render_binary (token : Token) (left : Node) (operator : String) (right : Node) :
    (binary token left operator right).render.toList =
      '(' :: (left.render.toList ++
        ' ' :: (operator.toList ++ ' ' :: (right.render.toList ++ [')']))) := by
  simp only [render, String.toList_append, List.append_assoc]
  rfl

theorem toList_render_call (token : Token) (callee : Node) (arguments : List Node) :
    (call token callee arguments).render.toList =
      callee.render.toList ++ '(' :: ((renderList arguments).toList ++ [')']) := by
  simp only [render, String.toList_append, List.append_assoc]
  rfl

theorem toList_render_letStatement (token : Token) (name value : Node) :
    (letStatement token name value).render.toList =
      token.literal.toList ++ ' ' :: (name.render.toList ++
        ' ' :: '=' :: ' ' :: (value.render.toList ++ [';'])) := by
  simp only [render, String.toList_append, List.append_assoc]
  rfl

theorem toList_render_returnStatement (token : Token) (value : Node) :
    (returnStatement token value).render.toList =
      token.literal.toList ++ ' ' :: (value.render.toList ++ [';']) := by
  simp only [render, String.toList_append, List.append_assoc]
  rfl

theorem toList_renderAll (nodes : List Node) :
    (renderAll nodes).toList = nodes.flatMap fun node => node.render.toList := by
  induction nodes with
  | nil => rfl
  | cons node nodes inductionHypothesis =>
      rw [renderAll, String.toList_append, inductionHypothesis, List.flatMap_cons]

theorem toList_renderList_cons (node : Node) (nodes : List Node) :
    (renderList (node :: nodes)).toList =
      node.render.toList ++ nodes.flatMap fun node => ',' :: ' ' :: node.render.toList := by
  induction nodes generalizing node with
  | nil =>
      rw [renderList, List.flatMap_nil, List.append_nil]
  | cons next nodes inductionHypothesis =>
      rw [renderList, String.toList_append, String.toList_append, inductionHypothesis next,
        List.flatMap_cons, List.append_assoc]
      rfl

/-- Lists of nodes with the same renderings have the same rendering. -/
theorem renderList_congr {nodes others : List Node}
    (same : nodes.map render = others.map render) : renderList nodes = renderList others := by
  have flat : ∀ nodes : List Node, nodes.flatMap (fun node => ',' :: ' ' :: node.render.toList) =
      (nodes.map render).flatMap fun text => ',' :: ' ' :: text.toList := by
    intro nodes
    rw [List.flatMap_map]
  cases nodes with
  | nil =>
      rw [List.map_eq_nil_iff.mp same.symm]
  | cons node nodes =>
      cases others with
      | nil => cases same
      | cons other others =>
          rw [List.map_cons, List.map_cons, List.cons.injEq] at same
          rw [← String.toList_inj, toList_renderList_cons, toList_renderList_cons, flat, flat,
            same.1, same.2]

theorem renderAll_congr {nodes others : List Node}
    (same : nodes.map render = others.map render) : renderAll nodes = renderAll others := by
  have flat : ∀ nodes : List Node, (renderAll nodes).toList =
      (nodes.map render).flatMap String.toList := by
    intro nodes
    rw [toList_renderAll, List.flatMap_map]
  rw [← String.toList_inj, flat, flat, same]

end Node

end MonkeySyntax
