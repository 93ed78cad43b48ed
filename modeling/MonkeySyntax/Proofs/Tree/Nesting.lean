import MonkeySyntax.Proofs.Tree.Formation

/-!
Contract: how high a tree is, and how much of its height is nesting.

Owns:
- the left part of an operator or of a call, and the chains of left parts;
- the height of a tree, its nesting, which leaves out the steps to left parts, and its
  longest chain;
- that formed nodes nest no deeper than the levels they were formed within allow;
- the height of a tree, bounded by its nesting and its longest chain.

Does not own: how long a chain a text can lead to.

A loop takes in what stands on the left, so a chain of left parts costs no level.
-/

set_option autoImplicit false

namespace MonkeySyntax

open Grammar

namespace Node

/-! ### Left parts -/

/-- What stands on the left of an operator or is called, if anything. -/
def leftPart? : Node → Option Node
  | .binary _ left _ _ => some left
  | .call _ callee _ => some callee
  | _ => none

/-- The nodes directly under a node without its left part. -/
def otherParts : Node → List Node
  | .binary _ _ _ right => [right]
  | .call _ _ arguments => arguments
  | node => node.children

theorem children_eq_append (node : Node) :
    node.children = node.leftPart?.toList ++ node.otherParts := by
  cases node <;> rfl

/-- How many left parts there are one under the other, from a node on. -/
def chain : Node → Nat
  | .binary _ left _ _ => left.chain + 1
  | .call _ callee _ => callee.chain + 1
  | _ => 0

theorem chain_eq (node : Node) :
    node.chain = match node.leftPart? with
      | none => 0
      | some left => left.chain + 1 := by
  cases node <;> rfl

/-- The length of the longest chain of left parts in a tree. -/
def longestChain (node : Node) : Nat := (node.preorder.map chain).max?.getD 0

theorem chain_le_longestChain {visited node : Node} (met : visited ∈ node.preorder) :
    visited.chain ≤ node.longestChain :=
  List.le_max?_getD_of_mem (List.mem_map_of_mem met)

/-! ### Height and nesting -/

mutual

/-- The number of nodes on the longest path down from a node, where a step to a left part
counts as given instead of one. -/
def extent (leftStep : Nat) : Node → Nat
  | .unary _ _ operand => operand.extent leftStep + 1
  | .binary _ left _ right => max (left.extent leftStep + leftStep) (right.extent leftStep + 1)
  | .conditional _ condition consequence none =>
      max (condition.extent leftStep) (consequence.extent leftStep) + 1
  | .conditional _ condition consequence (some alternative) =>
      max (condition.extent leftStep)
        (max (consequence.extent leftStep) (alternative.extent leftStep)) + 1
  | .function _ parameters body =>
      max (greatestExtent leftStep parameters) (body.extent leftStep) + 1
  | .call _ callee arguments =>
      max (callee.extent leftStep + leftStep) (greatestExtent leftStep arguments + 1)
  | .letStatement _ name value => max (name.extent leftStep) (value.extent leftStep) + 1
  | .returnStatement _ value => value.extent leftStep + 1
  | .expressionStatement _ expression => expression.extent leftStep + 1
  | .block _ statements => greatestExtent leftStep statements + 1
  | .program statements => greatestExtent leftStep statements + 1
  | .sequence items => greatestExtent leftStep items + 1
  | _ => 1

def greatestExtent (leftStep : Nat) : List Node → Nat
  | [] => 0
  | node :: nodes => max (node.extent leftStep) (greatestExtent leftStep nodes)

end

/-- The number of nodes on the longest path from the root of a tree to a node without
children. -/
def height (node : Node) : Nat := node.extent 1

/-- The number of nodes on such a path when steps to left parts are not counted. -/
def nesting (node : Node) : Nat := node.extent 0

section Extents

variable {leftStep bound : Nat} {nodes : List Node}

theorem greatestExtent_le_iff :
    greatestExtent leftStep nodes ≤ bound ↔ ∀ node ∈ nodes, node.extent leftStep ≤ bound := by
  induction nodes with
  | nil => simp [greatestExtent]
  | cons node nodes inductionHypothesis =>
      rw [greatestExtent, Nat.max_le, inductionHypothesis, List.forall_mem_cons]

theorem extent_le_greatestExtent {node : Node} (listed : node ∈ nodes) :
    node.extent leftStep ≤ greatestExtent leftStep nodes :=
  greatestExtent_le_iff.mp (Nat.le_refl _) node listed

theorem greatestExtent_append (others : List Node) :
    greatestExtent leftStep (nodes ++ others) =
      max (greatestExtent leftStep nodes) (greatestExtent leftStep others) := by
  induction nodes with
  | nil => simp [greatestExtent]
  | cons node nodes inductionHypothesis =>
      rw [List.cons_append, greatestExtent, greatestExtent, inductionHypothesis, Nat.max_assoc]

/-- A path goes on either to the left part or to another one. -/
theorem extent_eq (leftStep : Nat) (node : Node) :
    node.extent leftStep =
      match node.leftPart? with
      | none => greatestExtent leftStep node.otherParts + 1
      | some left =>
          max (left.extent leftStep + leftStep) (greatestExtent leftStep node.otherParts + 1) := by
  cases node with
  | conditional token condition consequence alternative =>
      cases alternative <;> simp [extent, leftPart?, otherParts, children, greatestExtent]
  | function => simp [extent, leftPart?, otherParts, children, greatestExtent_append, greatestExtent]
  | _ => simp [extent, leftPart?, otherParts, children, greatestExtent]

end Extents

/-! ### Height by nesting -/

/-- Along a chain the height grows and the nesting need not. Every other step adds a level
of nesting, and starts at most a longest chain. -/
theorem height_add_le {longest : Nat} (node : Node)
    (short : ∀ visited ∈ node.preorder, visited.chain ≤ longest) :
    node.height + longest ≤ node.nesting * (longest + 1) + node.chain := by
  induction node using Node.children_induction with
  | step node inductionHypothesis =>
      have ofChild : ∀ child ∈ node.children,
          child.extent 1 + longest ≤ child.extent 0 * (longest + 1) + child.chain ∧
            child.chain ≤ longest := by
        intro child isChild
        have shortChild : ∀ visited ∈ child.preorder, visited.chain ≤ longest :=
          fun visited met => short visited (mem_preorder.mpr (Or.inr ⟨child, isChild, met⟩))
        exact ⟨inductionHypothesis child isChild shortChild, shortChild _ child.self_mem_preorder⟩
      rw [children_eq_append, List.forall_mem_append] at ofChild
      obtain ⟨ofLeft, ofOther⟩ := ofChild
      have ofOthers : greatestExtent 1 node.otherParts ≤
          greatestExtent 0 node.otherParts * (longest + 1) := by
        rw [greatestExtent_le_iff]
        intro child isOther
        have added := ofOther child isOther
        have nested : child.extent 0 * (longest + 1) ≤ _ :=
          Nat.mul_le_mul_right (longest + 1) (extent_le_greatestExtent isOther)
        omega
      rw [height, nesting, extent_eq 1, extent_eq 0, chain_eq]
      cases isLeft : node.leftPart? with
      | none =>
          simp only [Nat.add_mul]
          omega
      | some left =>
          rw [isLeft] at ofLeft
          have added := (ofLeft left (Option.mem_toList.mpr rfl)).1
          have alongLeft : left.extent 0 * (longest + 1) ≤
              max (left.extent 0) (greatestExtent 0 node.otherParts + 1) * (longest + 1) :=
            Nat.mul_le_mul_right _ (Nat.le_max_left _ _)
          have alongOther : (greatestExtent 0 node.otherParts + 1) * (longest + 1) ≤
              max (left.extent 0) (greatestExtent 0 node.otherParts + 1) * (longest + 1) :=
            Nat.mul_le_mul_right _ (Nat.le_max_right _ _)
          rw [Nat.add_mul] at alongOther
          simp only [Nat.add_zero]
          omega

theorem height_le (node : Node) : node.height ≤ node.nesting * (node.longestChain + 1) := by
  have added := height_add_le node fun visited met => chain_le_longestChain met
  have short := chain_le_longestChain node.self_mem_preorder
  omega

end Node

/-! ### Nesting by levels -/

/-- How far what a role stands for nests beyond the expressions in it. A name stands beside
the expressions, and where there are none beside it in an empty block. -/
def Role.surplus : Role → Nat
  | .name => 2
  | .expression => 0
  | .statement => 1
  | .block => 2

theorem Formed.extent_name {tokens : List Token} {levels leftStep : Nat} {node : Node}
    (formed : Formed .name tokens levels node) : node.extent leftStep = 1 := by
  cases formed with
  | name word => rfl

/-- Each level adds three nodes at most, for a function or a conditional, a block in it and a
statement in that. -/
theorem Formed.nesting_lt {role : Role} {tokens : List Token} {levels : Nat} {node : Node}
    (formed : Formed role tokens levels node) :
    node.nesting < 3 * levels + role.surplus := by
  unfold Node.nesting
  induction formed with
  | name | identifier | integer | boolean =>
      simp only [Terminal.identifier, Node.extent, Role.surplus]
      omega
  | group _ inside => exact Nat.lt_of_lt_of_le inside (by omega)
  | unary _ _ _ operand =>
      simp only [Node.extent, Role.surplus] at *
      omega
  | binary _ _ _ _ left right =>
      simp only [Node.extent, Role.surplus] at *
      omega
  | @conditional _ _ _ _ alternative _ _ _ _ _ condition consequence ofAlternative =>
      cases alternative with
      | none =>
          simp only [Node.extent, Role.surplus] at *
          omega
      | some otherwise =>
          have alternative := ofAlternative otherwise rfl
          simp only [Node.extent, Role.surplus] at *
          omega
  | @function _ levels parameters _ _ _ _ _ ofParameters body =>
      have atMost : Node.greatestExtent 0 parameters ≤ 3 * levels + 1 :=
        Node.greatestExtent_le_iff.mpr fun parameter listed =>
          Nat.le_of_lt_succ (ofParameters parameter listed)
      simp only [Node.extent, Role.surplus] at *
      omega
  | @call _ levels _ arguments _ _ _ _ callee ofArguments =>
      have atMost : Node.greatestExtent 0 arguments ≤ 3 * levels :=
        Node.greatestExtent_le_iff.mpr fun argument listed =>
          Nat.le_of_lt (ofArguments argument listed)
      simp only [Node.extent, Role.surplus] at *
      omega
  | letStatement _ _ formedName _ _ value =>
      have ofName : Node.extent 0 _ = 1 := formedName.extent_name
      simp only [Node.extent, Role.surplus] at *
      omega
  | returnStatement _ _ _ value =>
      simp only [Node.extent, Role.surplus] at *
      omega
  | expressionStatement _ _ _ value =>
      simp only [Node.extent, Role.surplus] at *
      omega
  | @block _ levels statements _ _ _ ofStatements =>
      have atMost : Node.greatestExtent 0 statements ≤ 3 * levels :=
        Node.greatestExtent_le_iff.mpr fun statement listed =>
          Nat.le_of_lt_succ (ofStatements statement listed)
      simp only [Node.extent, Role.surplus]
      omega

/-- A program of statements that are formed within some levels nests no deeper than these
levels allow. -/
theorem Node.nesting_program_le {tokens : List Token} {levels : Nat} {statements : List Node}
    (formed : ∀ statement ∈ statements, Formed .statement tokens levels statement) :
    (Node.program statements).nesting ≤ 3 * levels + 1 := by
  rw [nesting, extent]
  exact Nat.succ_le_succ (greatestExtent_le_iff.mpr fun statement listed =>
    Nat.le_of_lt_succ (formed statement listed).nesting_lt)

end MonkeySyntax
