import MonkeySyntax.Proofs.Grammar.Shape

/-!
Contract: the nodes of a syntax tree in the order of the text.

Owns:
- the walk that meets each node where its own token stands;
- the tokens that are met on the walk, and those of them that belong to no call;
- which kinds of tokens leave a node, and that a derivation's tree keeps just those.

A statement that is a bare expression has the token of its expression and is not met
itself.
-/

set_option autoImplicit false

namespace MonkeySyntax

namespace Node

/-! ### The walk -/

mutual

/-- A tree's nodes, each where its own token stands in the text: an operator between its
operands, and a call at the parenthesis behind what it calls. -/
def inOrder : Node → List Node
  | node@(.identifier ..) => [node]
  | node@(.integer ..) => [node]
  | node@(.boolean ..) => [node]
  | node@(.unary _ _ operand) => node :: operand.inOrder
  | node@(.binary _ left _ right) => left.inOrder ++ node :: right.inOrder
  | node@(.conditional _ condition consequence none) =>
      node :: (condition.inOrder ++ consequence.inOrder)
  | node@(.conditional _ condition consequence (some alternative)) =>
      node :: (condition.inOrder ++ (consequence.inOrder ++ alternative.inOrder))
  | node@(.function _ parameters body) => node :: (inOrderAll parameters ++ body.inOrder)
  | node@(.call _ callee arguments) => callee.inOrder ++ node :: inOrderAll arguments
  | node@(.letStatement _ name value) => node :: (name.inOrder ++ value.inOrder)
  | node@(.returnStatement _ value) => node :: value.inOrder
  | .expressionStatement _ expression => expression.inOrder
  | node@(.block _ statements) => node :: inOrderAll statements
  | .program statements => inOrderAll statements
  | .sequence items => inOrderAll items
  | .level _ => []

/-- The nodes of some trees, tree by tree. -/
def inOrderAll : List Node → List Node
  | [] => []
  | node :: nodes => node.inOrder ++ inOrderAll nodes

end

/-- The tokens of some nodes. -/
def tokensOf (visited : List Node) : List Token := visited.filterMap token?

/-- Whether a node is a call. -/
def isCall : Node → Bool
  | .call .. => true
  | _ => false

/-- The tokens of some nodes without the parentheses that stand for calls. -/
def tokensButCalls (visited : List Node) : List Token :=
  tokensOf (visited.filter fun node => !node.isCall)

/-- The tokens of a tree in the order of the text. -/
def sourceTokens (node : Node) : List Token := tokensOf node.inOrder

/-! ### The tokens of each node -/

section Tokens

variable {token : Token} {operator : String} {left right body callee name value : Node}
  {nodes : List Node}

@[simp] theorem sourceTokens_identifier (text : String) :
    (identifier token text).sourceTokens = [token] := rfl

@[simp] theorem sourceTokens_integer (number : Int) :
    (integer token number).sourceTokens = [token] := rfl

@[simp] theorem sourceTokens_boolean (truth : Bool) :
    (boolean token truth).sourceTokens = [token] := rfl

@[simp] theorem sourceTokens_unary :
    (unary token operator right).sourceTokens = token :: right.sourceTokens := by
  rw [sourceTokens, inOrder]
  rfl

@[simp] theorem sourceTokens_binary :
    (binary token left operator right).sourceTokens =
      left.sourceTokens ++ token :: right.sourceTokens := by
  rw [sourceTokens, inOrder, tokensOf, List.filterMap_append]
  rfl

theorem tokensOf_inOrderAll (nodes : List Node) :
    tokensOf (inOrderAll nodes) = nodes.flatMap sourceTokens := by
  induction nodes with
  | nil => rfl
  | cons node nodes inductionHypothesis =>
      rw [inOrderAll, tokensOf, List.filterMap_append, List.flatMap_cons, ← inductionHypothesis]
      rfl

@[simp] theorem sourceTokens_conditional (alternative : Option Node) :
    (conditional token left right alternative).sourceTokens =
      token :: (left.sourceTokens ++
        (right.sourceTokens ++ alternative.toList.flatMap sourceTokens)) := by
  cases alternative <;> simp [sourceTokens, inOrder, tokensOf, token?]

@[simp] theorem sourceTokens_function :
    (function token nodes body).sourceTokens =
      token :: (nodes.flatMap sourceTokens ++ body.sourceTokens) := by
  rw [← tokensOf_inOrderAll, sourceTokens, inOrder]
  simp [tokensOf, sourceTokens, token?]

@[simp] theorem sourceTokens_call :
    (call token callee nodes).sourceTokens =
      callee.sourceTokens ++ token :: nodes.flatMap sourceTokens := by
  rw [← tokensOf_inOrderAll, sourceTokens, inOrder]
  simp [tokensOf, sourceTokens, token?]

@[simp] theorem sourceTokens_letStatement :
    (letStatement token name value).sourceTokens =
      token :: (name.sourceTokens ++ value.sourceTokens) := by
  simp [sourceTokens, inOrder, tokensOf, token?]

@[simp] theorem sourceTokens_returnStatement :
    (returnStatement token value).sourceTokens = token :: value.sourceTokens := by
  rw [sourceTokens, inOrder]
  rfl

@[simp] theorem sourceTokens_expressionStatement :
    (expressionStatement token value).sourceTokens = value.sourceTokens := by
  rw [sourceTokens, inOrder]
  rfl

@[simp] theorem sourceTokens_block :
    (block token nodes).sourceTokens = token :: nodes.flatMap sourceTokens := by
  rw [← tokensOf_inOrderAll, sourceTokens, inOrder]
  rfl

@[simp] theorem sourceTokens_program :
    (program nodes).sourceTokens = nodes.flatMap sourceTokens := by
  rw [← tokensOf_inOrderAll, sourceTokens, inOrder]

end Tokens

end Node

namespace Grammar

open Node (tokensButCalls inOrderAll)

/-! ### Derivations -/

/-- The kinds of tokens that leave no node. A parenthesis leaves one when it opens the
arguments of a call. -/
def insignificant : List TokenKind :=
  [.assign, .semicolon, .comma, .leftParen, .rightParen, .rightBrace, .elseWord, .endOfInput]

/-- The tokens that leave a node wherever they stand. -/
def significant (tokens : List Token) : List Token :=
  tokens.filter fun token => token.kind ∉ insignificant

theorem significant_append (tokens others : List Token) :
    significant (tokens ++ others) = significant tokens ++ significant others :=
  List.filter_append ..

theorem tokensButCalls_append (visited others : List Node) :
    tokensButCalls (visited ++ others) = tokensButCalls visited ++ tokensButCalls others := by
  unfold tokensButCalls Node.tokensOf
  rw [List.filter_append, List.filterMap_append]

/-- A leaf of significant kinds is kept. -/
theorem Terminal.significant_cons {kinds : List TokenKind} (terminal : Terminal kinds)
    (isSignificant : ∀ kind ∈ kinds, kind ∉ insignificant) (others : List Token) :
    significant (terminal.token :: others) = terminal.token :: significant others :=
  List.filter_cons_of_pos (by simpa using isSignificant _ terminal.kind_mem)

/-- A leaf of another kind is dropped. -/
theorem Terminal.significant_cons_of_mem {kinds : List TokenKind} (terminal : Terminal kinds)
    (isInsignificant : ∀ kind ∈ kinds, kind ∈ insignificant) (others : List Token) :
    significant (terminal.token :: others) = significant others :=
  List.filter_cons_of_neg (by simpa using isInsignificant _ terminal.kind_mem)

theorem significant_yieldEnding (ending : Option (Terminal [.semicolon])) :
    significant (yieldEnding ending) = [] := by
  cases ending with
  | none => rfl
  | some semicolon => exact semicolon.significant_cons_of_mem (by decide) []

theorem significant_otherNames (others : List (Terminal [.comma] × Terminal [.ident])) :
    significant (others.flatMap fun (comma, name) => [comma.token, name.token]) =
      tokensButCalls (inOrderAll (others.map fun (_, name) => name.identifier)) := by
  induction others with
  | nil => rfl
  | cons other others inductionHypothesis =>
      obtain ⟨comma, name⟩ := other
      rw [List.flatMap_cons, List.map_cons, inOrderAll, tokensButCalls_append,
        ← inductionHypothesis, List.cons_append, List.cons_append,
        comma.significant_cons_of_mem (by decide), name.significant_cons (by decide)]
      rfl

theorem Parameters.significant_yield (parameters : Parameters) :
    significant parameters.yield = tokensButCalls (inOrderAll parameters.trees) := by
  cases parameters with
  | none => rfl
  | names first others =>
      rw [yield, trees, inOrderAll, tokensButCalls_append, ← significant_otherNames others,
        first.significant_cons (by decide)]
      rfl

mutual

/-- The significant tokens of a derivation are those of its tree. -/
theorem Expr.significant_yield : {level : Precedence} → (derivation : Expr level) →
    significant derivation.yield = tokensButCalls derivation.tree.inOrder
  | _, .identifier name => name.significant_cons (by decide) []
  | _, .integer numeral => by
      rw [Expr.yield, Expr.tree]
      exact List.filter_cons_of_pos (by rw [numeral.kind_eq]; decide)
  | _, .boolean word => word.significant_cons (by decide) []
  | _, .group opening inside closing => by
      rw [Expr.yield, Expr.tree, opening.significant_cons_of_mem (by decide), significant_append,
        closing.significant_cons_of_mem (by decide), Expr.significant_yield inside]
      exact List.append_nil _
  | _, .conditional word opening condition closing consequence alternative => by
      have isTree : tokensButCalls (Expr.tree (.conditional word opening condition closing consequence
            alternative)).inOrder =
          word.token :: (tokensButCalls condition.tree.inOrder ++
            (tokensButCalls consequence.tree.inOrder ++
              tokensButCalls (inOrderAll alternative.tree.toList))) := by
        rw [← tokensButCalls_append, ← tokensButCalls_append, Expr.tree]
        cases alternative.tree with
        | none => simp only [Node.inOrder, inOrderAll, Option.toList_none, List.append_nil]; rfl
        | some block => simp only [Node.inOrder, inOrderAll, Option.toList_some, List.append_nil]; rfl
      rw [isTree, Expr.yield, word.significant_cons (by decide),
        opening.significant_cons_of_mem (by decide), significant_append,
        closing.significant_cons_of_mem (by decide), significant_append,
        Expr.significant_yield condition, Block.significant_yield consequence,
        Alternative.significant_yield alternative]
  | _, .function word opening parameters closing body => by
      rw [Expr.yield, Expr.tree, Node.inOrder, word.significant_cons (by decide),
        opening.significant_cons_of_mem (by decide), significant_append,
        closing.significant_cons_of_mem (by decide), parameters.significant_yield,
        Block.significant_yield body, ← tokensButCalls_append]
      rfl
  | _, .call callee opening arguments closing => by
      rw [Expr.yield, Expr.tree, Node.inOrder, significant_append, tokensButCalls_append,
        opening.significant_cons_of_mem (by decide), significant_append,
        closing.significant_cons_of_mem (by decide), Expr.significant_yield callee,
        Arguments.significant_yield arguments]
      exact congrArg _ (List.append_nil _)
  | _, .unary operator operand => by
      rw [Expr.yield, Expr.tree, Node.inOrder, operator.significant_cons (by decide),
        Expr.significant_yield operand]
      rfl
  | level, .binary left operator right => by
      have isOperator : ∀ kind ∈ operatorsAt level, kind ∉ insignificant := by
        cases level <;> decide
      rw [Expr.yield, Expr.tree, Node.inOrder, significant_append, tokensButCalls_append,
        operator.significant_cons isOperator, Expr.significant_yield left,
        Expr.significant_yield right]
      rfl
  | _, .pass _ _ inside => by
      rw [Expr.yield, Expr.tree]
      exact Expr.significant_yield inside

theorem Arguments.significant_yield : (derivation : Arguments) →
    significant derivation.yield = tokensButCalls (inOrderAll derivation.trees)
  | .none => rfl
  | .expressions first others => by
      rw [Arguments.yield, Arguments.trees, inOrderAll, significant_append, tokensButCalls_append,
        Expr.significant_yield first, significant_yieldOthers others]

theorem significant_yieldOthers : (others : List (Terminal [.comma] × Expr .equality)) →
    significant (yieldOthers others) = tokensButCalls (inOrderAll (treesOthers others))
  | [] => rfl
  | (comma, argument) :: others => by
      rw [yieldOthers, treesOthers, inOrderAll, comma.significant_cons_of_mem (by decide),
        significant_append, tokensButCalls_append, Expr.significant_yield argument,
        significant_yieldOthers others]

theorem Alternative.significant_yield : (derivation : Alternative) →
    significant derivation.yield = tokensButCalls (inOrderAll derivation.tree.toList)
  | .none => rfl
  | .block word block => by
      rw [Alternative.yield, Alternative.tree, word.significant_cons_of_mem (by decide), Block.significant_yield block,
        Option.toList_some, inOrderAll, inOrderAll, List.append_nil]

theorem Block.significant_yield : (derivation : Block) →
    significant derivation.yield = tokensButCalls derivation.tree.inOrder
  | .braces opening statements closing => by
      rw [Block.yield, Block.tree, Node.inOrder, opening.significant_cons (by decide), significant_append,
        closing.significant_cons_of_mem (by decide), significant_yieldAll statements]
      exact congrArg _ (List.append_nil _)

theorem significant_yieldAll : (statements : List Statement) →
    significant (yieldAll statements) = tokensButCalls (inOrderAll (treesAll statements))
  | [] => rfl
  | statement :: statements => by
      rw [yieldAll, treesAll, inOrderAll, significant_append, tokensButCalls_append,
        Statement.significant_yield statement, significant_yieldAll statements]

theorem Statement.significant_yield : (derivation : Statement) →
    significant derivation.yield = tokensButCalls derivation.tree.inOrder
  | .letStatement word name sign value ending => by
      rw [Statement.yield, Statement.tree, Node.inOrder, word.significant_cons (by decide),
        name.significant_cons (by decide), sign.significant_cons_of_mem (by decide),
        significant_append, significant_yieldEnding, List.append_nil,
        Expr.significant_yield value]
      rfl
  | .returnStatement word value ending => by
      rw [Statement.yield, Statement.tree, Node.inOrder, word.significant_cons (by decide), significant_append,
        significant_yieldEnding, List.append_nil, Expr.significant_yield value]
      rfl
  | .expressionStatement value ending => by
      rw [Statement.yield, Statement.tree, Node.inOrder, significant_append, significant_yieldEnding,
        List.append_nil, Expr.significant_yield value]

end

end Grammar

end MonkeySyntax
