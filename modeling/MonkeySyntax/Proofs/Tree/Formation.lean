import Mathlib.Algebra.Group.Int.Defs
import MonkeySyntax.Proofs.Grammar.Phrase
import MonkeySyntax.Proofs.Parser.Literals
import MonkeySyntax.Proofs.Source.Position
import MonkeySyntax.Proofs.Token.Spelling
import MonkeySyntax.Tree.Preorder

/-!
Contract: the nodes that can be formed out of the tokens ahead.

Owns:
- what is formed as a name, an expression, a statement or a block, out of some tokens and
  within some levels of nesting;
- well-formed nodes;
- that every node of a formed tree is well formed, when each token is spelled as its kind
  is and the tokens are in the order of their positions.

Does not own: that a parser forms its nodes so.

A formed tree is not derived by the grammar. It has the tokens that leave a node, and what
stands between them is left open. So a tree can be formed out of a text with errors.
-/

set_option autoImplicit false

namespace MonkeySyntax

open Grammar

/-! ### Formed nodes -/

/-- What a node is read as. A name is what is bound, or a parameter. -/
inductive Role where
  | name
  | expression
  | statement
  | block
deriving DecidableEq, Repr

/-- The classes of the nodes that are read as one role. -/
def Role.classes : Role → List String
  | .name => ["Identifier"]
  | .expression =>
      ["Identifier", "IntegerLiteral", "Boolean", "PrefixExpression", "InfixExpression",
        "IfExpression", "FunctionLiteral", "CallExpression"]
  | .statement => ["LetStatement", "ReturnStatement", "ExpressionStatement"]
  | .block => ["BlockStatement"]

/-- Whether a node is of a class of a role. -/
def Role.Admits (role : Role) (node : Node) : Prop := node.className ∈ role.classes

/-- The nodes that are formed out of the tokens ahead, where expressions stand inside each
other for so many levels at most. An expression on the left of an operator or of a call
stands on the level of the whole. -/
inductive Formed : Role → List Token → Nat → Node → Prop where
  | name {tokens : List Token} {levels : Nat} (word : Terminal [.ident])
      (isAhead : word.token ∈ tokens) : Formed .name tokens levels word.identifier
  | identifier {tokens : List Token} {levels : Nat} (word : Terminal [.ident])
      (isAhead : word.token ∈ tokens) : Formed .expression tokens (levels + 1) word.identifier
  | integer {tokens : List Token} {levels number : Nat} (numeral : Terminal [.int])
      (isAhead : numeral.token ∈ tokens)
      (isRead : Parser.readInteger numeral.token.literal = .value number) :
      Formed .expression tokens (levels + 1) (.integer numeral.token number)
  | boolean {tokens : List Token} {levels : Nat} (word : Terminal [.trueWord, .falseWord])
      (isAhead : word.token ∈ tokens) :
      Formed .expression tokens (levels + 1)
        (.boolean word.token (decide (word.token.kind = .trueWord)))
  | unary {tokens : List Token} {levels : Nat} {operand : Node}
      (operator : Terminal [.bang, .minus]) (isAhead : operator.token ∈ tokens)
      (formed : Formed .expression tokens levels operand) :
      Formed .expression tokens (levels + 1)
        (.unary operator.token operator.token.literal operand)
  | binary {tokens : List Token} {levels : Nat} {left right : Node}
      (formedLeft : Formed .expression tokens (levels + 1) left)
      (operator : Terminal binaryOperators) (isAhead : operator.token ∈ tokens)
      (formedRight : Formed .expression tokens levels right) :
      Formed .expression tokens (levels + 1)
        (.binary operator.token left operator.token.literal right)
  | group {tokens : List Token} {levels : Nat} {inside : Node}
      (formed : Formed .expression tokens levels inside) :
      Formed .expression tokens (levels + 1) inside
  | conditional {tokens : List Token} {levels : Nat} {condition consequence : Node}
      {alternative : Option Node} (word : Terminal [.ifWord]) (isAhead : word.token ∈ tokens)
      (formedCondition : Formed .expression tokens levels condition)
      (formedConsequence : Formed .block tokens levels consequence)
      (formedAlternative : ∀ otherwise ∈ alternative, Formed .block tokens levels otherwise) :
      Formed .expression tokens (levels + 1)
        (.conditional word.token condition consequence alternative)
  | function {tokens : List Token} {levels : Nat} {parameters : List Node} {body : Node}
      (word : Terminal [.functionWord]) (isAhead : word.token ∈ tokens)
      (formedParameters : ∀ parameter ∈ parameters, Formed .name tokens levels parameter)
      (formedBody : Formed .block tokens levels body) :
      Formed .expression tokens (levels + 1) (.function word.token parameters body)
  | call {tokens : List Token} {levels : Nat} {callee : Node} {arguments : List Node}
      (formedCallee : Formed .expression tokens (levels + 1) callee)
      (opening : Terminal [.leftParen]) (isAhead : opening.token ∈ tokens)
      (formedArguments : ∀ argument ∈ arguments, Formed .expression tokens levels argument) :
      Formed .expression tokens (levels + 1) (.call opening.token callee arguments)
  | letStatement {tokens : List Token} {levels : Nat} {name value : Node}
      (word : Terminal [.letWord]) (isAhead : word.token ∈ tokens)
      (formedName : Formed .name tokens levels name)
      (formed : Formed .expression tokens levels value) :
      Formed .statement tokens levels (.letStatement word.token name value)
  | returnStatement {tokens : List Token} {levels : Nat} {value : Node}
      (word : Terminal [.returnWord]) (isAhead : word.token ∈ tokens)
      (formed : Formed .expression tokens levels value) :
      Formed .statement tokens levels (.returnStatement word.token value)
  /-- The expression is formed out of its first token and what is behind it. -/
  | expressionStatement {tokens others : List Token} {levels : Nat} {value : Node}
      (start : Terminal starting) (areAhead : start.token :: others <:+ tokens)
      (formed : Formed .expression (start.token :: others) levels value) :
      Formed .statement tokens levels (.expressionStatement start.token value)
  | block {tokens : List Token} {levels : Nat} {statements : List Node}
      (opening : Terminal [.leftBrace]) (isAhead : opening.token ∈ tokens)
      (formed : ∀ statement ∈ statements, Formed .statement tokens levels statement) :
      Formed .block tokens levels (.block opening.token statements)

namespace Formed

variable {role : Role} {tokens others : List Token} {levels : Nat} {node : Node}

/-- What is formed out of some tokens is formed where others are in front of them. -/
theorem mono (formed : Formed role tokens levels node) (isSuffix : tokens <:+ others) :
    Formed role others levels node := by
  induction formed generalizing others with
  | name word isAhead => exact .name word (isSuffix.subset isAhead)
  | identifier word isAhead => exact .identifier word (isSuffix.subset isAhead)
  | integer numeral isAhead isRead => exact .integer numeral (isSuffix.subset isAhead) isRead
  | boolean word isAhead => exact .boolean word (isSuffix.subset isAhead)
  | unary operator isAhead _ operand =>
      exact .unary operator (isSuffix.subset isAhead) (operand isSuffix)
  | binary _ operator isAhead _ left right =>
      exact .binary (left isSuffix) operator (isSuffix.subset isAhead) (right isSuffix)
  | group _ inside => exact .group (inside isSuffix)
  | conditional word isAhead _ _ _ condition consequence alternative =>
      exact .conditional word (isSuffix.subset isAhead) (condition isSuffix)
        (consequence isSuffix) fun otherwise isOtherwise =>
          alternative otherwise isOtherwise isSuffix
  | function word isAhead _ _ parameters body =>
      exact .function word (isSuffix.subset isAhead)
        (fun parameter listed => parameters parameter listed isSuffix) (body isSuffix)
  | call _ opening isAhead _ callee arguments =>
      exact .call (callee isSuffix) opening (isSuffix.subset isAhead)
        fun argument listed => arguments argument listed isSuffix
  | letStatement word isAhead _ _ name value =>
      exact .letStatement word (isSuffix.subset isAhead) (name isSuffix) (value isSuffix)
  | returnStatement word isAhead _ value =>
      exact .returnStatement word (isSuffix.subset isAhead) (value isSuffix)
  | expressionStatement start areAhead formed _ =>
      exact .expressionStatement start (areAhead.trans isSuffix) formed
  | block opening isAhead _ statements =>
      exact .block opening (isSuffix.subset isAhead)
        fun statement listed => statements statement listed isSuffix

theorem admits (formed : Formed role tokens levels node) : role.Admits node := by
  induction formed with
  | group _ inside => exact inside
  | _ => simp [Role.Admits, Role.classes, Node.className, Terminal.identifier]

/-- The token of a formed node is ahead. -/
theorem mem_of_token? (formed : Formed role tokens levels node) :
    ∀ token ∈ node.token?, token ∈ tokens := by
  induction formed with
  | group _ inside => exact inside
  | expressionStatement start areAhead =>
      rintro token ⟨⟩
      exact areAhead.subset List.mem_cons_self
  | _ =>
      rintro token ⟨⟩
      assumption

/-- A node is formed as one of the roles out of tokens that are ahead. -/
def Somewhere (tokens : List Token) (node : Node) : Prop :=
  ∃ role later levels, later <:+ tokens ∧ Formed role later levels node

theorem here (formed : Formed role tokens levels node) : Somewhere tokens node :=
  ⟨role, tokens, levels, List.suffix_refl _, formed⟩

theorem child (formed : Formed role tokens levels node) :
    ∀ child ∈ node.children, Somewhere tokens child := by
  induction formed with
  | name | identifier | integer | boolean => exact List.forall_mem_nil _
  | unary _ _ operand => exact List.forall_mem_singleton.mpr operand.here
  | binary left _ _ right => simpa [Node.children] using ⟨left.here, right.here⟩
  | group _ inside => exact inside
  | conditional _ _ condition consequence alternative =>
      simpa [Node.children] using ⟨condition.here, consequence.here,
        fun otherwise isOtherwise => (alternative otherwise isOtherwise).here⟩
  | function _ _ parameters body =>
      exact List.forall_mem_append.mpr ⟨fun parameter listed => (parameters parameter listed).here,
        List.forall_mem_singleton.mpr body.here⟩
  | call callee _ _ arguments =>
      simpa [Node.children] using ⟨callee.here,
        fun argument listed => (arguments argument listed).here⟩
  | letStatement _ _ name value => simpa [Node.children] using ⟨name.here, value.here⟩
  | returnStatement _ _ value => exact List.forall_mem_singleton.mpr value.here
  | expressionStatement _ areAhead value =>
      exact List.forall_mem_singleton.mpr ⟨_, _, _, areAhead, value⟩
  | block _ _ statements => exact fun statement listed => (statements statement listed).here

/-- Every node of a formed tree is formed. -/
theorem somewhere_of_mem_preorder {visited : Node} (formed : Somewhere tokens node)
    (met : visited ∈ node.preorder) : Somewhere tokens visited := by
  induction node using Node.children_induction generalizing tokens with
  | step node inductionHypothesis =>
      rcases Node.mem_preorder.mp met with rfl | ⟨child, isChild, met⟩
      · exact formed
      · obtain ⟨role, later, levels, isSuffix, formed⟩ := formed
        obtain ⟨childRole, behind, childLevels, isSuffixBehind, formedChild⟩ :=
          formed.child child isChild
        exact inductionHypothesis child isChild
          ⟨childRole, behind, childLevels, isSuffixBehind.trans isSuffix, formedChild⟩ met

/-- The tokens of a formed tree are ahead. -/
theorem mem_of_mem_preorder {visited : Node} (formed : Formed role tokens levels node)
    (met : visited ∈ node.preorder) : ∀ token ∈ visited.token?, token ∈ tokens := by
  obtain ⟨_, _, _, isSuffix, formedVisited⟩ := somewhere_of_mem_preorder formed.here met
  exact fun token isToken => isSuffix.subset (formedVisited.mem_of_token? token isToken)

end Formed

/-! ### Well-formed nodes -/

/-- Whether a text is a name: a word that is not reserved. -/
def IsName (text : String) : Prop :=
  text ≠ "" ∧ (∀ char ∈ text.toList, isWordChar char = true) ∧
    text ∉ TokenKind.keywords.map Prod.fst

/-- Whether a text consists of digits that denote a number. -/
def IsNumeral (text : String) (number : Int) : Prop :=
  text ≠ "" ∧ (∀ char ∈ text.toList, isDigitChar char = true) ∧
    number = decimal text.toList

/-- Whether a node's token is of a kind that its class is read from, the node agrees with
its token, and the nodes under it are of the classes that stand there. The token of a bare
expression is the one that the expression starts with, so none inside is in front of it. -/
def Node.WellFormed : Node → Prop
  | .identifier token value => token.kind = .ident ∧ value = token.literal ∧ IsName value
  | .integer token value =>
      token.kind = .int ∧ IsNumeral token.literal value ∧ 0 ≤ value ∧ value ≤ 2 ^ 63 - 1
  | .boolean token value =>
      token.kind ∈ [.trueWord, .falseWord] ∧ (value = true ↔ token.kind = .trueWord)
  | .unary token operator operand =>
      token.kind ∈ [.bang, .minus] ∧ operator = token.literal ∧ Role.expression.Admits operand
  | .binary token left operator right =>
      token.kind ∈ [.plus, .minus, .asterisk, .slash, .less, .greater, .equal, .notEqual] ∧
        operator = token.literal ∧ Role.expression.Admits left ∧ Role.expression.Admits right
  | .conditional token condition consequence alternative =>
      token.kind = .ifWord ∧ Role.expression.Admits condition ∧
        Role.block.Admits consequence ∧ ∀ otherwise ∈ alternative, Role.block.Admits otherwise
  | .function token parameters body =>
      token.kind = .functionWord ∧ (∀ parameter ∈ parameters, Role.name.Admits parameter) ∧
        Role.block.Admits body
  | .call token callee arguments =>
      token.kind = .leftParen ∧ Role.expression.Admits callee ∧
        ∀ argument ∈ arguments, Role.expression.Admits argument
  | .letStatement token name value =>
      token.kind = .letWord ∧ Role.name.Admits name ∧ Role.expression.Admits value
  | .returnStatement token value => token.kind = .returnWord ∧ Role.expression.Admits value
  | .expressionStatement token expression =>
      token.kind ∈ starting ∧ Role.expression.Admits expression ∧
        ∀ visited ∈ expression.preorder, ∀ other ∈ visited.token?,
          other = token ∨ token.Precedes other
  | .block token statements =>
      token.kind = .leftBrace ∧ ∀ statement ∈ statements, Role.statement.Admits statement
  | .program statements => ∀ statement ∈ statements, Role.statement.Admits statement
  | .sequence _ => False
  | .level _ => False

theorem Grammar.Terminal.isName {word : Terminal [.ident]}
    (spelled : Spelled word.token.kind word.token.literal.toList) : IsName word.token.literal := by
  rw [word.kind_eq] at spelled
  obtain ⟨isWord, notKeyword⟩ := spelled.isWord_of_ident
  rw [String.ofList_toList] at notKeyword
  exact ⟨fun none => spelled.ne_nil (String.toList_eq_nil_iff.mpr none), isWord, notKeyword⟩

/-- The value of a spelled integer literal is the number that its digits denote. -/
theorem Grammar.Terminal.isNumeral {numeral : Terminal [.int]} {number : Nat}
    (spelled : Spelled numeral.token.kind numeral.token.literal.toList)
    (isRead : Parser.readInteger numeral.token.literal = .value number) :
    IsNumeral numeral.token.literal number ∧ (number : Int) ≤ 2 ^ 63 - 1 := by
  rw [numeral.kind_eq] at spelled
  rw [Parser.readInteger_of_isDigit _ spelled.isDigit_of_int] at isRead
  split at isRead
  · rename_i inRange
    cases isRead
    refine ⟨⟨?_, spelled.isDigit_of_int, rfl⟩, ?_⟩
    · exact fun none => spelled.ne_nil (String.toList_eq_nil_iff.mpr none)
    · omega
  · cases isRead

namespace Formed

variable {role : Role} {tokens : List Token} {levels : Nat} {node : Node}

/-- A formed node is well formed where the tokens of a text are ahead. -/
theorem wellFormed (formed : Formed role tokens levels node) (spelled : SpelledAll tokens)
    (ordered : tokens.Pairwise Token.Precedes) : node.WellFormed := by
  induction formed with
  | name word isAhead | identifier word isAhead =>
      exact ⟨word.kind_eq, rfl, Terminal.isName (spelled _ isAhead)⟩
  | integer numeral isAhead isRead =>
      obtain ⟨isNumeral, inRange⟩ := Terminal.isNumeral (spelled _ isAhead) isRead
      exact ⟨numeral.kind_eq, isNumeral, Int.natCast_nonneg _, inRange⟩
  | boolean word => exact ⟨word.kind_mem, decide_eq_true_iff⟩
  | unary operator _ operand => exact ⟨operator.kind_mem, rfl, operand.admits⟩
  | binary left operator _ right =>
      have included : binaryOperators ⊆
          [.plus, .minus, .asterisk, .slash, .less, .greater, .equal, .notEqual] := by decide
      exact ⟨included operator.kind_mem, rfl, left.admits, right.admits⟩
  | group _ inside => exact inside spelled ordered
  | conditional word _ condition consequence alternative =>
      exact ⟨word.kind_eq, condition.admits, consequence.admits,
        fun otherwise isOtherwise => (alternative otherwise isOtherwise).admits⟩
  | function word _ parameters body =>
      exact ⟨word.kind_eq, fun parameter listed => (parameters parameter listed).admits,
        body.admits⟩
  | call callee opening _ arguments =>
      exact ⟨opening.kind_eq, callee.admits, fun argument listed => (arguments argument listed).admits⟩
  | letStatement word _ name value => exact ⟨word.kind_eq, name.admits, value.admits⟩
  | returnStatement word _ value => exact ⟨word.kind_eq, value.admits⟩
  | expressionStatement start areAhead value =>
      refine ⟨start.kind_mem, value.admits, fun visited met other isToken => ?_⟩
      rcases List.mem_cons.mp (value.mem_of_mem_preorder met other isToken) with isStart | isLater
      · exact Or.inl isStart
      · exact Or.inr ((List.pairwise_cons.mp (ordered.sublist areAhead.sublist)).1 other isLater)
  | block opening _ statements =>
      exact ⟨opening.kind_eq, fun statement listed => (statements statement listed).admits⟩

/-- Every node of a formed tree is well formed where the tokens of a text are ahead. -/
theorem wellFormed_of_mem_preorder {visited : Node} (formed : Formed role tokens levels node)
    (spelled : SpelledAll tokens) (ordered : tokens.Pairwise Token.Precedes)
    (met : visited ∈ node.preorder) : visited.WellFormed := by
  obtain ⟨_, later, _, isSuffix, formedVisited⟩ := somewhere_of_mem_preorder formed.here met
  exact formedVisited.wellFormed (fun token listed => spelled token (isSuffix.subset listed))
    (ordered.sublist isSuffix.sublist)

end Formed

end MonkeySyntax
