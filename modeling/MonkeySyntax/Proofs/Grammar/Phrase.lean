import MonkeySyntax.Proofs.Grammar.Shape

/-!
Contract: the language as lists of tokens, without levels of binding.

Owns:
- the phrases of the language, with one rule for each of its constructs;
- that operators and calls take in any expressions, whatever binds tighter;
- that the yield of every derivation is a phrase.

Does not own: trees. An expression is a row of operands with operators between them, and
nothing says how the row is grouped:

    statements = {statement}
    statement  = (let IDENT '=' expression | return expression | expression) [';']
    expression = operand {(==|!=|<|>|+|-|*|/) operand}
    operand    = {!|-} primary {'(' arguments ')'}
    arguments  = [expression {',' expression}]
    primary    = IDENT | INT | true | false | '(' expression ')'
               | if '(' expression ')' block alternative | fn '(' parameters ')' block
    block      = '{' statements '}'
-/

set_option autoImplicit false

namespace MonkeySyntax

namespace Grammar

/-- What a phrase stands for. -/
inductive Category where
  | statements
  | statement
  | expression
  | operand
  | primary
  /-- The expressions between commas, of which there is one at least. -/
  | items
  | arguments
  | block
  | alternative
deriving DecidableEq, Repr

/-- The operators that stand between two operands. -/
def binaryOperators : List TokenKind :=
  [.equal, .notEqual, .less, .greater, .plus, .minus, .asterisk, .slash]

/-- The arguments of a call, with the parentheses around them. -/
structure Call where
  opening : Terminal [.leftParen]
  arguments : List Token
  closing : Terminal [.rightParen]

/-- The tokens of a call behind its callee. -/
def Call.tokens (call : Call) : List Token :=
  call.opening.token :: (call.arguments ++ [call.closing.token])

/-- The tokens of an operator or a comma and what stands behind it. -/
def behindToken {kinds : List TokenKind} (part : Terminal kinds × List Token) : List Token :=
  part.1.token :: part.2

/-- The phrases of each category. -/
inductive Phrase : Category → List Token → Prop where
  | statements (parts : List (List Token)) (each : ∀ part ∈ parts, Phrase .statement part) :
      Phrase .statements parts.flatten
  | letStatement (word : Terminal [.letWord]) (name : Terminal [.ident])
      (sign : Terminal [.assign]) {value : List Token} (isValue : Phrase .expression value)
      (ending : Option (Terminal [.semicolon])) :
      Phrase .statement
        (word.token :: name.token :: sign.token :: (value ++ yieldEnding ending))
  | returnStatement (word : Terminal [.returnWord]) {value : List Token}
      (isValue : Phrase .expression value) (ending : Option (Terminal [.semicolon])) :
      Phrase .statement (word.token :: (value ++ yieldEnding ending))
  | expressionStatement {value : List Token} (isValue : Phrase .expression value)
      (ending : Option (Terminal [.semicolon])) :
      Phrase .statement (value ++ yieldEnding ending)
  | expression {first : List Token} (isFirst : Phrase .operand first)
      (others : List (Terminal binaryOperators × List Token))
      (each : ∀ other ∈ others, Phrase .operand other.2) :
      Phrase .expression (first ++ others.flatMap behindToken)
  | operand (operators : List (Terminal [.bang, .minus])) {primary : List Token}
      (isPrimary : Phrase .primary primary) (calls : List Call)
      (each : ∀ call ∈ calls, Phrase .arguments call.arguments) :
      Phrase .operand (operators.map Terminal.token ++ (primary ++ calls.flatMap Call.tokens))
  | noArguments : Phrase .arguments []
  | someArguments {items : List Token} (isItems : Phrase .items items) :
      Phrase .arguments items
  | items {first : List Token} (isFirst : Phrase .expression first)
      (others : List (Terminal [.comma] × List Token))
      (each : ∀ other ∈ others, Phrase .expression other.2) :
      Phrase .items (first ++ others.flatMap behindToken)
  | identifier (name : Terminal [.ident]) : Phrase .primary [name.token]
  | integer (numeral : IntegerLiteral) : Phrase .primary [numeral.token]
  | boolean (word : Terminal [.trueWord, .falseWord]) : Phrase .primary [word.token]
  | group (opening : Terminal [.leftParen]) {inside : List Token}
      (isInside : Phrase .expression inside) (closing : Terminal [.rightParen]) :
      Phrase .primary (opening.token :: (inside ++ [closing.token]))
  | conditional (word : Terminal [.ifWord]) (opening : Terminal [.leftParen])
      {condition : List Token} (isCondition : Phrase .expression condition)
      (closing : Terminal [.rightParen]) {consequence : List Token}
      (isConsequence : Phrase .block consequence) {alternative : List Token}
      (isAlternative : Phrase .alternative alternative) :
      Phrase .primary (word.token :: opening.token ::
        (condition ++ closing.token :: (consequence ++ alternative)))
  | function (word : Terminal [.functionWord]) (opening : Terminal [.leftParen])
      (parameters : Parameters) (closing : Terminal [.rightParen]) {body : List Token}
      (isBody : Phrase .block body) :
      Phrase .primary (word.token :: opening.token ::
        (parameters.yield ++ closing.token :: body))
  | noAlternative : Phrase .alternative []
  | someAlternative (word : Terminal [.elseWord]) {block : List Token}
      (isBlock : Phrase .block block) : Phrase .alternative (word.token :: block)
  | block (opening : Terminal [.leftBrace]) {statements : List Token}
      (isStatements : Phrase .statements statements) (closing : Terminal [.rightBrace]) :
      Phrase .block (opening.token :: (statements ++ [closing.token]))

/-- A sentence of the language is a list of statements. -/
abbrev Sentence (tokens : List Token) : Prop := Phrase .statements tokens

namespace Phrase

variable {first second : List Token}

/-! ### Statements -/

theorem nothing : Sentence [] := .statements [] (List.forall_mem_nil _)

theorem statements_append (isFirst : Sentence first) (isSecond : Sentence second) :
    Sentence (first ++ second) := by
  cases isFirst with
  | statements parts each =>
      cases isSecond with
      | statements others eachOther =>
          rw [← List.flatten_append]
          exact .statements _ (List.forall_mem_append.mpr ⟨each, eachOther⟩)

theorem statements_of_statement (isStatement : Phrase .statement first) : Sentence first := by
  have single := Phrase.statements [first] (List.forall_mem_singleton.mpr isStatement)
  rwa [List.flatten_singleton] at single

/-! ### Expressions -/

theorem expression_of_primary (isPrimary : Phrase .primary first) : Phrase .expression first := by
  have isOperand := Phrase.operand [] isPrimary [] (List.forall_mem_nil _)
  have single := Phrase.expression isOperand [] (List.forall_mem_nil _)
  rwa [List.map_nil, List.nil_append, List.flatMap_nil, List.append_nil, List.flatMap_nil,
    List.append_nil] at single

/-- An operator in front of an expression belongs to its first operand. -/
theorem unary (operator : Terminal [.bang, .minus]) (isOperand : Phrase .expression first) :
    Phrase .expression (operator.token :: first) := by
  cases isOperand with
  | expression isFirst others each =>
      cases isFirst with
      | operand operators isPrimary calls eachCall =>
          exact .expression (.operand (operator :: operators) isPrimary calls eachCall) others each

theorem binary (isLeft : Phrase .expression first) (operator : Terminal binaryOperators)
    (isRight : Phrase .expression second) :
    Phrase .expression (first ++ operator.token :: second) := by
  cases isLeft with
  | expression isFirst others each =>
      cases isRight with
      | @expression operand isOperand later eachLater =>
          have row := Phrase.expression isFirst (others ++ (operator, operand) :: later)
            (List.forall_mem_append.mpr ⟨each, List.forall_mem_cons.mpr ⟨isOperand, eachLater⟩⟩)
          rw [List.flatMap_append, List.flatMap_cons, ← List.append_assoc] at row
          exact row

theorem operand_call (isOperand : Phrase .operand first) (call : Call)
    (isArguments : Phrase .arguments call.arguments) :
    Phrase .operand (first ++ call.tokens) := by
  cases isOperand with
  | operand operators isPrimary calls each =>
      have extended := Phrase.operand operators isPrimary (calls ++ [call])
        (List.forall_mem_append.mpr ⟨each, List.forall_mem_singleton.mpr isArguments⟩)
      rw [List.flatMap_append, List.flatMap_singleton, ← List.append_assoc,
        ← List.append_assoc] at extended
      rw [← List.append_assoc]
      exact extended

/-- The arguments of a call behind an expression belong to its last operand. -/
theorem call (isCallee : Phrase .expression first) (call : Call)
    (isArguments : Phrase .arguments call.arguments) :
    Phrase .expression (first ++ call.tokens) := by
  cases isCallee with
  | expression isFirst others each =>
      rcases List.eq_nil_or_concat others with rfl | ⟨earlier, last, rfl⟩
      · have row := Phrase.expression (isFirst.operand_call call isArguments) []
          (List.forall_mem_nil _)
        rw [List.flatMap_nil, List.append_nil] at row ⊢
        exact row
      · rw [List.concat_eq_append] at each ⊢
        obtain ⟨eachEarlier, isLast⟩ := List.forall_mem_append.mp each
        have extended := (isLast last List.mem_cons_self).operand_call call isArguments
        have row := Phrase.expression isFirst (earlier ++ [(last.1, last.2 ++ call.tokens)])
          (List.forall_mem_append.mpr ⟨eachEarlier, List.forall_mem_singleton.mpr extended⟩)
        rw [List.flatMap_append, List.flatMap_singleton] at row ⊢
        rw [List.append_assoc, List.append_assoc]
        exact row

theorem items_of_expression (isExpression : Phrase .expression first) : Phrase .items first := by
  have single := Phrase.items isExpression [] (List.forall_mem_nil _)
  rwa [List.flatMap_nil, List.append_nil] at single

theorem items_concat (isItems : Phrase .items first) (comma : Terminal [.comma])
    (isExpression : Phrase .expression second) :
    Phrase .items (first ++ comma.token :: second) := by
  cases isItems with
  | items isFirst others each =>
      have longer := Phrase.items isFirst (others ++ [(comma, second)])
        (List.forall_mem_append.mpr ⟨each, List.forall_mem_singleton.mpr isExpression⟩)
      rw [List.flatMap_append, List.flatMap_singleton, ← List.append_assoc] at longer
      exact longer

end Phrase

/-! ### Derivations -/

theorem operatorsAt_subset (level : Precedence) : operatorsAt level ⊆ binaryOperators := by
  cases level <;> decide

mutual

/-- The yield of a derivation is an expression, whatever its level is. -/
theorem Expr.isExpression :
    {level : Precedence} → (derivation : Expr level) → Phrase .expression derivation.yield
  | _, .identifier name => (Phrase.identifier name).expression_of_primary
  | _, .integer numeral => (Phrase.integer numeral).expression_of_primary
  | _, .boolean word => (Phrase.boolean word).expression_of_primary
  | _, .group opening inside closing =>
      (Phrase.group opening inside.isExpression closing).expression_of_primary
  | _, .conditional word opening condition closing consequence alternative =>
      (Phrase.conditional word opening condition.isExpression closing consequence.isBlock
        alternative.isAlternative).expression_of_primary
  | _, .function word opening parameters closing body =>
      (Phrase.function word opening parameters closing body.isBlock).expression_of_primary
  | _, .call callee opening arguments closing =>
      callee.isExpression.call ⟨opening, arguments.yield, closing⟩ arguments.isArguments
  | _, .unary operator operand => operand.isExpression.unary operator
  | level, .binary left operator right =>
      left.isExpression.binary ⟨operator.token, operatorsAt_subset level operator.kind_mem⟩
        right.isExpression
  | _, .pass _ _ inside => inside.isExpression

theorem Arguments.isArguments : (arguments : Arguments) → Phrase .arguments arguments.yield
  | .none => .noArguments
  | .expressions first others =>
      .someArguments (itemsOthers first.isExpression.items_of_expression others)

/-- Behind some items there can be more of them. -/
theorem itemsOthers {items : List Token} (isItems : Phrase .items items) :
    (others : List (Terminal [.comma] × Expr .equality)) →
      Phrase .items (items ++ yieldOthers others)
  | [] => by rwa [yieldOthers, List.append_nil]
  | (comma, argument) :: others => by
      have later := itemsOthers (isItems.items_concat comma argument.isExpression) others
      rwa [List.append_assoc, List.cons_append] at later

theorem Alternative.isAlternative :
    (alternative : Alternative) → Phrase .alternative alternative.yield
  | .none => .noAlternative
  | .block word block => .someAlternative word block.isBlock

theorem Block.isBlock : (block : Block) → Phrase .block block.yield
  | .braces opening statements closing => .block opening (sentence_yieldAll statements) closing

/-- The yield of some derivations is a sentence. -/
theorem sentence_yieldAll : (statements : List Statement) → Sentence (yieldAll statements)
  | [] => Phrase.nothing
  | statement :: statements =>
      statement.isStatement.statements_of_statement.statements_append
        (sentence_yieldAll statements)

theorem Statement.isStatement : (statement : Statement) → Phrase .statement statement.yield
  | .letStatement word name sign value ending =>
      .letStatement word name sign value.isExpression ending
  | .returnStatement word value ending => .returnStatement word value.isExpression ending
  | .expressionStatement value ending => .expressionStatement value.isExpression ending

end

end Grammar

end MonkeySyntax
