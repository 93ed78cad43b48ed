import MonkeySyntax.Proofs.Parser.Turns

/-!
Contract: what a rule has read when it answers with a node.

Owns: for each construct, the readings that lead to its node, the states between them, and
the node itself.

Does not own: what a rule does that answers with no node.

A property of answers follows from the same property of the readings, construct by
construct, and needs no look into the rules.
-/

set_option autoImplicit false

namespace MonkeySyntax

namespace Parser

variable {reader : ExpressionReader} {state after : State} {node : Node}

/-! ### Statements -/

/-- The semicolon behind a closing expression is taken, if there is one. -/
theorem closingExpression_eq_ok {answer : Option Node}
    (ran : closingExpression reader state = .ok answer after) :
    ∃ between, reader .lowest state = .ok answer between ∧
      (after = between ∨ after = between.advance) := by
  obtain ⟨value, between, read, ran⟩ := bind_eq_ok ran
  by_cases isClosed : between.stream.next.kind = .semicolon
  · rw [bind_of_ok (advanceTo_of_eq isClosed)] at ran
    obtain ⟨rfl, rfl⟩ := pure_eq_ok ran
    exact ⟨between, read, Or.inr rfl⟩
  · rw [bind_of_ok (advanceTo_of_ne isClosed)] at ran
    obtain ⟨rfl, rfl⟩ := pure_eq_ok ran
    exact ⟨between, read, Or.inl rfl⟩

theorem letStatement_eq_some (ran : letStatement reader state = .ok (some node) after) :
    state.stream.next.kind = .ident ∧ state.advance.stream.next.kind = .assign ∧
      ∃ value, closingExpression reader state.advance.advance.advance = .ok (some value) after ∧
        node = .letStatement state.stream.current
          (.identifier state.stream.next state.stream.next.literal) value := by
  unfold letStatement at ran
  rw [bind_of_ok (current_run state)] at ran
  obtain ⟨isName, ran⟩ := whenNext_eq_some ran
  rw [bind_of_ok (identifier_run state.advance)] at ran
  obtain ⟨isSign, ran⟩ := whenNext_eq_some ran
  rw [bind_of_ok (advance_run state.advance.advance)] at ran
  obtain ⟨answer, between, read, ran⟩ := bind_eq_ok ran
  obtain ⟨mapped, rfl⟩ := pure_eq_ok ran
  obtain ⟨value, rfl, rfl⟩ := map_eq_some mapped
  exact ⟨isName, isSign, value, read, rfl⟩

theorem returnStatement_eq_some (ran : returnStatement reader state = .ok (some node) after) :
    ∃ value, closingExpression reader state.advance = .ok (some value) after ∧
      node = .returnStatement state.stream.current value := by
  unfold returnStatement at ran
  rw [bind_of_ok (current_run state), bind_of_ok (advance_run state)] at ran
  obtain ⟨answer, between, read, ran⟩ := bind_eq_ok ran
  obtain ⟨mapped, rfl⟩ := pure_eq_ok ran
  obtain ⟨value, rfl, rfl⟩ := map_eq_some mapped
  exact ⟨value, read, rfl⟩

theorem expressionStatement_eq_some
    (ran : expressionStatement reader state = .ok (some node) after) :
    ∃ value, closingExpression reader state = .ok (some value) after ∧
      node = .expressionStatement state.stream.current value := by
  unfold expressionStatement at ran
  rw [bind_of_ok (current_run state)] at ran
  obtain ⟨answer, between, read, ran⟩ := bind_eq_ok ran
  obtain ⟨mapped, rfl⟩ := pure_eq_ok ran
  obtain ⟨value, rfl, rfl⟩ := map_eq_some mapped
  exact ⟨value, read, rfl⟩

/-! ### Lists -/

/-- Parameters are none at all, or names that a loop has read. -/
theorem parameters_eq_some {all : List Node}
    (ran : parameters state = .ok (some all) after) :
    all = [] ∧ after = state.advance ∨
      state.stream.next.kind = .ident ∧
        repeatTurns parameterTurn
          [.identifier state.stream.next state.stream.next.literal] state.advance =
            .ok (some all) after := by
  unfold parameters at ran
  rw [bind_of_ok (next_run state)] at ran
  by_cases empty : state.stream.next.kind = .rightParen
  · rw [if_pos empty, bind_of_ok (advance_run state)] at ran
    cases ran
    exact Or.inl ⟨rfl, rfl⟩
  · rw [if_neg empty] at ran
    obtain ⟨isName, ran⟩ := whenNext_eq_some ran
    rw [bind_of_ok (identifier_run state.advance)] at ran
    exact Or.inr ⟨isName, ran⟩

/-- Arguments are none at all, or a first one and those that a loop has read behind it. -/
theorem arguments_eq_some {all : List Node}
    (ran : arguments reader state = .ok (some all) after) :
    all = [] ∧ after = state.advance ∨
      ∃ first between behind, reader .lowest state.advance = .ok first between ∧
        repeatTurns (argumentTurn reader) [first] between = .ok (all.map some) behind ∧
          after = behind.advance := by
  unfold arguments at ran
  rw [bind_of_ok (next_run state)] at ran
  by_cases empty : state.stream.next.kind = .rightParen
  · rw [if_pos empty, bind_of_ok (advance_run state)] at ran
    cases ran
    exact Or.inl ⟨rfl, rfl⟩
  · rw [if_neg empty, bind_of_ok (advance_run state)] at ran
    obtain ⟨first, between, read, ran⟩ := bind_eq_ok ran
    obtain ⟨answers, behind, readOthers, ran⟩ := bind_eq_ok ran
    obtain ⟨-, ran⟩ := whenNext_eq_some ran
    obtain ⟨present, rfl⟩ := pure_eq_ok ran
    rw [allPresent_eq_some present] at readOthers
    exact Or.inr ⟨first, between, behind, read, readOthers, rfl⟩

/-! ### What starts an expression -/

theorem integer_eq_some (ran : integer state = .ok (some node) after) :
    ∃ number, readInteger state.stream.current.literal = .value number ∧ after = state ∧
      node = .integer state.stream.current number := by
  unfold integer at ran
  rw [bind_of_ok (current_run state)] at ran
  cases isRead : readInteger state.stream.current.literal with
  | value number =>
      rw [isRead] at ran
      cases ran
      exact ⟨number, rfl, rfl, rfl⟩
  | outOfRange =>
      rw [isRead] at ran
      cases ran
  | notANumeral =>
      rw [isRead] at ran
      cases ran

theorem unary_eq_some (ran : unary reader state = .ok (some node) after) :
    ∃ operand, reader .unary state.advance = .ok (some operand) after ∧
      node = .unary state.stream.current state.stream.current.literal operand := by
  unfold unary at ran
  rw [bind_of_ok (current_run state), bind_of_ok (advance_run state)] at ran
  obtain ⟨answer, between, read, ran⟩ := bind_eq_ok ran
  obtain ⟨mapped, rfl⟩ := pure_eq_ok ran
  obtain ⟨operand, rfl, rfl⟩ := map_eq_some mapped
  exact ⟨operand, read, rfl⟩

theorem group_eq_some (ran : group reader state = .ok (some node) after) :
    ∃ between, reader .lowest state.advance = .ok (some node) between ∧
      after = between.advance := by
  unfold group at ran
  rw [bind_of_ok (advance_run state)] at ran
  obtain ⟨inside, between, read, ran⟩ := bind_eq_ok ran
  obtain ⟨-, ran⟩ := whenNext_eq_some ran
  obtain ⟨rfl, rfl⟩ := pure_eq_ok ran
  exact ⟨between, read, rfl⟩

/-- An alternative is none at all, or the block behind its word. -/
theorem alternative_eq_some {otherwise : Option Node}
    (ran : alternative reader state = .ok (some otherwise) after) :
    otherwise = none ∧ after = state ∨
      state.advance.stream.next.kind = .leftBrace ∧
        ∃ body, block reader state.advance.advance = .ok (some body) after ∧
          otherwise = some body := by
  unfold alternative at ran
  rw [bind_of_ok (next_run state)] at ran
  by_cases isWord : state.stream.next.kind = .elseWord
  · rw [if_pos isWord, bind_of_ok (advance_run state)] at ran
    obtain ⟨isOpening, ran⟩ := whenNext_eq_some ran
    obtain ⟨answer, between, read, ran⟩ := bind_eq_ok ran
    obtain ⟨mapped, rfl⟩ := pure_eq_ok ran
    obtain ⟨body, rfl, isSome⟩ := Option.map_eq_some_iff.mp mapped
    exact Or.inr ⟨isOpening, body, read, isSome.symm⟩
  · rw [if_neg isWord] at ran
    cases ran
    exact Or.inl ⟨rfl, rfl⟩

theorem conditional_eq_some (ran : conditional reader state = .ok (some node) after) :
    ∃ condition consequence otherwise first second,
      state.stream.next.kind = .leftParen ∧
      reader .lowest state.advance.advance = .ok (some condition) first ∧
      first.stream.next.kind = .rightParen ∧ first.advance.stream.next.kind = .leftBrace ∧
      block reader first.advance.advance = .ok (some consequence) second ∧
      alternative reader second = .ok (some otherwise) after ∧
      node = .conditional state.stream.current condition consequence otherwise := by
  unfold conditional at ran
  rw [bind_of_ok (current_run state)] at ran
  obtain ⟨isOpening, ran⟩ := whenNext_eq_some ran
  rw [bind_of_ok (advance_run state.advance)] at ran
  obtain ⟨condition, first, readCondition, ran⟩ := bind_eq_ok ran
  obtain ⟨isClosing, ran⟩ := whenNext_eq_some ran
  obtain ⟨isBrace, ran⟩ := whenNext_eq_some ran
  obtain ⟨consequence, second, readConsequence, ran⟩ := bind_eq_ok ran
  obtain ⟨otherwise, third, readOtherwise, ran⟩ := bind_eq_ok ran
  split at ran
  · cases ran
    exact ⟨_, _, _, first, second, isOpening, readCondition, isClosing, isBrace,
      readConsequence, readOtherwise, rfl⟩
  · cases ran

theorem function_eq_some (ran : function reader state = .ok (some node) after) :
    ∃ names body first, state.stream.next.kind = .leftParen ∧
      parameters state.advance = .ok (some names) first ∧
      first.stream.next.kind = .leftBrace ∧
      block reader first.advance = .ok (some body) after ∧
      node = .function state.stream.current names body := by
  unfold function at ran
  rw [bind_of_ok (current_run state)] at ran
  obtain ⟨isOpening, ran⟩ := whenNext_eq_some ran
  obtain ⟨names, first, readNames, ran⟩ := bind_eq_ok ran
  cases names with
  | none => cases ran
  | some names =>
      obtain ⟨isBrace, ran⟩ := whenNext_eq_some ran
      obtain ⟨answer, second, readBody, ran⟩ := bind_eq_ok ran
      obtain ⟨mapped, rfl⟩ := pure_eq_ok ran
      obtain ⟨body, rfl, rfl⟩ := map_eq_some mapped
      exact ⟨names, body, first, isOpening, readNames, isBrace, readBody, rfl⟩

/-! ### What continues an expression -/

theorem binary_eq_some {left : Option Node}
    (ran : binary reader left state = .ok (some node) after) :
    ∃ leftNode right, left = some leftNode ∧
      reader state.stream.current.kind.precedence state.advance = .ok (some right) after ∧
      node = .binary state.stream.current leftNode state.stream.current.literal right := by
  unfold binary at ran
  rw [bind_of_ok (current_run state), bind_of_ok (advance_run state)] at ran
  obtain ⟨right, between, read, ran⟩ := bind_eq_ok ran
  split at ran
  · cases ran
    exact ⟨_, _, rfl, read, rfl⟩
  · cases ran

theorem call_eq_some {left : Option Node}
    (ran : call reader left state = .ok (some node) after) :
    ∃ callee nodes, left = some callee ∧ arguments reader state = .ok (some nodes) after ∧
      node = .call state.stream.current callee nodes := by
  unfold call at ran
  rw [bind_of_ok (current_run state)] at ran
  obtain ⟨nodes, between, read, ran⟩ := bind_eq_ok ran
  split at ran
  · cases ran
    exact ⟨_, _, rfl, read, rfl⟩
  · cases ran

/-- An expression is what starts it, and what a loop makes of that. -/
theorem Rules.expressionBy_eq_some {rules : Rules} {level : Precedence}
    (ran : rules.expressionBy reader level state = .ok (some node) after) :
    ∃ rule left between, rules.opening state.stream.current.kind = some rule ∧
      rule.read reader state = .ok left between ∧
      repeatTurns (rules.continuationTurn reader level) left between = .ok (some node) after := by
  unfold expressionBy at ran
  rw [bind_of_ok (current_run state)] at ran
  cases found : rules.opening state.stream.current.kind with
  | none =>
      rw [found] at ran
      cases ran
  | some rule =>
      rw [found] at ran
      obtain ⟨left, between, readLeft, ran⟩ := bind_eq_ok ran
      exact ⟨rule, left, between, rfl, readLeft, ran⟩

end Parser

end MonkeySyntax
