import MonkeySyntax.Parser.Rules
import MonkeySyntax.Proofs.Parser.Steps

/-!
Contract: what one turn of each loop does, case by case.

Owns: the turns over parameters, arguments, operators, and the statements of a block
and of a program.

Does not own: what the loops do in all.
-/

set_option autoImplicit false

namespace MonkeySyntax

namespace Parser

variable {reader : ExpressionReader} {state after : State}

/-! ### Lists in parentheses -/

theorem parameterTurn_of_comma {names : List Node} (comma : state.stream.next.kind = .comma)
    (isName : state.advance.stream.next.kind = .ident) :
    parameterTurn names state =
      .ok (.again (.identifier state.advance.stream.next state.advance.stream.next.literal :: names))
        state.advance.advance := by
  unfold parameterTurn
  rw [bind_of_ok (next_run state), if_pos comma, bind_of_ok (advance_run state),
    bind_of_ok (expectNext_of_eq isName)]
  rfl

theorem parameterTurn_of_closing {names : List Node}
    (isClosing : state.stream.next.kind = .rightParen) :
    parameterTurn names state = .ok (.done (some names.reverse)) state.advance := by
  have notComma : state.stream.next.kind ≠ .comma := by simp [isClosing]
  unfold parameterTurn
  rw [bind_of_ok (next_run state), if_neg notComma, bind_of_ok (expectNext_of_eq isClosing)]
  rfl

/-- A parameter list goes on only behind a comma and a name. -/
theorem comma_of_parameterTurn {names following : List Node}
    (ran : parameterTurn names state = .ok (.again following) after) :
    state.stream.next.kind = .comma ∧ state.advance.stream.next.kind = .ident := by
  by_cases comma : state.stream.next.kind = .comma
  · by_cases isName : state.advance.stream.next.kind = .ident
    · exact ⟨comma, isName⟩
    · unfold parameterTurn at ran
      rw [bind_of_ok (next_run state), if_pos comma, bind_of_ok (advance_run state),
        bind_of_ok (expectNext_of_ne isName)] at ran
      cases ran
  · unfold parameterTurn at ran
    rw [bind_of_ok (next_run state), if_neg comma] at ran
    obtain ⟨found, between, expected, ran⟩ := bind_eq_ok ran
    cases found with
    | true => cases ran
    | false => cases ran

/-- A parameter list with an answer ends in front of a parenthesis, which it takes. -/
theorem names_of_parameterTurn {names all : List Node}
    (ran : parameterTurn names state = .ok (.done (some all)) after) :
    state.stream.next.kind = .rightParen ∧ all = names.reverse ∧ after = state.advance := by
  unfold parameterTurn at ran
  rw [bind_of_ok (next_run state)] at ran
  by_cases comma : state.stream.next.kind = .comma
  · rw [if_pos comma, bind_of_ok (advance_run state)] at ran
    obtain ⟨isFound, between, expected, ran⟩ := bind_eq_ok ran
    cases isFound with
    | true => cases ran
    | false => cases ran
  · rw [if_neg comma] at ran
    obtain ⟨isFound, between, expected, ran⟩ := bind_eq_ok ran
    rcases expectNext_eq_ok expected with ⟨rfl, isClosing, rfl⟩ | ⟨rfl, -⟩
    · cases ran
      exact ⟨isClosing, rfl, rfl⟩
    · cases ran

theorem argumentTurn_of_comma {arguments : List (Option Node)}
    (comma : state.stream.next.kind = .comma) :
    argumentTurn reader arguments state =
      (reader .lowest >>= fun argument => pure (.again (argument :: arguments)))
        state.advance.advance := by
  unfold argumentTurn
  rw [bind_of_ok (next_run state), if_pos comma]
  rfl

theorem argumentTurn_of_ne {arguments : List (Option Node)}
    (notComma : state.stream.next.kind ≠ .comma) :
    argumentTurn reader arguments state = .ok (.done arguments.reverse) state := by
  unfold argumentTurn
  rw [bind_of_ok (next_run state), if_neg notComma]
  rfl

/-- An argument list goes on only behind a comma and an argument. -/
theorem exists_argument_of_again {arguments following : List (Option Node)}
    (ran : argumentTurn reader arguments state = .ok (.again following) after) :
    state.stream.next.kind = .comma ∧ ∃ argument,
      reader .lowest state.advance.advance = .ok argument after ∧
        following = argument :: arguments := by
  by_cases comma : state.stream.next.kind = .comma
  · rw [argumentTurn_of_comma comma] at ran
    obtain ⟨argument, between, read, ran⟩ := bind_eq_ok ran
    cases ran
    exact ⟨comma, argument, read, rfl⟩
  · rw [argumentTurn_of_ne comma] at ran
    cases ran

theorem result_of_argumentTurn {arguments result : List (Option Node)}
    (ran : argumentTurn reader arguments state = .ok (.done result) after) :
    result = arguments.reverse ∧ after = state := by
  by_cases comma : state.stream.next.kind = .comma
  · rw [argumentTurn_of_comma comma] at ran
    obtain ⟨_, _, _, ran⟩ := bind_eq_ok ran
    cases ran
  · rw [argumentTurn_of_ne comma] at ran
    cases ran
    exact ⟨rfl, rfl⟩

theorem allPresent_map_some (nodes : List Node) : allPresent (nodes.map some) = some nodes := by
  induction nodes with
  | nil => rfl
  | cons node nodes inductionHypothesis =>
      rw [List.map_cons, allPresent, inductionHypothesis]
      rfl

theorem allPresent_eq_some {answers : List (Option Node)} {nodes : List Node}
    (present : allPresent answers = some nodes) : answers = nodes.map some := by
  induction answers generalizing nodes with
  | nil =>
      cases present
      rfl
  | cons answer answers inductionHypothesis =>
      cases answer with
      | none => cases present
      | some node =>
          obtain ⟨others, presentLater, rfl⟩ := Option.map_eq_some_iff.mp present
          rw [List.map_cons, ← inductionHypothesis presentLater]

/-! ### Operators -/

theorem continuationTurn_of_not_lt {rules : Rules} {level : Precedence} {left : Option Node}
    (stops : ¬ level < state.stream.next.kind.precedence) :
    rules.continuationTurn reader level left state = .ok (.done left) state := by
  unfold Rules.continuationTurn
  rw [bind_of_ok (next_run state), if_neg stops]
  rfl

theorem continuationTurn_of_none {rules : Rules} {level : Precedence} {left : Option Node}
    (found : rules.continuation state.stream.next.kind = none) :
    rules.continuationTurn reader level left state = .ok (.done left) state := by
  by_cases tighter : level < state.stream.next.kind.precedence
  · unfold Rules.continuationTurn
    rw [bind_of_ok (next_run state), if_pos tighter, found]
    rfl
  · exact continuationTurn_of_not_lt tighter

theorem continuationTurn_of_some {rules : Rules} {level : Precedence} {left : Option Node}
    {rule : ContinuationRule} (tighter : level < state.stream.next.kind.precedence)
    (found : rules.continuation state.stream.next.kind = some rule) :
    rules.continuationTurn reader level left state =
      (rule.read reader left >>= fun read => pure (.again read)) state.advance := by
  unfold Rules.continuationTurn
  rw [bind_of_ok (next_run state), if_pos tighter, found]
  rfl

/-- An expression goes on only by the rule of a token that binds tighter than the
level. -/
theorem exists_rule_of_again {rules : Rules} {level : Precedence} {left following : Option Node}
    (ran : rules.continuationTurn reader level left state = .ok (.again following) after) :
    level < state.stream.next.kind.precedence ∧ ∃ rule,
      rules.continuation state.stream.next.kind = some rule ∧
        rule.read reader left state.advance = .ok following after := by
  by_cases tighter : level < state.stream.next.kind.precedence
  · cases found : rules.continuation state.stream.next.kind with
    | none =>
        rw [continuationTurn_of_none found] at ran
        cases ran
    | some rule =>
        rw [continuationTurn_of_some tighter found] at ran
        obtain ⟨read, between, readRule, ran⟩ := bind_eq_ok ran
        cases ran
        exact ⟨tighter, rule, rfl, readRule⟩
  · rw [continuationTurn_of_not_lt tighter] at ran
    cases ran

/-! ### Blocks -/

theorem blockTurn_of_brace {token : Token} {statements : List Node}
    (isBrace : state.stream.current.kind = .rightBrace) :
    blockTurn reader token statements state =
      .ok (.done (some (.block token statements.reverse))) state := by
  unfold blockTurn
  rw [bind_of_ok (current_run state), if_pos isBrace]
  rfl

theorem blockTurn_of_ended {token : Token} {statements : List Node}
    (ended : state.stream.current.kind = .endOfInput) :
    blockTurn reader token statements state = .ok (.done none) (state.told .unclosedBlock) := by
  have notBrace : state.stream.current.kind ≠ .rightBrace := by simp [ended]
  unfold blockTurn
  rw [bind_of_ok (current_run state), if_neg notBrace, if_pos ended]
  rfl

theorem blockTurn_of_statement {token : Token} {statements : List Node}
    (notBrace : state.stream.current.kind ≠ .rightBrace)
    (unfinished : state.stream.current.kind ≠ .endOfInput) :
    blockTurn reader token statements state =
      (statement reader >>= fun read => advance >>= fun _ =>
        pure (.again (read.toList ++ statements))) state := by
  unfold blockTurn
  rw [bind_of_ok (current_run state), if_neg notBrace, if_neg unfinished]

/-- A turn of a block that leads to another one has read a statement. -/
theorem exists_statement_of_blockTurn {token : Token} {statements following : List Node}
    (ran : blockTurn reader token statements state = .ok (.again following) after) :
    state.stream.current.kind ≠ .endOfInput ∧ ∃ read between,
      statement reader state = .ok read between ∧ following = read.toList ++ statements ∧
        after = between.advance := by
  by_cases isBrace : state.stream.current.kind = .rightBrace
  · rw [blockTurn_of_brace isBrace] at ran
    cases ran
  by_cases ended : state.stream.current.kind = .endOfInput
  · rw [blockTurn_of_ended ended] at ran
    cases ran
  · rw [blockTurn_of_statement isBrace ended] at ran
    obtain ⟨read, between, readStatement, ran⟩ := bind_eq_ok ran
    cases ran
    exact ⟨ended, read, between, readStatement, rfl, rfl⟩

/-- A turn that ends a block is at its brace or at the end of the input, which is
reported. -/
theorem brace_or_ended_of_blockTurn {token : Token} {statements : List Node}
    {result : Option Node}
    (ran : blockTurn reader token statements state = .ok (.done result) after) :
    state.stream.current.kind = .rightBrace ∧
        result = some (.block token statements.reverse) ∧ after = state ∨
      result = none ∧ after = state.told .unclosedBlock := by
  by_cases isBrace : state.stream.current.kind = .rightBrace
  · rw [blockTurn_of_brace isBrace] at ran
    cases ran
    exact Or.inl ⟨isBrace, rfl, rfl⟩
  by_cases ended : state.stream.current.kind = .endOfInput
  · rw [blockTurn_of_ended ended] at ran
    cases ran
    exact Or.inr ⟨rfl, rfl⟩
  · rw [blockTurn_of_statement isBrace ended] at ran
    obtain ⟨_, _, _, ran⟩ := bind_eq_ok ran
    cases ran

/-! ### Programs -/

variable {statements : List Node}

theorem programTurn_of_ended (ended : state.stream.current.kind = .endOfInput) :
    programTurn reader statements state = .ok (.done statements.reverse) state := by
  unfold programTurn
  rw [bind_of_ok (current_run state), if_pos ended]
  rfl

theorem programTurn_of_ok {read : Option Node}
    (unfinished : state.stream.current.kind ≠ .endOfInput)
    (readStatement : statement reader state = .ok read after) :
    programTurn reader statements state =
      .ok (.again (read.toList ++ statements)) after.advance := by
  have kept : unlessTooDeep (statement reader) state = .ok (some read) after := by
    unfold unlessTooDeep
    rw [readStatement]
  unfold programTurn
  rw [bind_of_ok (current_run state), if_neg unfinished, bind_of_ok kept]
  rfl

theorem programTurn_of_tooDeep (unfinished : state.stream.current.kind ≠ .endOfInput)
    (tooDeep : statement reader state = .error .nestedTooDeeply after) :
    programTurn reader statements state =
      .ok (.done statements.reverse) (after.told .nestedTooDeeply) := by
  have caught : unlessTooDeep (statement reader) state = .ok none after := by
    unfold unlessTooDeep
    rw [tooDeep]
  unfold programTurn
  rw [bind_of_ok (current_run state), if_neg unfinished, bind_of_ok caught]
  rfl

theorem programTurn_of_error {reason : Abort}
    (unfinished : state.stream.current.kind ≠ .endOfInput) (other : reason ≠ .nestedTooDeeply)
    (failed : statement reader state = .error reason after) :
    programTurn reader statements state = .error reason after := by
  have passed : unlessTooDeep (statement reader) state = .error reason after := by
    unfold unlessTooDeep
    rw [failed]
    cases reason with
    | nestedTooDeeply => exact absurd rfl other
    | notANumeral => rfl
    | stalled => rfl
  unfold programTurn
  rw [bind_of_ok (current_run state), if_neg unfinished, bind_of_error passed]

/-- A turn of a program that leads to another one has read a statement. -/
theorem exists_statement_of_again {following : List Node}
    (ran : programTurn reader statements state = .ok (.again following) after) :
    state.stream.current.kind ≠ .endOfInput ∧ ∃ read between,
      statement reader state = .ok read between ∧ following = read.toList ++ statements ∧
        after = between.advance := by
  by_cases ended : state.stream.current.kind = .endOfInput
  · rw [programTurn_of_ended ended] at ran
    cases ran
  refine ⟨ended, ?_⟩
  cases readStatement : statement reader state with
  | ok read between =>
      rw [programTurn_of_ok ended readStatement] at ran
      cases ran
      exact ⟨read, between, rfl, rfl, rfl⟩
  | error reason between =>
      by_cases tooDeep : reason = .nestedTooDeeply
      · rw [tooDeep] at readStatement
        rw [programTurn_of_tooDeep ended readStatement] at ran
        cases ran
      · rw [programTurn_of_error ended tooDeep readStatement] at ran
        cases ran

/-- A turn that ends a program is at the end of the input or in front of a statement
that is nested too deeply. -/
theorem ended_or_tooDeep_of_done {result : List Node}
    (ran : programTurn reader statements state = .ok (.done result) after) :
    result = statements.reverse ∧
      (state.stream.current.kind = .endOfInput ∧ after = state ∨
        state.stream.current.kind ≠ .endOfInput ∧ ∃ between,
          statement reader state = .error .nestedTooDeeply between ∧
            after = between.told .nestedTooDeeply) := by
  by_cases ended : state.stream.current.kind = .endOfInput
  · rw [programTurn_of_ended ended] at ran
    cases ran
    exact ⟨rfl, Or.inl ⟨ended, rfl⟩⟩
  cases readStatement : statement reader state with
  | ok read between =>
      rw [programTurn_of_ok ended readStatement] at ran
      cases ran
  | error reason between =>
      by_cases tooDeep : reason = .nestedTooDeeply
      · rw [tooDeep] at readStatement
        rw [programTurn_of_tooDeep ended readStatement] at ran
        cases ran
        exact ⟨rfl, Or.inr ⟨ended, between, by rw [tooDeep], rfl⟩⟩
      · rw [programTurn_of_error ended tooDeep readStatement] at ran
        cases ran

end Parser

end MonkeySyntax
