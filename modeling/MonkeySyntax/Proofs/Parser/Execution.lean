import MonkeySyntax.Proofs.Parser.Completion
import MonkeySyntax.Proofs.Parser.Sessions

/-!
Contract: the execution of a parse without any bound on its loops and its recursion.

Owns:
- executions, which follow a loop turn by turn for as long as it goes on, and a reader of
  expressions into the rules that it leads to, with no count of what may still come;
- that the reader of expressions satisfies its recursion equation at every depth, so that
  the number of levels it is made of never shows;
- that every call of a parser has an execution, whatever its tables, its tokens and its depth
  of nesting are.

An execution is built up from finitely many steps, so having one is coming to an end.

Does not own: what an execution finds.
-/

set_option autoImplicit false

namespace MonkeySyntax

namespace Parser

/-! ### Executions -/

/-- The outcome of a step, one level of nesting less deep. -/
def shallower {α : Type} : EStateM.Result Abort State α → EStateM.Result Abort State α
  | .ok answer state => .ok answer (state.atDepth (state.depth - 1))
  | .error reason state => .error reason (state.atDepth (state.depth - 1))

/-- The executions of a step from a state, with their outcomes. A loop is executed by one turn
and, if that leads to another one, by the loop from there on. A reader of expressions is
executed by the rules, which read the expressions inside by the same reader. -/
inductive Executes (rules : Rules) (limit : Nat) :
    {α : Type} → ParseM α → State → EStateM.Result Abort State α → Prop where
  | pure {α : Type} (value : α) (state : State) :
      Executes rules limit (Pure.pure value) state (.ok value state)
  | current (state : State) :
      Executes rules limit Parser.current state (.ok state.stream.current state)
  | next (state : State) :
      Executes rules limit Parser.next state (.ok state.stream.next state)
  | advance (state : State) :
      Executes rules limit Parser.advance state (.ok () state.advance)
  | report (diagnostic : Diagnostic) (state : State) :
      Executes rules limit (Parser.report diagnostic) state (.ok () (state.told diagnostic))
  | abandon {α : Type} (reason : Abort) (isReason : reason ≠ .stalled) (state : State) :
      Executes rules limit (Parser.abandon reason : ParseM α) state (.error reason state)
  | bind {α β : Type} {step : ParseM α} {following : α → ParseM β} {state between : State}
      {answer : α} {ended : EStateM.Result Abort State β}
      (first : Executes rules limit step state (.ok answer between))
      (later : Executes rules limit (following answer) between ended) :
      Executes rules limit (step >>= following) state ended
  | bindError {α β : Type} {step : ParseM α} {following : α → ParseM β} {state after : State}
      {reason : Abort} (first : Executes rules limit step state (.error reason after)) :
      Executes rules limit (step >>= following) state (.error reason after)
  | again {α β : Type} {turn : β → ParseM (Turn β α)} {carried following : β}
      {state between : State} {ended : EStateM.Result Abort State α}
      (first : Executes rules limit (turn carried) state (.ok (.again following) between))
      (later : Executes rules limit (repeatTurns turn following) between ended) :
      Executes rules limit (repeatTurns turn carried) state ended
  | done {α β : Type} {turn : β → ParseM (Turn β α)} {carried : β} {result : α}
      {state after : State}
      (last : Executes rules limit (turn carried) state (.ok (.done result) after)) :
      Executes rules limit (repeatTurns turn carried) state (.ok result after)
  | turnError {α β : Type} {turn : β → ParseM (Turn β α)} {carried : β} {reason : Abort}
      {state after : State}
      (last : Executes rules limit (turn carried) state (.error reason after)) :
      Executes rules limit (repeatTurns turn carried) state (.error reason after)
  | kept {α : Type} {step : ParseM α} {answer : α} {state after : State}
      (inside : Executes rules limit step state (.ok answer after)) :
      Executes rules limit (unlessTooDeep step) state (.ok (some answer) after)
  | caught {α : Type} {step : ParseM α} {state after : State}
      (inside : Executes rules limit step state (.error .nestedTooDeeply after)) :
      Executes rules limit (unlessTooDeep step) state (.ok none after)
  | passed {α : Type} {step : ParseM α} {reason : Abort} {state after : State}
      (isOther : reason ≠ .nestedTooDeeply)
      (inside : Executes rules limit step state (.error reason after)) :
      Executes rules limit (unlessTooDeep step) state (.error reason after)
  | expression {level : Precedence} {state : State}
      {ended : EStateM.Result Abort State (Option Node)}
      (inside : Executes rules limit
        (deeper limit (rules.expressionBy (rules.reader limit) level)) state ended) :
      Executes rules limit (rules.reader limit level) state ended
  | deeper {α : Type} {step : ParseM α} {state : State} {ended : EStateM.Result Abort State α}
      (within : state.depth < limit)
      (inside : Executes rules limit step (state.atDepth (state.depth + 1)) ended) :
      Executes rules limit (Parser.deeper limit step) state (shallower ended)
  | tooDeep {α : Type} {step : ParseM α} {state : State} (exceeds : ¬ state.depth < limit) :
      Executes rules limit (Parser.deeper limit step) state (.error .nestedTooDeeply state)

/-! ### The reader of expressions -/

variable {α : Type} {rules : Rules} {limit depth : Nat} {state : State}

theorem depth_shallower {ended : EStateM.Result Abort State α}
    (isDepth : (reached ended).depth = depth + 1) : (reached (shallower ended)).depth = depth := by
  cases ended <;> exact congrArg Nat.pred isDepth

theorem deeper_of_lt {step : ParseM α} (within : state.depth < limit) :
    deeper limit step state = shallower (step (state.atDepth (state.depth + 1))) := by
  have notExceeds : ¬ limit < state.depth + 1 := by omega
  change (if limit < state.depth + 1 then _ else
    match step (state.atDepth (state.depth + 1)) with
    | .ok answer after => _
    | .error reason after => _) = _
  rw [if_neg notExceeds]
  cases step (state.atDepth (state.depth + 1)) <;> rfl

theorem deeper_of_not_lt {step : ParseM α} (exceeds : ¬ state.depth < limit) :
    deeper limit step state = .error .nestedTooDeeply state :=
  if_pos (by change limit < state.depth + 1; omega)

/-- Within the limit a reader made of enough levels reads as if it were given those left. -/
theorem expressionBelow_eq_expression (rules : Rules) (levels : Nat)
    (within : state.depth ≤ limit) (enough : limit < state.depth + levels) (level : Precedence) :
    rules.expressionBelow limit levels level state =
      rules.expression (limit - state.depth) level state := by
  have counted := runsAtDepth_expressionBelow rules within enough level state
  have leads : State.Leads _ _ _ :=
    advances_expression rules (limit - state.depth) level state
  exact counted.trans (resultAtDepth_of_eq leads.depth_eq)

/-- The recursion equation of the reader of expressions. -/
theorem reader_eq (rules : Rules) (limit : Nat) (level : Precedence) (state : State) :
    rules.reader limit level state =
      deeper limit (rules.expressionBy (rules.reader limit) level) state := by
  by_cases within : state.depth ≤ limit
  · have asReader := expressionBelow_eq_expression rules (limit + 1) within (by omega) level
    have asDeeper := expressionBelow_eq_expression rules (limit + 2) within (by omega) level
    exact asReader.trans asDeeper.symm
  · have exceeds : ¬ state.depth < limit := by omega
    exact (deeper_of_not_lt exceeds).trans (deeper_of_not_lt exceeds).symm

theorem advances_reader (rules : Rules) (limit : Nat) (level : Precedence) (state : State) :
    Advances (fun _ => True) (rules.reader limit level) state := by
  unfold Advances
  by_cases within : state.depth ≤ limit
  · have asExpression :=
      expressionBelow_eq_expression rules (limit + 1) within (by omega) level
    change State.Leads _ _ (reached (rules.expressionBelow limit (limit + 1) level state))
    rw [asExpression]
    exact advances_expression rules _ level state
  · rw [reader_eq, deeper_of_not_lt (by omega)]
    exact .refl

/-! ### Coming to an end -/

/-- From a state of a certain depth a step has an execution, which ends at that depth with the
outcome of the step. -/
def EndsAt (rules : Rules) (limit depth : Nat) (step : ParseM α) (state : State) : Prop :=
  state.depth = depth →
    Executes rules limit step state (step state) ∧ (reached (step state)).depth = depth

theorem EndsAt.bind {β : Type} {step : ParseM α} {following : α → ParseM β}
    (ends : EndsAt rules limit depth step state)
    (endsLater : ∀ answer after, step state = .ok answer after →
      EndsAt rules limit depth (following answer) after) :
    EndsAt rules limit depth (step >>= following) state := by
  intro isDepth
  obtain ⟨executes, endsDepth⟩ := ends isDepth
  cases ran : step state with
  | ok answer after =>
      rw [ran] at executes endsDepth
      rw [bind_of_ok ran]
      obtain ⟨executesLater, endsLaterDepth⟩ := endsLater answer after ran endsDepth
      exact ⟨.bind executes executesLater, endsLaterDepth⟩
  | error reason after =>
      rw [ran] at executes endsDepth
      rw [bind_of_error ran]
      exact ⟨.bindError executes, endsDepth⟩

theorem endsAt_integer (state : State) : EndsAt rules limit depth integer state := by
  refine EndsAt.bind (fun isDepth => ⟨.current state, isDepth⟩) fun token after _ => ?_
  cases readInteger token.literal with
  | value number => exact fun isDepth => ⟨.pure _ after, isDepth⟩
  | outOfRange =>
      exact EndsAt.bind (fun isDepth => ⟨.report _ after, isDepth⟩)
        fun _ after _ isDepth => ⟨.pure _ after, isDepth⟩
  | notANumeral => exact fun isDepth => ⟨.abandon .notANumeral nofun after, isDepth⟩

/-- A loop whose turns take tokens comes to an end when each turn does. -/
theorem endsAt_repeatTurns {β : Type} {turn : β → ParseM (Turn β α)} (taking : Taking turn)
    (ends : ∀ carried state, EndsAt rules limit depth (turn carried) state) (carried : β)
    (state : State) : EndsAt rules limit depth (repeatTurns turn carried) state := by
  apply repeatTurns_recursion taking (motive := fun carried state ended => state.depth = depth →
    Executes rules limit (repeatTurns turn carried) state ended ∧ (reached ended).depth = depth)
  case again =>
    intro carried state following after turned later isDepth
    obtain ⟨executes, endsDepth⟩ := ends carried state isDepth
    rw [turned] at executes endsDepth
    obtain ⟨executesLater, endsLaterDepth⟩ := later endsDepth
    exact ⟨.again executes executesLater, endsLaterDepth⟩
  case done =>
    intro carried state result after turned isDepth
    obtain ⟨executes, endsDepth⟩ := ends carried state isDepth
    rw [turned] at executes endsDepth
    exact ⟨.done executes, endsDepth⟩
  case error =>
    intro carried state reason after turned isDepth
    obtain ⟨executes, endsDepth⟩ := ends carried state isDepth
    rw [turned] at executes endsDepth
    exact ⟨.turnError executes, endsDepth⟩

theorem EndsAt.unlessTooDeep {step : ParseM α} (ends : EndsAt rules limit depth step state) :
    EndsAt rules limit depth (unlessTooDeep step) state := by
  intro isDepth
  obtain ⟨executes, endsDepth⟩ := ends isDepth
  rw [reached_unlessTooDeep]
  refine ⟨?_, endsDepth⟩
  unfold Parser.unlessTooDeep
  cases ran : step state with
  | ok answer after =>
      rw [ran] at executes
      exact .kept executes
  | error reason after =>
      rw [ran] at executes
      cases reason with
      | nestedTooDeeply => exact .caught executes
      | notANumeral => exact .passed nofun executes
      | stalled => exact .passed nofun executes

theorem unrestricted_endsAt (rules : Rules) (limit depth : Nat) :
    Unrestricted fun step _ state => EndsAt rules limit depth step state where
  pure value state isDepth := ⟨.pure value state, isDepth⟩
  current state isDepth := ⟨.current state, isDepth⟩
  next state isDepth := ⟨.next state, isDepth⟩
  advance state isDepth := ⟨.advance state, isDepth⟩
  report state _ isDepth := ⟨.report _ state, isDepth⟩
  integer state _ := endsAt_integer state
  bind ends endsLater :=
    ends.bind fun answer after ran => endsLater answer after (Or.inl ran)
  repeatTurns carried state taking ends := endsAt_repeatTurns taking ends carried state
  anyInteger := endsAt_integer
  anyReport _ state isDepth := ⟨.report _ state, isDepth⟩
  unlessTooDeep := EndsAt.unlessTooDeep

/-- From every depth the reader of expressions comes to an end. The induction is on the levels
that the limit leaves: past the limit nothing is read, and below it the expressions inside are
one level deeper. -/
theorem endsAt_reader (rules : Rules) (limit depth : Nat) (level : Precedence) (state : State) :
    EndsAt rules limit depth (rules.reader limit level) state := by
  obtain ⟨left, isLeft⟩ : ∃ left, limit - depth = left := ⟨_, rfl⟩
  induction left generalizing depth level state with
  | zero =>
      intro isDepth
      have exceeds : ¬ state.depth < limit := by omega
      rw [reader_eq, deeper_of_not_lt exceeds]
      exact ⟨.expression (.tooDeep exceeds), isDepth⟩
  | succ left inductionHypothesis =>
      intro isDepth
      have within : state.depth < limit := by omega
      have inside : ∀ level state,
          EndsAt rules limit (depth + 1) (rules.reader limit level) state :=
        fun level state => inductionHypothesis (depth + 1) level state (by omega)
      have endsInside : EndsAt rules limit (depth + 1)
          (rules.expressionBy (rules.reader limit) level) (state.atDepth (state.depth + 1)) :=
        (unrestricted_endsAt rules limit (depth + 1)).expressionBy (related_self inside)
          (advances_reader rules limit) rules level _
      obtain ⟨executes, endsDepth⟩ := endsInside (congrArg Nat.succ isDepth)
      rw [reader_eq, deeper_of_lt within]
      exact ⟨.expression (.deeper within executes), depth_shallower endsDepth⟩

/-- What an execution ends with is never a loop that stalls. -/
theorem Executes.ne_stalled {step : ParseM α} {ended : EStateM.Result Abort State α}
    (executes : Executes rules limit step state ended) (after : State) :
    ended ≠ .error .stalled after := by
  induction executes generalizing after with
  | pure | current | next | advance | report | done | kept | caught | tooDeep => exact nofun
  | abandon reason isReason _ =>
      rintro ⟨⟩
      exact isReason rfl
  | bind _ _ _ endsLater => exact endsLater after
  | again _ _ _ endsLater => exact endsLater after
  | bindError _ ends | turnError _ ends | passed _ _ ends =>
      rintro ⟨⟩
      exact ends _ rfl
  | expression _ ends => exact ends after
  | @deeper _ _ _ ended _ _ ends =>
      cases ended with
      | ok answer behind => exact nofun
      | error reason behind =>
          rintro ⟨⟩
          exact ends behind rfl

theorem executes_run (parser : Parser) (call : Call) :
    Executes parser.rules parser.limit
      (call.run parser.rules (parser.rules.reader parser.limit)) parser.state
      (call.run parser.rules (parser.rules.reader parser.limit) parser.state) := by
  have ends : EndsAt parser.rules parser.limit parser.state.depth
      (call.run parser.rules (parser.rules.reader parser.limit)) parser.state :=
    (unrestricted_endsAt parser.rules parser.limit parser.state.depth).run
      (related_self (endsAt_reader parser.rules parser.limit parser.state.depth))
      (advances_reader parser.rules parser.limit) parser.rules call parser.state
  exact (ends rfl).1

theorem executes_program (rules : Rules) (limit : Nat) (stream : TokenStream) :
    Executes rules limit (program (rules.reader limit)) (.start stream)
      (program (rules.reader limit) (.start stream)) := by
  have ends : EndsAt rules limit 0 (program (rules.reader limit)) (.start stream) :=
    (unrestricted_endsAt rules limit 0).program (related_self (endsAt_reader rules limit 0))
      (advances_reader rules limit) (.start stream)
  exact (ends rfl).1

end Parser

/-- Every call of a parser comes to an end, by an answer or by abandoning its work: from every
state, reachable or not, and by all tables that lead from kinds of tokens to rules. Its
execution is finite although nothing in it bounds a loop or the recursion, and gives what the
call gives. In particular the parse of every text comes to an end, and so does its scan, in
which every run of characters is passed one character at a time. -/
theorem exists_execution_of_perform (parser : Parser) (call : Parser.Call) (source : String) :
    (∃ ended,
      Parser.Executes parser.rules parser.limit
          (call.run parser.rules (parser.rules.reader parser.limit)) parser.state ended ∧
        match ended with
        | .ok answer state =>
            parser.perform call =
              (.ok answer, { parser with rules := call.rulesAfter parser.rules, state })
        | .error reason state =>
            reason ≠ .stalled ∧ parser.perform call =
              (.error reason, { parser with rules := call.rulesAfter parser.rules, state })) ∧
      (∃ after,
        Parser.Executes .standard nestingLimit
            (Parser.program (Parser.Rules.standard.reader nestingLimit))
            (.start (.ofString source)) (.ok (parse source).statements after) ∧
          parse source = ⟨(parse source).statements, after.reports, none⟩) ∧
      (Cursor.ofString source).Lists (tokenize source) ∧
      ∀ belongs (cursor : Cursor), cursor.Skips belongs (cursor.skip belongs) := by
  refine ⟨?_, ?_, (Cursor.ofString source).lists_toList_tokens, Cursor.skips_skip⟩
  · have executes := Parser.executes_run parser call
    refine ⟨_, executes, ?_⟩
    unfold Parser.perform
    cases ran : call.run parser.rules (parser.rules.reader parser.limit) parser.state with
    | ok answer state => rfl
    | error reason state =>
        rw [ran] at executes
        exact ⟨fun isStalled => executes.ne_stalled state (isStalled ▸ rfl), rfl⟩
  · obtain ⟨statements, state, ran, isParse⟩ := parseWith_eq nestingLimit source
    have executes := Parser.executes_program .standard nestingLimit (.ofString source)
    change parse source = _ at isParse
    rw [Parser.program_reader, ran] at executes
    rw [isParse]
    exact ⟨_, executes, rfl⟩

end MonkeySyntax
