import MonkeySyntax.Proofs.Parser.AnyRules

/-!
Contract: counting the depth of nesting in the state, and handing down the levels that are
left, come to the same.

Owns:
- that no rule sees the depth, and that every run leaves it as it was;
- the reader of expressions as one that is given the levels left, by any tables.
-/

set_option autoImplicit false

namespace MonkeySyntax

namespace Parser

variable {α β : Type} {depth : Nat} {state : State}

/-- The state with another depth of nesting. -/
def State.atDepth (state : State) (depth : Nat) : State := { state with depth := depth }

/-- The outcome of a run with another depth of nesting. -/
def resultAtDepth (depth : Nat) :
    EStateM.Result Abort State α → EStateM.Result Abort State α
  | .ok answer state => .ok answer (state.atDepth depth)
  | .error reason state => .error reason (state.atDepth depth)

theorem resultAtDepth_of_eq {result : EStateM.Result Abort State α}
    (isDepth : (reached result).depth = depth) : resultAtDepth depth result = result := by
  subst isDepth
  cases result <;> rfl

/-- From a certain depth on, the second run is the first one with that depth throughout. -/
def RunsAtDepth (depth : Nat) (step step' : ParseM α) (state : State) : Prop :=
  step' (state.atDepth depth) = resultAtDepth depth (step state)

theorem RunsAtDepth.bind {step step' : ParseM α} {following following' : α → ParseM β}
    (runs : RunsAtDepth depth step step' state)
    (followingRuns : ∀ answer after, step state = .ok answer after →
      RunsAtDepth depth (following answer) (following' answer) after) :
    RunsAtDepth depth (step >>= following) (step' >>= following') state := by
  unfold RunsAtDepth at runs ⊢
  cases ran : step state with
  | ok answer after =>
      rw [ran] at runs
      rw [bind_of_ok ran, bind_of_ok runs]
      exact followingRuns answer after ran
  | error reason after =>
      rw [ran] at runs
      rw [bind_of_error ran, bind_of_error runs]
      rfl

theorem runsAtDepth_integer (state : State) : RunsAtDepth depth integer integer state := by
  unfold RunsAtDepth integer
  rw [bind_of_ok (current_run state), bind_of_ok (current_run (state.atDepth depth))]
  have same : (state.atDepth depth).stream.current = state.stream.current := rfl
  rw [same]
  cases readInteger state.stream.current.literal with
  | value number => rfl
  | outOfRange => rfl
  | notANumeral => rfl

theorem runsAtDepth_turns {turn turn' : β → ParseM (Turn β α)}
    (runs : ∀ carried state, RunsAtDepth depth (turn carried) (turn' carried) state)
    (bound : Nat) (carried : β) (state : State) :
    RunsAtDepth depth (turns turn bound carried) (turns turn' bound carried) state := by
  induction bound generalizing carried state with
  | zero => rfl
  | succ bound inductionHypothesis =>
      refine (runs carried state).bind fun decided after _ => ?_
      cases decided with
      | again following => exact inductionHypothesis following after
      | done result => rfl

/-- No rule sees the depth of nesting. -/
theorem unrestricted_runsAtDepth (depth : Nat) : Unrestricted (RunsAtDepth depth) where
  pure _ _ := rfl
  current _ := rfl
  next _ := rfl
  advance _ := rfl
  report _ _ := rfl
  integer state _ := runsAtDepth_integer state
  bind runs followingRuns :=
    runs.bind fun answer after ran => followingRuns answer after (Or.inl ran)
  repeatTurns carried state _ runs :=
    runsAtDepth_turns runs (state.stream.remaining + 1) carried state
  anyInteger := runsAtDepth_integer
  anyReport _ _ := rfl
  unlessTooDeep {α step step' state} runs := by
    unfold RunsAtDepth Parser.unlessTooDeep at *
    rw [runs]
    cases step state with
    | ok answer after => rfl
    | error reason after => cases reason <;> rfl

theorem runsAtDepth_deeper {limit : Nat} {step step' : ParseM α} (within : depth + 1 ≤ limit)
    (runs : RunsAtDepth (depth + 1) step step' state) :
    RunsAtDepth depth step (deeper limit step') state := by
  have notExceeds : ¬ limit < depth + 1 := by omega
  unfold RunsAtDepth at runs ⊢
  change (if limit < depth + 1 then _ else
    match step' (state.atDepth (depth + 1)) with
    | .ok answer after => _
    | .error reason after => _) = _
  rw [if_neg notExceeds, runs]
  cases step state with
  | ok answer after => rfl
  | error reason after => rfl

/-- The reader of expressions runs as one that is given the levels left at its depth. -/
theorem runsAtDepth_expressionBelow (rules : Rules) {limit levels depth : Nat}
    (within : depth ≤ limit) (enough : limit < depth + levels) (level : Precedence)
    (state : State) :
    RunsAtDepth depth (rules.expression (limit - depth) level)
      (rules.expressionBelow limit levels level) state := by
  induction levels generalizing depth level state with
  | zero => omega
  | succ levels inductionHypothesis =>
      by_cases exceeds : limit < depth + 1
      · have noneLeft : limit - depth = 0 := by omega
        rw [noneLeft]
        exact if_pos exceeds
      obtain ⟨left, isLeft, isLeftInside⟩ :
          ∃ left, limit - depth = left + 1 ∧ limit - (depth + 1) = left :=
        ⟨limit - (depth + 1), by omega, rfl⟩
      have inside : ∀ level state, RunsAtDepth (depth + 1) (rules.expression left level)
          (rules.expressionBelow limit levels level) state := by
        rw [← isLeftInside]
        exact inductionHypothesis (by omega) (by omega)
      have runs := (unrestricted_runsAtDepth (depth + 1)).expressionBy inside
        (advances_expression rules left) rules level state
      rw [isLeft]
      exact runsAtDepth_deeper (by omega) runs

theorem runsAtDepth_reader (rules : Rules) (limit : Nat) (level : Precedence) (state : State) :
    RunsAtDepth 0 (rules.expression limit level) (rules.reader limit level) state :=
  runsAtDepth_expressionBelow rules (Nat.zero_le limit) (by omega) level state

/-- A program is read as if its expressions were given the levels left. -/
theorem program_reader (rules : Rules) (limit : Nat) (stream : TokenStream) :
    program (rules.reader limit) (.start stream) =
      resultAtDepth 0 (program (rules.expression limit) (.start stream)) :=
  (unrestricted_runsAtDepth 0).program (runsAtDepth_reader rules limit)
    (advances_expression rules limit) (.start stream)

end Parser

end MonkeySyntax
