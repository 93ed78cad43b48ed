import Mathlib.Logic.Relation
import MonkeySyntax.Parser.Statement

/-!
Contract: what the single steps of a parse do, and how a loop unfolds.

Owns:
- the run of a sequence of steps, forwards and backwards;
- the states that a parse can pass through, as a relation between states;
- the unfolding of a loop whose turns take tokens, and induction over a loop.

Does not own: what the rules do with the steps.
-/

set_option autoImplicit false

namespace MonkeySyntax

/-- A current token that is not the end of the input is the first one ahead. -/
theorem TokenStream.upcoming_eq_cons {stream : TokenStream}
    (unfinished : stream.current.kind ≠ .endOfInput) :
    stream.upcoming = stream.current :: stream.upcoming.tail := by
  cases ahead : stream.upcoming with
  | nil => exact absurd (by simp [current, ahead, endToken]) unfinished
  | cons token others => rw [current, ahead, List.headD_cons, List.tail_cons]

namespace Parser

variable {α β : Type} {state after : State}

/-! ### Sequences -/

theorem bind_of_ok {step : ParseM α} {following : α → ParseM β} {answer : α}
    (ran : step state = .ok answer after) :
    (step >>= following) state = following answer after := by
  change EStateM.bind step following state = _
  rw [EStateM.bind, ran]

theorem bind_of_error {step : ParseM α} {following : α → ParseM β} {reason : Abort}
    (failed : step state = .error reason after) :
    (step >>= following) state = .error reason after := by
  change EStateM.bind step following state = _
  rw [EStateM.bind, failed]

/-- A sequence that ends with an answer passes through an answer of its first
step. -/
theorem bind_eq_ok {step : ParseM α} {following : α → ParseM β} {answer : β}
    (ran : (step >>= following) state = .ok answer after) :
    ∃ first between, step state = .ok first between ∧
      following first between = .ok answer after := by
  cases begun : step state with
  | ok first between =>
      rw [bind_of_ok begun] at ran
      exact ⟨first, between, rfl, ran⟩
  | error reason between =>
      rw [bind_of_error begun] at ran
      cases ran

theorem pure_eq_ok {value answer : α} (ran : (pure value : ParseM α) state = .ok answer after) :
    value = answer ∧ state = after := by
  cases ran
  exact ⟨rfl, rfl⟩

/-! ### Single steps -/

namespace State

/-- The state once the current token is taken. -/
def advance (state : State) : State := { state with stream := state.stream.advance }

/-- The state once a cause is reported. -/
def told (state : State) (diagnostic : Diagnostic) : State :=
  { state with log := ⟨diagnostic, state.stream.current, state.stream.next⟩ :: state.log }

end State

theorem upcoming_of_current {kind : TokenKind} (isKind : state.stream.current.kind = kind)
    (isToken : kind ≠ .endOfInput) :
    state.stream.upcoming = state.stream.current :: state.advance.stream.upcoming :=
  TokenStream.upcoming_eq_cons (isKind ▸ isToken)

theorem upcoming_of_next {kind : TokenKind} (isKind : state.stream.next.kind = kind)
    (isToken : kind ≠ .endOfInput) :
    state.advance.stream.upcoming =
      state.stream.next :: state.advance.advance.stream.upcoming := by
  have isCurrent : state.advance.stream.current.kind = kind := isKind
  exact upcoming_of_current isCurrent isToken

theorem upcoming_advance_suffix (state : State) :
    state.advance.stream.upcoming <:+ state.stream.upcoming :=
  List.tail_suffix _

theorem current_run (state : State) : current state = .ok state.stream.current state := rfl

theorem next_run (state : State) : next state = .ok state.stream.next state := rfl

theorem advance_run (state : State) : advance state = .ok () state.advance := rfl

theorem report_run (diagnostic : Diagnostic) (state : State) :
    report diagnostic state = .ok () (state.told diagnostic) := rfl

theorem errors_told (diagnostic : Diagnostic) (state : State) :
    (state.told diagnostic).errors = state.errors ++ [diagnostic.message] := by
  unfold State.errors State.reports State.told
  rw [List.reverse_cons, List.map_append]
  rfl

theorem identifier_run (state : State) :
    identifier state =
      .ok (.identifier state.stream.current state.stream.current.literal) state := rfl

theorem expectNext_of_eq {kind : TokenKind} (ahead : state.stream.next.kind = kind) :
    expectNext kind state = .ok true state.advance := by
  unfold expectNext
  rw [bind_of_ok (next_run state), if_pos ahead]
  rfl

theorem expectNext_of_ne {kind : TokenKind} (ahead : state.stream.next.kind ≠ kind) :
    expectNext kind state =
      .ok false (state.told (.unexpected kind state.stream.next.kind)) := by
  unfold expectNext
  rw [bind_of_ok (next_run state), if_neg ahead]
  rfl

theorem advanceTo_of_eq {kind : TokenKind} (ahead : state.stream.next.kind = kind) :
    advanceTo kind state = .ok () state.advance := by
  unfold advanceTo
  rw [bind_of_ok (next_run state), if_pos ahead]
  rfl

theorem advanceTo_of_ne {kind : TokenKind} (ahead : state.stream.next.kind ≠ kind) :
    advanceTo kind state = .ok () state := by
  unfold advanceTo
  rw [bind_of_ok (next_run state), if_neg ahead]
  rfl

/-- What is required next is either taken or reported. -/
theorem expectNext_eq_ok {kind : TokenKind} {found : Bool}
    (ran : expectNext kind state = .ok found after) :
    (found = true ∧ state.stream.next.kind = kind ∧ after = state.advance) ∨
      (found = false ∧ after = state.told (.unexpected kind state.stream.next.kind)) := by
  by_cases ahead : state.stream.next.kind = kind
  · rw [expectNext_of_eq ahead] at ran
    cases ran
    exact Or.inl ⟨rfl, ahead, rfl⟩
  · rw [expectNext_of_ne ahead] at ran
    cases ran
    exact Or.inr ⟨rfl, rfl⟩

/-- What is required next is taken when nothing is reported. -/
theorem expectNext_eq_true {kind : TokenKind} {found : Bool}
    (ran : expectNext kind state = .ok found after)
    (silent : after.log.length ≤ state.log.length) :
    found = true ∧ state.stream.next.kind = kind ∧ after = state.advance := by
  rcases expectNext_eq_ok ran with taken | ⟨-, reported⟩
  · exact taken
  · rw [reported] at silent
    exact absurd silent (Nat.not_succ_le_self _)

/-- A run with an answer found the token that it required. -/
theorem whenNext_eq_some {kind : TokenKind} {found : ParseM (Option α)} {result : α}
    (ran : (expectNext kind >>= fun isFound => if isFound = true then found else pure none)
      state = .ok (some result) after) :
    state.stream.next.kind = kind ∧ found state.advance = .ok (some result) after := by
  obtain ⟨isFound, between, expected, ran⟩ := bind_eq_ok ran
  rcases expectNext_eq_ok expected with ⟨rfl, isKind, rfl⟩ | ⟨rfl, -⟩
  · exact ⟨isKind, ran⟩
  · cases ran

theorem map_eq_some {step : Option Node} {wrap : Node → Node} {node : Node}
    (mapped : step.map wrap = some node) : ∃ inside, step = some inside ∧ node = wrap inside := by
  cases step with
  | none => cases mapped
  | some inside => exact ⟨inside, rfl, (Option.some.inj mapped).symm⟩

/-- Two words decide what a statement is. -/
theorem statement_run (reader : ExpressionReader) (state : State) :
    statement reader state =
      if state.stream.current.kind = .letWord then letStatement reader state
      else if state.stream.current.kind = .returnWord then returnStatement reader state
      else expressionStatement reader state := by
  unfold statement
  rw [bind_of_ok (current_run state)]
  cases state.stream.current.kind <;> rfl

/-! ### The states of a parse -/

/-- The state in which a run ended, with an answer or without. -/
def reached (result : EStateM.Result Abort State α) : State :=
  match result with
  | .ok _ state => state
  | .error _ state => state

theorem reached_unlessTooDeep (step : ParseM α) (state : State) :
    reached (unlessTooDeep step state) = reached (step state) := by
  unfold unlessTooDeep
  cases ran : step state with
  | ok answer after => rfl
  | error reason after => cases reason <;> rfl

namespace State

/-- A step that changes the state: a token is taken, or a cause is reported that is
among those that may be. -/
inductive Step (allowed : Diagnostic → Prop) : State → State → Prop where
  | advance (state : State) : Step allowed state state.advance
  | told (state : State) {diagnostic : Diagnostic} (isAllowed : allowed diagnostic) :
      Step allowed state (state.told diagnostic)

/-- Some steps lead from one state to another. -/
abbrev Leads (allowed : Diagnostic → Prop) : State → State → Prop :=
  Relation.ReflTransGen (Step allowed)

variable {allowed : Diagnostic → Prop} {start finish : State}

theorem Step.mono {more : Diagnostic → Prop} (single : Step allowed start finish)
    (allows : ∀ diagnostic, allowed diagnostic → more diagnostic) : Step more start finish := by
  cases single with
  | advance => exact .advance _
  | told isAllowed => exact .told _ (allows _ isAllowed)

theorem Leads.mono {more : Diagnostic → Prop} (leads : Leads allowed start finish)
    (allows : ∀ diagnostic, allowed diagnostic → more diagnostic) : Leads more start finish :=
  Relation.ReflTransGen.mono (fun _ _ single => single.mono allows) _ _ leads

theorem Leads.upcoming_suffix (leads : Leads allowed start finish) :
    finish.stream.upcoming <:+ start.stream.upcoming := by
  induction leads with
  | refl => exact List.suffix_refl _
  | tail _ step inductionHypothesis =>
      cases step with
      | advance => exact (upcoming_advance_suffix _).trans inductionHypothesis
      | told => exact inductionHypothesis

theorem Leads.remaining_le (leads : Leads allowed start finish) :
    finish.stream.remaining ≤ start.stream.remaining :=
  leads.upcoming_suffix.length_le

theorem Leads.endToken_eq (leads : Leads allowed start finish) :
    finish.stream.endToken = start.stream.endToken := by
  induction leads with
  | refl => rfl
  | tail _ step inductionHypothesis =>
      cases step <;> exact inductionHypothesis

/-- Reports are only added, and each added one is of an allowed cause. -/
theorem Leads.exists_log_eq (leads : Leads allowed start finish) :
    ∃ added, finish.log = added ++ start.log ∧
      ∀ report ∈ added, allowed report.diagnostic := by
  induction leads with
  | refl => exact ⟨[], rfl, fun _ absent => absurd absent List.not_mem_nil⟩
  | tail _ step inductionHypothesis =>
      obtain ⟨added, logged, all⟩ := inductionHypothesis
      cases step with
      | advance => exact ⟨added, logged, all⟩
      | told isAllowed =>
          refine ⟨_ :: added, congrArg (List.cons _) logged, fun report listed => ?_⟩
          rcases List.mem_cons.mp listed with rfl | earlier
          · exact isAllowed
          · exact all report earlier

theorem Leads.log_suffix (leads : Leads allowed start finish) : start.log <:+ finish.log := by
  obtain ⟨added, logged, -⟩ := leads.exists_log_eq
  exact ⟨added, logged.symm⟩

theorem Leads.log_length_le (leads : Leads allowed start finish) :
    start.log.length ≤ finish.log.length :=
  leads.log_suffix.length_le

end State

/-! ### Loops -/

/-- Every turn that leads to another one takes a token. -/
def Taking (turn : β → ParseM (Turn β α)) : Prop :=
  ∀ carried state following after, turn carried state = .ok (.again following) after →
    after.stream.remaining < state.stream.remaining

variable {turn : β → ParseM (Turn β α)} {carried following : β} {result : α}

theorem turns_again (bound : Nat) (goesOn : turn carried state = .ok (.again following) after) :
    turns turn (bound + 1) carried state = turns turn bound following after := by
  rw [turns, bind_of_ok goesOn]

theorem turns_done (bound : Nat) (ends : turn carried state = .ok (.done result) after) :
    turns turn (bound + 1) carried state = .ok result after := by
  rw [turns, bind_of_ok ends]
  rfl

theorem turns_error (bound : Nat) {reason : Abort}
    (fails : turn carried state = .error reason after) :
    turns turn (bound + 1) carried state = .error reason after := by
  rw [turns, bind_of_error fails]

/-- With more turns than tokens left, the bound on the turns does not matter. -/
theorem turns_eq_turns (taking : Taking turn) (bound other : Nat) (carried : β) (state : State)
    (enough : state.stream.remaining < bound) (alsoEnough : state.stream.remaining < other) :
    turns turn bound carried state = turns turn other carried state := by
  induction bound generalizing other carried state with
  | zero => omega
  | succ bound inductionHypothesis =>
      obtain ⟨other, rfl⟩ : ∃ fewer, other = fewer + 1 := ⟨other - 1, by omega⟩
      cases ran : turn carried state with
      | error reason after => rw [turns_error bound ran, turns_error other ran]
      | ok decided after =>
          cases decided with
          | done result => rw [turns_done bound ran, turns_done other ran]
          | again following =>
              have fewer := taking carried state following after ran
              rw [turns_again bound ran, turns_again other ran]
              exact inductionHypothesis other following after (by omega) (by omega)

theorem repeatTurns_again (taking : Taking turn)
    (goesOn : turn carried state = .ok (.again following) after) :
    repeatTurns turn carried state = repeatTurns turn following after := by
  have fewer := taking carried state following after goesOn
  change turns turn (state.stream.remaining + 1) carried state =
    turns turn (after.stream.remaining + 1) following after
  rw [turns_again _ goesOn]
  exact turns_eq_turns taking _ _ following after (by omega) (by omega)

theorem repeatTurns_done (ends : turn carried state = .ok (.done result) after) :
    repeatTurns turn carried state = .ok result after :=
  turns_done _ ends

theorem repeatTurns_error {reason : Abort} (fails : turn carried state = .error reason after) :
    repeatTurns turn carried state = .error reason after :=
  turns_error _ fails

/-- Induction over a loop, from its last turn to its first. -/
theorem repeatTurns_recursion (taking : Taking turn)
    {motive : β → State → EStateM.Result Abort State α → Prop}
    (again : ∀ carried state following after, turn carried state = .ok (.again following) after →
      motive following after (repeatTurns turn following after) →
        motive carried state (repeatTurns turn following after))
    (done : ∀ carried state result after,
      turn carried state = .ok (.done result) after → motive carried state (.ok result after))
    (error : ∀ carried state reason after,
      turn carried state = .error reason after → motive carried state (.error reason after))
    (carried : β) (state : State) :
    motive carried state (repeatTurns turn carried state) := by
  obtain ⟨left, counted⟩ : ∃ left, state.stream.remaining = left := ⟨_, rfl⟩
  induction left using Nat.strongRecOn generalizing carried state with
  | ind left inductionHypothesis =>
      cases ran : turn carried state with
      | error reason after =>
          rw [repeatTurns_error ran]
          exact error carried state reason after ran
      | ok decided after =>
          cases decided with
          | done result =>
              rw [repeatTurns_done ran]
              exact done carried state result after ran
          | again following =>
              have fewer := taking carried state following after ran
              rw [repeatTurns_again taking ran]
              exact again carried state following after ran
                (inductionHypothesis after.stream.remaining (by omega) following after rfl)

/-- What holds of the carried value and the state before every turn of a loop, and of
the outcome of the last turn, holds of the outcome of the loop. -/
theorem repeatTurns_induction (taking : Taking turn) (invariant : β → State → Prop)
    (outcome : EStateM.Result Abort State α → Prop)
    (again : ∀ carried state following after, invariant carried state →
      turn carried state = .ok (.again following) after → invariant following after)
    (done : ∀ carried state result after, invariant carried state →
      turn carried state = .ok (.done result) after → outcome (.ok result after))
    (error : ∀ carried state reason after, invariant carried state →
      turn carried state = .error reason after → outcome (.error reason after))
    (holds : invariant carried state) :
    outcome (repeatTurns turn carried state) := by
  apply repeatTurns_recursion taking
    (motive := fun carried state ended => invariant carried state → outcome ended)
  case again =>
    intro carried state following after ran outcomeLater holds
    exact outcomeLater (again carried state following after holds ran)
  case done =>
    intro carried state result after ran holds
    exact done carried state result after holds ran
  case error =>
    intro carried state reason after ran holds
    exact error carried state reason after holds ran
  case a => exact holds

/-- Recursion over a loop that ends with a result. -/
theorem repeatTurns_ok_recursion (taking : Taking turn)
    {motive : β → State → α → State → Prop}
    (again : ∀ carried state following between result after,
      turn carried state = .ok (.again following) between →
      repeatTurns turn following between = .ok result after →
      motive following between result after → motive carried state result after)
    (done : ∀ carried state result after, turn carried state = .ok (.done result) after →
      motive carried state result after)
    (ran : repeatTurns turn carried state = .ok result after) :
    motive carried state result after := by
  have reached : ∀ result after, repeatTurns turn carried state = .ok result after →
      motive carried state result after := by
    apply repeatTurns_recursion taking
      (motive := fun carried state ended => ∀ result after, ended = .ok result after →
        motive carried state result after)
    case again =>
      intro carried state following between turned later result after ran
      exact again carried state following between result after turned ran (later result after ran)
    case done =>
      rintro carried state result after turned _ _ ⟨⟩
      exact done carried state result after turned
    case error =>
      rintro carried state reason after turned _ _ ⟨⟩
  exact reached result after ran

/-- What holds before every turn of a loop, and of the result of the last turn, holds of the
result of the loop. -/
theorem repeatTurns_ok_induction (taking : Taking turn) (invariant : β → State → Prop)
    (outcome : α → State → Prop)
    (again : ∀ carried state following after, invariant carried state →
      turn carried state = .ok (.again following) after → invariant following after)
    (done : ∀ carried state result after, invariant carried state →
      turn carried state = .ok (.done result) after → outcome result after)
    (holds : invariant carried state) (ran : repeatTurns turn carried state = .ok result after) :
    outcome result after := by
  apply repeatTurns_ok_recursion taking
    (motive := fun carried state result after => invariant carried state → outcome result after)
    ?again ?done ran holds
  case again =>
    intro carried state following between result after turned _ later holds
    exact later (again carried state following between holds turned)
  case done =>
    intro carried state result after turned holds
    exact done carried state result after holds turned

end Parser

end MonkeySyntax
