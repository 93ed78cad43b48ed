import MonkeySyntax.Proofs.Parser.Truncation

/-!
Contract: the reports of a parse are charged to the tokens of its text.

Owns:
- the account of a state, in which the reports so far and the tokens that are left are
  counted together;
- the budget of a run, which may be exceeded by one report when the run answers, and not at
  all when it is abandoned;
- that every rule of the language keeps to the account with which it begins.

Main statement: a parse has at most as many errors as its text has tokens, the end of the input
being one of them. That an expression is nested too deeply is only ever the last one.

A report adds one to the account, and a token that is taken gives one back. A construct takes
the token that it starts with or expects, and this pays for the report of an expression inside
it. So it is left with one report to pay for, its own or that of its last part, whatever
happens inside. The loops over statements take one more token behind each statement, which pays
for that report, except at the end of the input, where they end.
-/

set_option autoImplicit false

namespace MonkeySyntax

namespace Parser

variable {α β : Type} {state after : State} {budget fewer : Nat}

/-! ### Accounts -/

/-- The reports so far and the tokens that are left. -/
def State.account (state : State) : Nat := state.log.length + state.stream.remaining

theorem State.account_told (diagnostic : Diagnostic) (state : State) :
    (state.told diagnostic).account = state.account + 1 :=
  Nat.succ_add ..

theorem State.account_advance_le (state : State) : state.advance.account ≤ state.account :=
  Nat.add_le_add_left (remaining_advance_le state) _

theorem State.account_advance_lt (unfinished : state.stream.current.kind ≠ .endOfInput) :
    state.advance.account < state.account :=
  Nat.add_lt_add_left (state.stream.remaining_advance_lt unfinished) _

theorem State.account_advance_lt_of_next (unfinished : state.stream.next.kind ≠ .endOfInput) :
    state.advance.account < state.account :=
  Nat.add_lt_add_left (remaining_advance_lt_of_next state unfinished) _

/-! ### Budgets -/

/-- An answer comes with an account of at most one more than the budget, and where a run is
abandoned the budget is kept. -/
def Affordable (budget : Nat) : EStateM.Result Abort State α → Prop
  | .ok _ after => after.account ≤ budget + 1
  | .error _ after => after.account ≤ budget

/-- What a run leads to is affordable. -/
def Affords (budget : Nat) (step : ParseM α) (state : State) : Prop :=
  Affordable budget (step state)

section Sequences

variable {step : ParseM α} {following : α → ParseM β}

theorem affords_of_ok {answer : α} (ran : step state = .ok answer after)
    (within : after.account ≤ budget + 1) : Affords budget step state := by
  unfold Affords
  rw [ran]
  exact within

theorem Affords.account_le {answer : α} (affords : Affords budget step state)
    (ran : step state = .ok answer after) : after.account ≤ budget + 1 := by
  unfold Affords at affords
  rw [ran] at affords
  exact affords

theorem Affords.account_le_of_error {reason : Abort} (affords : Affords budget step state)
    (failed : step state = .error reason after) : after.account ≤ budget := by
  unfold Affords at affords
  rw [failed] at affords
  exact affords

theorem Affords.of_eq {other : ParseM α} {between : State} (affords : Affords budget other between)
    (same : step state = other between) : Affords budget step state := by
  unfold Affords
  rw [same]
  exact affords

/-- In front of a sequence stands a step whose outcome is known. -/
theorem affords_bind_of_ok {answer : α} (ran : step state = .ok answer after)
    (followingAffords : Affords budget (following answer) after) :
    Affords budget (step >>= following) state :=
  followingAffords.of_eq (bind_of_ok ran)

/-- A sequence may begin on a smaller budget, which bounds what its first part leaves. -/
theorem Affords.bind (affords : Affords fewer step state) (atMost : fewer ≤ budget)
    (followingAffords : ∀ answer after, after.account ≤ fewer + 1 →
      Affords budget (following answer) after) :
    Affords budget (step >>= following) state := by
  cases ran : step state with
  | ok answer after =>
      exact affords_bind_of_ok ran (followingAffords answer after (affords.account_le ran))
  | error reason after =>
      have left := affords.account_le_of_error ran
      unfold Affords
      rw [bind_of_error ran]
      exact Nat.le_trans left atMost

/-- An answer may be wrapped. -/
theorem Affords.bind_pure {wrap : α → β} (affords : Affords budget step state) :
    Affords budget (step >>= fun answer => pure (wrap answer)) state :=
  affords.bind (Nat.le_refl _) fun _ _ left => affords_of_ok rfl left

/-- A token that is expected is taken, and this pays for one report more. When it is missing
there is no other report. -/
theorem affords_whenNext {kind : TokenKind} {found : ParseM α} {nothing : α}
    (isToken : kind ≠ .endOfInput) (within : state.account ≤ budget)
    (whenFound : state.advance.stream.current.kind = kind →
      state.advance.account < state.account → Affords budget found state.advance) :
    Affords budget (expectNext kind >>= fun isFound =>
      if isFound = true then found else pure nothing) state := by
  by_cases isKind : state.stream.next.kind = kind
  · refine affords_bind_of_ok (expectNext_of_eq isKind) (whenFound isKind ?_)
    exact State.account_advance_lt_of_next (isKind ▸ isToken)
  · apply affords_bind_of_ok (expectNext_of_ne isKind)
    have told := State.account_told (.unexpected kind state.stream.next.kind) state
    exact affords_of_ok rfl (by omega)

theorem affords_advanceTo {kind : TokenKind} (within : state.account ≤ budget + 1) :
    Affords budget (advanceTo kind) state := by
  by_cases isKind : state.stream.next.kind = kind
  · exact affords_of_ok (advanceTo_of_eq isKind) (Nat.le_trans state.account_advance_le within)
  · exact affords_of_ok (advanceTo_of_ne isKind) within

end Sequences

section Loops

variable {turn : β → ParseM (Turn β α)} {carried : β}

/-- A loop affords what each of its turns affords, under an invariant of the turns. -/
theorem affords_repeatTurns (taking : Taking turn) (invariant : State → Prop)
    (turnAffords : ∀ carried state, invariant state → Affords budget (turn carried) state)
    (again : ∀ carried state following after, invariant state →
      turn carried state = .ok (.again following) after → invariant after)
    (holds : invariant state) : Affords budget (repeatTurns turn carried) state := by
  apply repeatTurns_induction taking (fun _ => invariant) (Affordable budget) again ?done ?failed
    holds
  case done =>
    intro carried state result after holds ran
    exact (turnAffords carried state holds).account_le ran
  case failed =>
    intro carried state reason after holds ran
    exact (turnAffords carried state holds).account_le_of_error ran

/-- The account of one turn's end is enough for the next turn. -/
theorem affords_repeatTurns_of_le (taking : Taking turn)
    (turnAffords : ∀ carried state, state.account ≤ budget + 1 →
      Affords budget (turn carried) state)
    (within : state.account ≤ budget + 1) : Affords budget (repeatTurns turn carried) state := by
  apply affords_repeatTurns taking (fun state => state.account ≤ budget + 1) turnAffords ?_ within
  intro carried state following after within ran
  exact (turnAffords carried state within).account_le ran

end Loops

/-! ### Statements -/

/-- A reader of expressions keeps to the account with which it begins. -/
def Thrifty (reader : ExpressionReader) : Prop :=
  ∀ ⦃budget : Nat⦄ ⦃level : Precedence⦄ ⦃state : State⦄, state.account ≤ budget →
    Affords budget (reader level) state

variable {reader : ExpressionReader}

section Reading

variable (thrifty : Thrifty reader)
include thrifty

theorem affords_closingExpression (within : state.account ≤ budget) :
    Affords budget (closingExpression reader) state := by
  apply (thrifty within).bind (Nat.le_refl _)
  intro value after left
  exact (affords_advanceTo left).bind_pure

theorem affords_letStatement (within : state.account ≤ budget) :
    Affords budget (letStatement reader) state := by
  apply affords_bind_of_ok (current_run state)
  apply affords_whenNext (by decide) within
  intro _ taken
  apply affords_bind_of_ok (identifier_run _)
  apply affords_whenNext (by decide) (by omega)
  intro _ alsoTaken
  apply affords_bind_of_ok (advance_run _)
  have left : state.advance.advance.advance.account ≤ budget := by
    have alsoLeft := state.advance.advance.account_advance_le
    omega
  exact (affords_closingExpression thrifty left).bind_pure

theorem affords_returnStatement (within : state.account ≤ budget) :
    Affords budget (returnStatement reader) state := by
  apply affords_bind_of_ok (current_run state)
  apply affords_bind_of_ok (advance_run state)
  have left := Nat.le_trans state.account_advance_le within
  exact (affords_closingExpression thrifty left).bind_pure

theorem affords_expressionStatement (within : state.account ≤ budget) :
    Affords budget (expressionStatement reader) state := by
  apply affords_bind_of_ok (current_run state)
  exact (affords_closingExpression thrifty within).bind_pure

theorem affords_statement (within : state.account ≤ budget) :
    Affords budget (statement reader) state := by
  apply affords_bind_of_ok (current_run state)
  split
  · exact affords_letStatement thrifty within
  · exact affords_returnStatement thrifty within
  · exact affords_expressionStatement thrifty within

/-! ### Operands and groups -/

theorem affords_unary (within : state.account ≤ budget) :
    Affords budget (unary reader) state := by
  apply affords_bind_of_ok (current_run state)
  apply affords_bind_of_ok (advance_run state)
  exact (thrifty (Nat.le_trans state.account_advance_le within)).bind_pure

theorem affords_group (unfinished : state.stream.current.kind ≠ .endOfInput)
    (within : state.account ≤ budget) : Affords budget (group reader) state := by
  have taken := State.account_advance_lt unfinished
  apply affords_bind_of_ok (advance_run state)
  apply (thrifty (Nat.le_refl _)).bind (by omega)
  intro inside after left
  exact affords_whenNext (by decide) (by omega) fun _ taken => affords_of_ok rfl (by omega)

end Reading

/-! ### Parameters -/

/-- A name, or the end of the list, is missing only once. -/
theorem affords_otherParameters {names : List Node} (within : state.account ≤ budget) :
    Affords budget (repeatTurns parameterTurn names) state := by
  apply affords_repeatTurns taking_parameterTurn (fun state => state.account ≤ budget) ?_ ?_ within
  · intro names state within
    apply affords_bind_of_ok (next_run state)
    split
    · have left := state.account_advance_le
      apply affords_bind_of_ok (advance_run state)
      apply affords_whenNext (by decide) (by omega)
      intro _ taken
      exact affords_bind_of_ok (identifier_run _) (affords_of_ok rfl (by omega))
    · exact affords_whenNext (by decide) within fun _ taken => affords_of_ok rfl (by omega)
  · intro names state following after within ran
    obtain ⟨comma, isName⟩ := comma_of_parameterTurn ran
    rw [parameterTurn_of_comma comma isName] at ran
    cases ran
    have left := state.account_advance_le
    have alsoLeft := state.advance.account_advance_le
    omega

theorem affords_parameters (within : state.account ≤ budget) : Affords budget parameters state := by
  apply affords_bind_of_ok (next_run state)
  split
  · have left := state.account_advance_le
    exact affords_bind_of_ok (advance_run state) (affords_of_ok rfl (by omega))
  · apply affords_whenNext (by decide) within
    intro _ taken
    exact affords_bind_of_ok (identifier_run _) (affords_otherParameters (by omega))

/-! ### Blocks -/

/-- Between two statements the account is within a budget, except that at the end of the input
one report may still be unpaid. -/
def Settled (budget : Nat) (state : State) : Prop :=
  state.account ≤ budget ∨ state.stream.upcoming = [] ∧ state.account ≤ budget + 1

theorem Settled.account_le (settled : Settled budget state) : state.account ≤ budget + 1 := by
  rcases settled with within | ⟨-, within⟩
  · exact Nat.le_succ_of_le within
  · exact within

theorem Settled.account_le_of_ne (settled : Settled budget state)
    (unfinished : state.stream.current.kind ≠ .endOfInput) : state.account ≤ budget := by
  rcases settled with within | ⟨ended, -⟩
  · exact within
  · have ahead := TokenStream.upcoming_eq_cons unfinished
    rw [ended] at ahead
    cases ahead

/-- The token taken behind a statement pays for the report that it may have left. -/
theorem settled_advance (left : state.account ≤ budget + 1) : Settled budget state.advance := by
  cases ahead : state.stream.upcoming with
  | nil =>
      refine Or.inr ⟨?_, Nat.le_trans state.account_advance_le left⟩
      show state.stream.upcoming.tail = []
      rw [ahead]
      rfl
  | cons token others =>
      have taken : state.advance.stream.remaining + 1 = state.stream.remaining := by
        unfold TokenStream.remaining
        rw [ahead]
        exact congrArg (fun tokens => tokens.tail.length + 1) ahead
      unfold State.account at left
      apply Or.inl
      show state.log.length + _ ≤ budget
      omega

section Expressions

variable (thrifty : Thrifty reader) {allowed : Diagnostic → Prop}
  (advances : ∀ level state, Advances allowed (reader level) state)
include thrifty advances

/-- The end of the input inside a block is reported once more. -/
theorem affords_statements {token : Token} {statements : List Node} (settled : Settled fewer state)
    (atMost : fewer < budget) :
    Affords budget (repeatTurns (blockTurn reader token) statements) state := by
  apply affords_repeatTurns (taking_blockTurn advances token) (Settled fewer) ?_ ?_ settled
  · intro statements state settled
    have left := settled.account_le
    by_cases isBrace : state.stream.current.kind = .rightBrace
    · exact affords_of_ok (blockTurn_of_brace isBrace) (by omega)
    by_cases ended : state.stream.current.kind = .endOfInput
    · have told := State.account_told .unclosedBlock state
      exact affords_of_ok (blockTurn_of_ended ended) (by omega)
    · have within := settled.account_le_of_ne ended
      refine Affords.of_eq ?_ (blockTurn_of_statement isBrace ended)
      apply (affords_statement thrifty within).bind (Nat.le_of_lt atMost)
      intro _ after left
      have alsoLeft := after.account_advance_le
      exact affords_bind_of_ok (advance_run after) (affords_of_ok rfl (by omega))
  · intro statements state following after settled ran
    obtain ⟨unfinished, _, between, readStatement, -, rfl⟩ := exists_statement_of_blockTurn ran
    have within := settled.account_le_of_ne unfinished
    exact settled_advance ((affords_statement thrifty within).account_le readStatement)

/-- The opening brace of a block pays for the report that the block is not closed. -/
theorem affords_block (isBrace : state.stream.current.kind = .leftBrace)
    (within : state.account ≤ budget) : Affords budget (block reader) state := by
  apply affords_bind_of_ok (current_run state)
  apply affords_bind_of_ok (advance_run state)
  have taken : state.advance.account < state.account := State.account_advance_lt (by simp [isBrace])
  exact affords_statements thrifty advances (Or.inl (Nat.le_refl _)) (by omega)

/-! ### Calls, conditionals and functions -/

/-- The comma in front of an argument pays for what the argument before it has left. -/
theorem affords_otherArguments {collected : List (Option Node)} (left : state.account ≤ budget + 1) :
    Affords budget (repeatTurns (argumentTurn reader) collected) state := by
  apply affords_repeatTurns_of_le (taking_argumentTurn advances) ?_ left
  intro collected state left
  by_cases comma : state.stream.next.kind = .comma
  · have taken : state.advance.account < state.account :=
      State.account_advance_lt_of_next (by simp [comma])
    have alsoLeft := state.advance.account_advance_le
    refine Affords.of_eq ?_ (argumentTurn_of_comma comma)
    exact (thrifty (by omega)).bind_pure
  · exact affords_of_ok (argumentTurn_of_ne comma) left

theorem affords_arguments (unfinished : state.stream.current.kind ≠ .endOfInput)
    (within : state.account ≤ budget) : Affords budget (arguments reader) state := by
  apply affords_bind_of_ok (next_run state)
  have taken := State.account_advance_lt unfinished
  split
  · exact affords_bind_of_ok (advance_run state) (affords_of_ok rfl (by omega))
  apply affords_bind_of_ok (advance_run state)
  apply (thrifty (Nat.le_refl _)).bind (by omega)
  intro first after left
  apply (affords_otherArguments thrifty advances left).bind (by omega)
  intro all after left
  exact affords_whenNext (by decide) (by omega) fun _ taken => affords_of_ok rfl (by omega)

theorem affords_continuationRule (rule : ContinuationRule) (left : Option Node)
    (unfinished : state.stream.current.kind ≠ .endOfInput) (within : state.account ≤ budget) :
    Affords budget (rule.read reader left) state := by
  cases rule with
  | binary =>
      have taken := State.account_advance_lt unfinished
      apply affords_bind_of_ok (current_run state)
      apply affords_bind_of_ok (advance_run state)
      apply (thrifty (by omega)).bind (Nat.le_refl _)
      intro right after left
      split <;> exact affords_of_ok rfl left
  | call =>
      apply affords_bind_of_ok (current_run state)
      apply (affords_arguments thrifty advances unfinished within).bind (Nat.le_refl _)
      intro read after left
      split <;> exact affords_of_ok rfl left

/-- The word in front of an alternative, like its brace, pays for what is left of the first
block. -/
theorem affords_alternative (left : state.account ≤ budget + 1) :
    Affords budget (alternative reader) state := by
  apply affords_bind_of_ok (next_run state)
  split
  next isElse =>
    have taken : state.advance.account < state.account :=
      State.account_advance_lt_of_next (by simp [isElse])
    apply affords_bind_of_ok (advance_run state)
    apply affords_whenNext (by decide) (by omega)
    intro isBrace alsoTaken
    exact (affords_block thrifty advances isBrace (by omega)).bind_pure
  next => exact affords_of_ok rfl left

theorem affords_conditional (within : state.account ≤ budget) :
    Affords budget (conditional reader) state := by
  apply affords_bind_of_ok (current_run state)
  apply affords_whenNext (by decide) within
  intro _ taken
  apply affords_bind_of_ok (advance_run _)
  have left := state.advance.account_advance_le
  apply (thrifty (Nat.le_refl _)).bind (by omega)
  intro condition after left
  apply affords_whenNext (by decide) (by omega)
  intro _ taken
  apply affords_whenNext (by decide) (by omega)
  intro isBrace alsoTaken
  apply (affords_block thrifty advances isBrace (by omega)).bind (Nat.le_refl _)
  intro consequence after left
  apply (affords_alternative thrifty advances left).bind (Nat.le_refl _)
  intro otherwise after left
  split <;> exact affords_of_ok rfl left

theorem affords_function (within : state.account ≤ budget) :
    Affords budget (function reader) state := by
  apply affords_bind_of_ok (current_run state)
  apply affords_whenNext (by decide) within
  intro _ taken
  apply (affords_parameters (Nat.le_refl _)).bind (by omega)
  intro names after left
  cases names with
  | none => exact affords_of_ok rfl (by omega)
  | some names =>
      apply affords_whenNext (by decide) (by omega)
      intro isBrace taken
      exact (affords_block thrifty advances isBrace (by omega)).bind_pure

theorem affords_openingRule {kind : TokenKind} {rule : OpeningRule} (opens : Rules.Opens kind rule)
    (isCurrent : state.stream.current.kind = kind) (within : state.account ≤ budget) :
    Affords budget (rule.read reader) state := by
  cases opens with
  | identifier =>
      exact affords_bind_of_ok (identifier_run state) (affords_of_ok rfl (by omega))
  | integer =>
      apply affords_bind_of_ok (current_run state)
      have told := State.account_told (.integerOutOfRange state.stream.current.literal) state
      split
      · exact affords_of_ok rfl (by omega)
      · exact affords_bind_of_ok (report_run _ state) (affords_of_ok rfl (by omega))
      · exact within
  | boolean => exact affords_of_ok rfl (Nat.le_succ_of_le within)
  | unary => exact affords_unary thrifty within
  | group => exact affords_group thrifty (by simp [isCurrent]) within
  | conditional => exact affords_conditional thrifty advances within
  | function => exact affords_function thrifty advances within

/-- An operator, like the parenthesis of a call, pays for what the expression in front of it has
left. -/
theorem affords_continuations {rules : Rules} {level : Precedence} {left : Option Node}
    (leaves : state.account ≤ budget + 1) :
    Affords budget (repeatTurns (rules.continuationTurn reader level) left) state := by
  apply affords_repeatTurns_of_le (taking_continuationTurn advances rules level) ?_ leaves
  intro left state leaves
  apply affords_bind_of_ok (next_run state)
  split
  next tighter =>
    split
    · exact affords_of_ok rfl leaves
    next rule found =>
      have unfinished := next_ne_endOfInput_of_lt tighter
      have taken := State.account_advance_lt_of_next unfinished
      apply affords_bind_of_ok (advance_run state)
      have affords : Affords budget (rule.read reader left) state.advance :=
        affords_continuationRule thrifty advances rule left unfinished (by omega)
      exact affords.bind_pure
  next => exact affords_of_ok rfl leaves

theorem affords_expressionBy {rules : Rules} (regular : rules.Regular) (level : Precedence)
    (within : state.account ≤ budget) : Affords budget (rules.expressionBy reader level) state := by
  apply affords_bind_of_ok (current_run state)
  split
  · have told := State.account_told (.startsNoExpression state.stream.current.kind) state
    exact affords_bind_of_ok (report_run _ state) (affords_of_ok rfl (by omega))
  next rule found =>
    have affords : Affords budget (rule.read reader) state :=
      affords_openingRule thrifty advances (regular _ rule found) rfl within
    exact affords.bind (Nat.le_refl _) fun _ _ leaves =>
      affords_continuations thrifty advances leaves

end Expressions

theorem thrifty_expression (levels : Nat) : Thrifty (Rules.standard.expression levels) := by
  induction levels with
  | zero => exact fun _ _ _ within => within
  | succ levels inductionHypothesis =>
      exact fun _ level _ within => affords_expressionBy inductionHypothesis
        (proceeds_expression levels) Rules.regular_standard level within

/-! ### Programs -/

/-- A parse keeps to the number of its tokens. It ends at the end of the input, without a report
that an expression is nested too deeply, or with this report. -/
theorem ending_of_program {levels : Nat} {stream : TokenStream} {statements : List Node}
    (ran : program (Rules.standard.expression levels) (.start stream) = .ok statements after) :
    after.account ≤ stream.remaining + 1 ∧
      (State.Leads Diagnostic.Ordinary (.start stream) after ∧
          after.stream.current.kind = .endOfInput ∨
        ∃ between, State.Leads Diagnostic.Ordinary (.start stream) between ∧
          after = between.told .nestedTooDeeply) := by
  have begins : (State.start stream).account = stream.remaining := Nat.zero_add _
  apply repeatTurns_ok_induction (taking_programTurn (proceeds_expression levels))
    (fun _ state => State.Leads Diagnostic.Ordinary (.start stream) state ∧
      Settled stream.remaining state) _ ?again ?done
    ⟨.refl, Or.inl (Nat.le_of_eq begins)⟩ ran
  case again =>
    rintro carried state following _ ⟨leads, settled⟩ turned
    obtain ⟨unfinished, _, between, readStatement, -, rfl⟩ := exists_statement_of_again turned
    have within := settled.account_le_of_ne unfinished
    have reads := (proceeds_statement levels state).leads readStatement
    have affords := affords_statement (thrifty_expression levels) within
    exact ⟨(leads.trans reads).tail (.advance between),
      settled_advance (affords.account_le readStatement)⟩
  case done =>
    rintro carried state result _ ⟨leads, settled⟩ turned
    obtain ⟨-, ⟨ended, rfl⟩ | ⟨unfinished, between, tooDeep, rfl⟩⟩ :=
      ended_or_tooDeep_of_done turned
    · exact ⟨settled.account_le, Or.inl ⟨leads, ended⟩⟩
    · have within := settled.account_le_of_ne unfinished
      have reads := (proceeds_statement levels state).leads_error tooDeep
      have affords := affords_statement (thrifty_expression levels) within
      -- An abandoned statement has kept to its budget, so this report is the one left to pay for.
      rw [State.account_told]
      exact ⟨Nat.succ_le_succ (affords.account_le_of_error tooDeep),
        Or.inr ⟨between, leads.trans reads, rfl⟩⟩

end Parser

/-- A parse has at most as many errors as its text has tokens, the end of the input counted.
That an expression is nested too deeply can only be the last of them, and without it the parse
has taken every token. -/
theorem errors_parse_le_tokenize (source : String) :
    ∃ statements after,
      Parser.program (Parser.Rules.standard.reader nestingLimit) (.start (.ofString source)) =
        .ok statements after ∧
      parse source = ⟨statements, after.reports, none⟩ ∧
      (parse source).errors.length ≤ (tokenize source).length ∧
      "expression nested too deeply" ∉ (parse source).errors.dropLast ∧
      ("expression nested too deeply" ∉ (parse source).errors →
        after.stream.current.kind = .endOfInput ∧ after.stream.upcoming = []) := by
  obtain ⟨statements, after, ran, isParse⟩ := parseWith_eq nestingLimit source
  have counts := Parser.program_reader .standard nestingLimit (.ofString source)
  rw [ran] at counts
  refine ⟨statements, after.atDepth 0, counts, isParse, ?_⟩
  have sameParse : parse source = ⟨statements, after.reports, none⟩ := isParse
  have isErrors : (parse source).errors = after.errors := by
    rw [sameParse]
    rfl
  obtain ⟨within, ending⟩ := Parser.ending_of_program ran
  have isLength : after.errors.length ≤ (tokenize source).length := by
    unfold Parser.State.errors Parser.State.reports tokenize TokenStream.toList
    rw [List.length_map, List.length_reverse, List.length_append]
    exact Nat.le_trans (Nat.le_add_right _ _) within
  rw [isErrors]
  refine ⟨isLength, ?_⟩
  rcases ending with ⟨leads, ended⟩ | ⟨between, leads, rfl⟩
  · have lexed := (TokenStream.lexed_ofString source).of_suffix leads.upcoming_suffix
    have absent := Parser.not_mem_errors leads
    exact ⟨fun listed => absent ((List.dropLast_subset _) listed),
      fun _ => ⟨ended, Parser.upcoming_eq_nil lexed ended⟩⟩
  · rw [Parser.errors_told, List.dropLast_concat]
    exact ⟨Parser.not_mem_errors leads,
      fun absent => absurd (List.mem_append_right _ List.mem_cons_self) absent⟩

/-- A run of opening parentheses has as many errors as tokens. -/
theorem errors_parse_le_tokenize_groups :
    (parse "(((").errors.length = (tokenize "(((").length ∧
      "expression nested too deeply" ∉ (parse "(((").errors ∧
      ∃ statements after,
        Parser.program (Parser.Rules.standard.reader nestingLimit) (.start (.ofString "(((")) =
          .ok statements after ∧
        parse "(((" = ⟨statements, after.reports, none⟩ ∧
        after.stream.current.kind = .endOfInput ∧ after.stream.upcoming = [] := by
  have meets : (parse "(((").errors.length = (tokenize "(((").length := by decide +kernel
  have notTooDeep : "expression nested too deeply" ∉ (parse "(((").errors := by decide +kernel
  obtain ⟨statements, after, ran, isParse, -, -, ends⟩ := errors_parse_le_tokenize "((("
  exact ⟨meets, notTooDeep, statements, after, ran, isParse, ends notTooDeep⟩

end MonkeySyntax
