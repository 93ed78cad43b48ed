import MonkeySyntax.Proofs.Parser.AnyRules

/-!
Contract: the rules of the language, run beside rules from which some were taken away.

Owns:
- which tables come about by taking rules away, and which reports those are to blame for;
- what it means that a run mirrors another one: the two are the same up to the first use of a
  rule that was taken away, and from there on the run either has reported that, or stands in
  front of an operator that it no longer knows and has reported nothing since;
- that sequences and loops inherit this, and every construct. Groups, argument lists,
  conditions and blocks require a token behind an expression, and turn the unknown operator
  into a report.

Does not own: the parse of a whole text.
-/

set_option autoImplicit false

namespace MonkeySyntax

namespace Parser

/-! ### Tables with rules taken away -/

namespace Rules

variable {rules : Rules} {kind : TokenKind}

/-- A kind starts an expression of the language, but not by the table. -/
def LosesOpening (rules : Rules) (kind : TokenKind) : Prop :=
  standard.opening kind ≠ none ∧ rules.opening kind = none

/-- A kind continues an expression of the language, but not by the table. -/
def LosesContinuation (rules : Rules) (kind : TokenKind) : Prop :=
  standard.continuation kind ≠ none ∧ rules.continuation kind = none

/-- The table is the one of the language without some rules. The operators that are gone are
none that start an expression, too. -/
structure Reduced (rules : Rules) : Prop where
  opening : ∀ kind, rules.opening kind = standard.opening kind ∨ rules.LosesOpening kind
  continuation : ∀ kind,
    rules.continuation kind = standard.continuation kind ∨ rules.LosesContinuation kind
  startsNone : ∀ kind, rules.LosesContinuation kind → standard.opening kind = none

/-- The causes that come from a rule that is gone. -/
def Blames (rules : Rules) : Diagnostic → Prop
  | .startsNoExpression kind => rules.LosesOpening kind ∨ rules.LosesContinuation kind
  | .unexpected required kind => required = .rightParen ∧ rules.LosesContinuation kind
  | _ => False

theorem Reduced.regular (reduced : rules.Reduced) : rules.Regular := by
  intro kind rule found
  rcases reduced.opening kind with same | lost
  · exact opens_of_opening (same ▸ found)
  · rw [lost.2] at found
    cases found

theorem Reduced.opening_eq_none (reduced : rules.Reduced) (lost : rules.LosesContinuation kind) :
    rules.opening kind = none := by
  rcases reduced.opening kind with same | lostToo
  · rw [same, reduced.startsNone kind lost]
  · exact lostToo.2

/-- The kinds that end a construct, and those of the words that start a statement. -/
def boundaries : List TokenKind :=
  [.rightParen, .comma, .semicolon, .rightBrace, .endOfInput, .letWord, .returnWord]

/-- An operator that is gone ends nothing, and starts no statement. -/
theorem Reduced.ne (reduced : rules.Reduced) (lost : rules.LosesContinuation kind)
    {boundary : TokenKind} (listed : boundary ∈ boundaries) : kind ≠ boundary := by
  have all : ∀ kind ∈ TokenKind.all, standard.continuation kind ≠ none →
      standard.opening kind = none → kind ∉ boundaries := by
    decide
  rintro rfl
  exact all kind kind.mem_all lost.1 (reduced.startsNone kind lost) listed

end Rules

/-! ### Runs that mirror another one -/

variable {α β : Type} {rules : Rules} {state : State} {log : List Report}

/-- A state in front of an operator that is gone. -/
def State.Halts (rules : Rules) (state : State) : Prop :=
  rules.LosesContinuation state.stream.next.kind

/-- A state at an operator that is gone. -/
def State.Stuck (rules : Rules) (state : State) : Prop :=
  rules.LosesContinuation state.stream.current.kind

/-- What has come of a run in which a rule was missed when so much was reported. -/
inductive Departed (rules : Rules) (stopped : α → State → Prop) (log : List Report) :
    EStateM.Result Abort State α → Prop where
  /-- The first report from then on is about that rule. -/
  | told {ended : EStateM.Result Abort State α} {report : Report}
      (blamed : rules.Blames report.diagnostic) (isFirst : report :: log <:+ (reached ended).log) :
      Departed rules stopped log ended
  /-- Nothing was reported from then on, and the run has stopped. -/
  | halted {answer : α} {after : State} (isLog : after.log = log)
      (isStopped : stopped answer after) : Departed rules stopped log (.ok answer after)

/-- The second run is the same as the first one, or it has departed from it. -/
structure Mirrors (rules : Rules) (stopped : α → State → Prop) (log : List Report)
    (ended ended' : EStateM.Result Abort State α) : Prop where
  grows : log <:+ (reached ended).log
  grows' : log <:+ (reached ended').log
  agrees : ended' = ended ∨
    ∃ earlier, earlier <:+ (reached ended).log ∧ Departed rules stopped earlier ended'

variable {stopped alsoStopped : α → State → Prop} {stoppedFirst : β → State → Prop}
  {allowed : Diagnostic → Prop}

theorem Departed.imp {ended : EStateM.Result Abort State α}
    (departed : Departed rules stopped log ended)
    (weaker : ∀ answer after, stopped answer after → alsoStopped answer after) :
    Departed rules alsoStopped log ended := by
  cases departed with
  | told blamed isFirst => exact .told blamed isFirst
  | halted isLog isStopped => exact .halted isLog (weaker _ _ isStopped)

theorem Mirrors.imp {ended ended' : EStateM.Result Abort State α}
    (mirrors : Mirrors rules stopped log ended ended')
    (weaker : ∀ answer after, stopped answer after → alsoStopped answer after) :
    Mirrors rules alsoStopped log ended ended' := by
  refine ⟨mirrors.grows, mirrors.grows', ?_⟩
  rcases mirrors.agrees with same | ⟨earlier, isEarlier, departed⟩
  · exact .inl same
  · exact .inr ⟨earlier, isEarlier, departed.imp weaker⟩

theorem departed_told {ended : EStateM.Result Abort State α} {diagnostic : Diagnostic}
    (blamed : rules.Blames diagnostic) (reachedTold : reached ended = state.told diagnostic) :
    Departed rules stopped state.log ended := by
  have isFirst : ⟨diagnostic, state.stream.current, state.stream.next⟩ :: state.log <:+
      (reached ended).log := by
    rw [reachedTold]
    exact List.suffix_refl _
  exact .told blamed isFirst

/-! ### Sequences -/

theorem log_suffix_bind {step : ParseM β} {following : β → ParseM α}
    (grows : log <:+ (reached (step state)).log)
    (growsLater : ∀ answer after, step state = .ok answer after →
      after.log <:+ (reached (following answer after)).log) :
    log <:+ (reached ((step >>= following) state)).log := by
  cases ran : step state with
  | error reason after =>
      rw [bind_of_error ran]
      rw [ran] at grows
      exact grows
  | ok answer after =>
      rw [bind_of_ok ran]
      rw [ran] at grows
      exact grows.trans (growsLater answer after ran)

theorem Departed.bind {step : ParseM β} {following : β → ParseM α}
    (departed : Departed rules stoppedFirst log (step state))
    (grows : ∀ answer after, step state = .ok answer after →
      after.log <:+ (reached (following answer after)).log)
    (halts : ∀ answer after, stoppedFirst answer after →
      Departed rules stopped after.log (following answer after)) :
    Departed rules stopped log ((step >>= following) state) := by
  cases ran : step state with
  | error reason after =>
      rw [ran] at departed
      rw [bind_of_error ran]
      cases departed with
      | told blamed isFirst => exact .told blamed isFirst
  | ok answer after =>
      rw [ran] at departed
      rw [bind_of_ok ran]
      cases departed with
      | told blamed isFirst => exact .told blamed (isFirst.trans (grows answer after ran))
      | halted isLog isStopped => exact isLog ▸ halts answer after isStopped

/-- A sequence is mirrored when its parts are, and when the second part takes up where the
first one has stopped. -/
theorem Mirrors.bind {step step' : ParseM β} {following following' : β → ParseM α}
    (mirrors : Mirrors rules stoppedFirst log (step state) (step' state))
    (later : ∀ answer after,
      Mirrors rules stopped after.log (following answer after) (following' answer after))
    (halts : ∀ answer after, stoppedFirst answer after →
      Departed rules stopped after.log (following' answer after)) :
    Mirrors rules stopped log ((step >>= following) state) ((step' >>= following') state) := by
  refine ⟨log_suffix_bind mirrors.grows fun answer after _ => (later answer after).grows,
    log_suffix_bind mirrors.grows' fun answer after _ => (later answer after).grows', ?_⟩
  rcases mirrors.agrees with same | ⟨earlier, isEarlier, departed⟩
  · cases ran : step state with
    | error reason after =>
        rw [ran] at same
        rw [bind_of_error ran, bind_of_error same]
        exact .inl rfl
    | ok answer after =>
        rw [ran] at same
        rw [bind_of_ok ran, bind_of_ok same]
        exact (later answer after).agrees
  · right
    refine ⟨earlier, log_suffix_bind isEarlier fun answer after _ => (later answer after).grows, ?_⟩
    exact departed.bind (fun answer after _ => (later answer after).grows') halts

theorem mirrors_of_advances {step : ParseM α} (advances : Advances allowed step state) :
    Mirrors rules stopped state.log (step state) (step state) :=
  ⟨State.Leads.log_suffix advances, State.Leads.log_suffix advances, .inl rfl⟩

theorem mirrors_pure (value : α) (state : State) :
    Mirrors rules stopped state.log ((pure value : ParseM α) state)
      ((pure value : ParseM α) state) :=
  mirrors_of_advances (compatible_proceeds.pure value state)

/-- A sequence that begins with a step of its own is mirrored when the rest is. -/
theorem mirrors_then {step : ParseM β} {following following' : β → ParseM α}
    (advances : Advances allowed step state)
    (later : ∀ answer after,
      Mirrors rules stopped after.log (following answer after) (following' answer after)) :
    Mirrors rules stopped state.log ((step >>= following) state) ((step >>= following') state) := by
  have mirrors : Mirrors rules (fun _ _ => False) state.log (step state) (step state) :=
    mirrors_of_advances advances
  exact mirrors.bind later fun _ _ => False.elim

/-- What is made of an answer is mirrored when the answer is. -/
theorem Mirrors.map {stopped : State → Prop} {step step' : ParseM β} {make : β → α}
    (mirrors : Mirrors rules (fun _ => stopped) log (step state) (step' state)) :
    Mirrors rules (fun _ => stopped) log ((step >>= fun answer => pure (make answer)) state)
      ((step' >>= fun answer => pure (make answer)) state) :=
  mirrors.bind (fun answer after => mirrors_pure (make answer) after)
    fun _ _ isStopped => .halted rfl isStopped

theorem mirrors_ite {test : Prop} [Decidable test] {yes yes' no no' : ParseM α}
    (whenTrue : Mirrors rules stopped log (yes state) (yes' state))
    (whenFalse : Mirrors rules stopped log (no state) (no' state)) :
    Mirrors rules stopped log ((if test then yes else no) state)
      ((if test then yes' else no') state) := by
  by_cases holds : test
  · rw [if_pos holds, if_pos holds]
    exact whenTrue
  · rw [if_neg holds, if_neg holds]
    exact whenFalse

theorem mirrors_whenNext {kind : TokenKind} {found found' : ParseM α} {missed : α} (state : State)
    (later : ∀ after, Mirrors rules stopped after.log (found after) (found' after)) :
    Mirrors rules stopped state.log
      ((expectNext kind >>= fun isFound => if isFound = true then found else pure missed) state)
      ((expectNext kind >>= fun isFound => if isFound = true then found' else pure missed)
        state) :=
  mirrors_then (compatible_proceeds.expectNext kind state) fun _ after =>
    mirrors_ite (later after) (mirrors_pure missed after)

/-- Where a closing parenthesis is required, an operator that is gone is reported. -/
theorem departed_whenNext {found : ParseM α} {missed : α} (reduced : rules.Reduced)
    (halts : state.Halts rules) :
    Departed rules stopped state.log
      ((expectNext .rightParen >>= fun isFound => if isFound = true then found else pure missed)
        state) := by
  have blamed : rules.Blames (.unexpected .rightParen state.stream.next.kind) := ⟨rfl, halts⟩
  rw [bind_of_ok (expectNext_of_ne (reduced.ne halts (by decide)))]
  exact departed_told blamed rfl

/-! ### Loops -/

/-- A turn that leads to another one stops at an operator that is gone. -/
def Turn.Stuck (rules : Rules) : Turn β α → State → Prop
  | .again _, state => state.Stuck rules
  | .done _, _ => False

section Loops

variable {turn turn' : β → ParseM (Turn β α)} {stoppedTurn : Turn β α → State → Prop}

theorem log_suffix_repeatTurns (taking : Taking turn)
    (grows : ∀ carried state, state.log <:+ (reached (turn carried state)).log) (carried : β)
    (state : State) : state.log <:+ (reached (repeatTurns turn carried state)).log := by
  apply repeatTurns_recursion taking
    (motive := fun _ state ended => state.log <:+ (reached ended).log)
  case again =>
    intro carried state following after turned growsLater
    have grown := grows carried state
    rw [turned] at grown
    exact grown.trans growsLater
  case done =>
    intro carried state result after turned
    have grown := grows carried state
    rwa [turned] at grown
  case error =>
    intro carried state reason after turned
    have grown := grows carried state
    rwa [turned] at grown

variable (taking' : Taking turn')
  (grows' : ∀ carried state, state.log <:+ (reached (turn' carried state)).log)
  (again : ∀ following after, stoppedTurn (.again following) after →
    Departed rules stoppedTurn after.log (turn' following after))
  (done : ∀ result after, stoppedTurn (.done result) after → stopped result after)
include taking' grows' again done

/-- A loop departs with one of its turns, as long as the turns behind it depart too. -/
theorem departed_repeatTurns {carried : β}
    (departed : Departed rules stoppedTurn log (turn' carried state)) :
    Departed rules stopped log (repeatTurns turn' carried state) := by
  revert log
  apply repeatTurns_recursion taking'
    (motive := fun carried state ended => ∀ {log},
      Departed rules stoppedTurn log (turn' carried state) → Departed rules stopped log ended)
  case again =>
    intro carried state following after turned later log departed
    rw [turned] at departed
    cases departed with
    | told blamed isFirst =>
        exact .told blamed (isFirst.trans (log_suffix_repeatTurns taking' grows' following after))
    | halted isLog isStopped => exact isLog ▸ later (again following after isStopped)
  case done =>
    intro carried state result after turned log departed
    rw [turned] at departed
    cases departed with
    | told blamed isFirst => exact .told blamed isFirst
    | halted isLog isStopped => exact .halted isLog (done result after isStopped)
  case error =>
    intro carried state reason after turned log departed
    rw [turned] at departed
    cases departed with
    | told blamed isFirst => exact .told blamed isFirst

omit grows' in
theorem mirrors_repeatTurns (taking : Taking turn)
    (mirrors : ∀ carried state,
      Mirrors rules stoppedTurn state.log (turn carried state) (turn' carried state))
    (carried : β) (state : State) :
    Mirrors rules stopped state.log (repeatTurns turn carried state)
      (repeatTurns turn' carried state) := by
  have grows := log_suffix_repeatTurns taking fun carried state => (mirrors carried state).grows
  have growsTurn' := fun carried state => (mirrors carried state).grows'
  have departs : ∀ {carried state log}, Departed rules stoppedTurn log (turn' carried state) →
      Departed rules stopped log (repeatTurns turn' carried state) :=
    departed_repeatTurns taking' growsTurn' again done
  refine ⟨grows carried state, log_suffix_repeatTurns taking' growsTurn' carried state, ?_⟩
  -- The recursion is over the first loop. The second one keeps pace until it departs.
  apply repeatTurns_recursion taking
    (motive := fun carried state ended => repeatTurns turn' carried state = ended ∨
      ∃ earlier, earlier <:+ (reached ended).log ∧
        Departed rules stopped earlier (repeatTurns turn' carried state))
  case again =>
    intro carried state following after turned later
    have agrees := (mirrors carried state).agrees
    rw [turned] at agrees
    rcases agrees with same | ⟨earlier, isEarlier, departed⟩
    · rw [repeatTurns_again taking' same]
      exact later
    · exact .inr ⟨earlier, isEarlier.trans (grows following after), departs departed⟩
  case done =>
    intro carried state result after turned
    have agrees := (mirrors carried state).agrees
    rw [turned] at agrees
    rcases agrees with same | ⟨earlier, isEarlier, departed⟩
    · exact .inl (repeatTurns_done same)
    · exact .inr ⟨earlier, isEarlier, departs departed⟩
  case error =>
    intro carried state reason after turned
    have agrees := (mirrors carried state).agrees
    rw [turned] at agrees
    rcases agrees with same | ⟨earlier, isEarlier, departed⟩
    · exact .inl (repeatTurns_error same)
    · exact .inr ⟨earlier, isEarlier, departs departed⟩

end Loops

/-! ### Statements -/

/-- A reader of expressions mirrors another one, stops in front of operators that are gone, and
reports those that it starts at. -/
structure Mirroring (rules : Rules) (reader reader' : ExpressionReader) : Prop where
  advances : ∀ level state, Advances (fun _ => True) (reader level) state
  advances' : ∀ level state, Advances (fun _ => True) (reader' level) state
  mirrors : ∀ level state, Mirrors rules (fun _ => State.Halts rules) state.log
    (reader level state) (reader' level state)
  refuses : ∀ state, state.Stuck rules →
    Departed rules (fun _ _ => False) state.log (reader' .lowest state)

section Rules

variable {reader reader' : ExpressionReader} (reduced : rules.Reduced)
  (mirroring : Mirroring rules reader reader')
include reduced mirroring

theorem mirrors_closingExpression (state : State) :
    Mirrors rules (fun _ => State.Halts rules) state.log (closingExpression reader state)
      (closingExpression reader' state) := by
  unfold closingExpression
  refine (mirroring.mirrors .lowest state).bind (fun value after => ?_) fun value after halts => ?_
  · exact mirrors_then (compatible_proceeds.advanceTo _ after) fun _ => mirrors_pure value
  · rw [bind_of_ok (advanceTo_of_ne (reduced.ne halts (by decide)))]
    exact .halted rfl halts

theorem mirrors_letStatement (state : State) :
    Mirrors rules (fun _ => State.Halts rules) state.log (letStatement reader state)
      (letStatement reader' state) := by
  unfold letStatement
  refine mirrors_then (compatible_proceeds.current state) fun token after => ?_
  refine mirrors_whenNext after fun after => ?_
  refine mirrors_then (compatible_proceeds.identifier after) fun name after => ?_
  refine mirrors_whenNext after fun after => ?_
  refine mirrors_then (compatible_proceeds.advance after) fun _ after => ?_
  exact (mirrors_closingExpression reduced mirroring after).map

theorem mirrors_returnStatement (state : State) :
    Mirrors rules (fun _ => State.Halts rules) state.log (returnStatement reader state)
      (returnStatement reader' state) := by
  unfold returnStatement
  refine mirrors_then (compatible_proceeds.current state) fun token after => ?_
  refine mirrors_then (compatible_proceeds.advance after) fun _ after => ?_
  exact (mirrors_closingExpression reduced mirroring after).map

theorem mirrors_expressionStatement (state : State) :
    Mirrors rules (fun _ => State.Halts rules) state.log (expressionStatement reader state)
      (expressionStatement reader' state) := by
  unfold expressionStatement
  refine mirrors_then (compatible_proceeds.current state) fun token after => ?_
  exact (mirrors_closingExpression reduced mirroring after).map

theorem mirrors_statement (state : State) :
    Mirrors rules (fun _ => State.Halts rules) state.log (statement reader state)
      (statement reader' state) := by
  rw [statement_run, statement_run]
  by_cases isLet : state.stream.current.kind = .letWord
  · rw [if_pos isLet, if_pos isLet]
    exact mirrors_letStatement reduced mirroring state
  by_cases isReturn : state.stream.current.kind = .returnWord
  · rw [if_neg isLet, if_neg isLet, if_pos isReturn, if_pos isReturn]
    exact mirrors_returnStatement reduced mirroring state
  · rw [if_neg isLet, if_neg isLet, if_neg isReturn, if_neg isReturn]
    exact mirrors_expressionStatement reduced mirroring state

/-- No statement starts with an operator that is gone. -/
theorem departed_statement (stuck : state.Stuck rules) :
    Departed rules (fun _ _ => False) state.log (statement reader' state) := by
  have notLet : state.stream.current.kind ≠ .letWord := reduced.ne stuck (by decide)
  have notReturn : state.stream.current.kind ≠ .returnWord := reduced.ne stuck (by decide)
  have departedClosing : Departed rules (fun _ _ => False) state.log
      (closingExpression reader' state) := by
    refine (mirroring.refuses state stuck).bind (fun value after _ => ?_) fun _ _ => False.elim
    exact State.Leads.log_suffix
      ((compatible_proceeds.advanceTo .semicolon after).bind fun _ _ _ => .refl)
  rw [statement_run, if_neg notLet, if_neg notReturn]
  unfold expressionStatement
  rw [bind_of_ok (current_run state)]
  exact departedClosing.bind (fun _ _ _ => List.suffix_refl _) fun _ _ => False.elim

theorem mirrors_blockTurn (token : Token) (read : List Node) (state : State) :
    Mirrors rules (Turn.Stuck rules) state.log (blockTurn reader token read state)
      (blockTurn reader' token read state) := by
  unfold blockTurn
  refine mirrors_then (compatible_proceeds.current state) fun ahead after => ?_
  refine mirrors_ite (mirrors_pure _ after) (mirrors_ite ?_ ?_)
  · exact mirrors_then (compatible_proceeds.report after trivial) fun _ => mirrors_pure _
  · refine (mirrors_statement reduced mirroring after).bind (fun read after => ?_)
      fun _ _ halts => .halted rfl halts
    exact mirrors_then (compatible_proceeds.advance after) fun _ => mirrors_pure _

theorem departed_blockTurn {token : Token} {read : List Node} (stuck : state.Stuck rules) :
    Departed rules (Turn.Stuck rules) state.log (blockTurn reader' token read state) := by
  have notBrace : state.stream.current.kind ≠ .rightBrace := reduced.ne stuck (by decide)
  have unfinished : state.stream.current.kind ≠ .endOfInput := reduced.ne stuck (by decide)
  rw [blockTurn_of_statement notBrace unfinished]
  exact (departed_statement reduced mirroring stuck).bind (fun _ _ _ => List.suffix_refl _)
    fun _ _ => False.elim

/-- A block goes on to its brace or to a report. -/
theorem mirrors_block (state : State) :
    Mirrors rules (fun _ _ => False) state.log (block reader state) (block reader' state) := by
  unfold block
  refine mirrors_then (compatible_proceeds.current state) fun token after => ?_
  refine mirrors_then (compatible_proceeds.advance after) fun _ after => ?_
  exact mirrors_repeatTurns (taking_blockTurn mirroring.advances' token)
    (fun _ _ stuck => departed_blockTurn reduced mirroring stuck) (fun _ _ => False.elim)
    (taking_blockTurn mirroring.advances token) (mirrors_blockTurn reduced mirroring token) [] after

/-! ### Operators and groups -/

omit reduced in
theorem mirrors_unary (state : State) :
    Mirrors rules (fun _ => State.Halts rules) state.log (unary reader state)
      (unary reader' state) := by
  unfold unary
  refine mirrors_then (compatible_proceeds.current state) fun token after => ?_
  refine mirrors_then (compatible_proceeds.advance after) fun _ after => ?_
  exact (mirroring.mirrors .unary after).map

omit reduced in
theorem mirrors_binary (left : Option Node) (state : State) :
    Mirrors rules (fun _ => State.Halts rules) state.log (binary reader left state)
      (binary reader' left state) := by
  unfold binary
  refine mirrors_then (compatible_proceeds.current state) fun token after => ?_
  refine mirrors_then (compatible_proceeds.advance after) fun _ after => ?_
  refine (mirroring.mirrors _ after).bind (fun right after => ?_) fun right after halts => ?_
  · split <;> exact mirrors_pure _ after
  · split <;> exact .halted rfl halts

theorem mirrors_group (state : State) :
    Mirrors rules (fun _ _ => False) state.log (group reader state) (group reader' state) := by
  unfold group
  refine mirrors_then (compatible_proceeds.advance state) fun _ after => ?_
  exact (mirroring.mirrors .lowest after).bind
    (fun inside after => mirrors_whenNext after (mirrors_pure inside))
    fun _ _ halts => departed_whenNext reduced halts

/-! ### Calls -/

omit reduced in
theorem mirrors_argumentTurn (collected : List (Option Node)) (state : State) :
    Mirrors rules (fun _ => State.Halts rules) state.log (argumentTurn reader collected state)
      (argumentTurn reader' collected state) := by
  unfold argumentTurn
  refine mirrors_then (compatible_proceeds.next state) fun ahead after => ?_
  refine mirrors_ite ?_ (mirrors_pure _ after)
  refine mirrors_then (compatible_proceeds.advance after) fun _ after => ?_
  refine mirrors_then (compatible_proceeds.advance after) fun _ after => ?_
  exact (mirroring.mirrors .lowest after).map

omit mirroring in
/-- An argument list ends in front of an operator that is gone. -/
theorem argumentTurn_of_halts (collected : List (Option Node)) (halts : state.Halts rules) :
    argumentTurn reader' collected state = .ok (.done collected.reverse) state :=
  argumentTurn_of_ne (reduced.ne halts (by decide))

theorem mirrors_arguments (state : State) :
    Mirrors rules (fun _ _ => False) state.log (arguments reader state)
      (arguments reader' state) := by
  unfold arguments
  refine mirrors_then (compatible_proceeds.next state) fun ahead after => ?_
  refine mirrors_ite (mirrors_then (compatible_proceeds.advance after) fun _ => mirrors_pure _) ?_
  refine mirrors_then (compatible_proceeds.advance after) fun _ after => ?_
  refine (mirroring.mirrors .lowest after).bind (fun first after => ?_) fun first after halts => ?_
  · have loop : Mirrors rules (fun _ => State.Halts rules) after.log
        (repeatTurns (argumentTurn reader) [first] after)
        (repeatTurns (argumentTurn reader') [first] after) := by
      refine mirrors_repeatTurns (taking_argumentTurn mirroring.advances')
        (fun following after halts => ?_) (fun _ _ halts => halts)
        (taking_argumentTurn mirroring.advances) (mirrors_argumentTurn mirroring) [first] after
      rw [argumentTurn_of_halts reduced following halts]
      exact .halted rfl halts
    exact loop.bind (fun all after => mirrors_whenNext after (mirrors_pure (allPresent all)))
      fun _ _ halts => departed_whenNext reduced halts
  · rw [bind_of_ok (repeatTurns_done (argumentTurn_of_halts reduced [first] halts))]
    exact departed_whenNext reduced halts

theorem mirrors_call (callee : Option Node) (state : State) :
    Mirrors rules (fun _ _ => False) state.log (call reader callee state)
      (call reader' callee state) := by
  unfold call
  refine mirrors_then (compatible_proceeds.current state) fun token after => ?_
  refine (mirrors_arguments reduced mirroring after).bind (fun read after => ?_)
    fun _ _ => False.elim
  split <;> exact mirrors_pure _ after

/-! ### Conditionals and functions -/

theorem mirrors_alternative (state : State) :
    Mirrors rules (fun _ _ => False) state.log (alternative reader state)
      (alternative reader' state) := by
  unfold alternative
  refine mirrors_then (compatible_proceeds.next state) fun ahead after => ?_
  refine mirrors_ite ?_ (mirrors_pure _ after)
  refine mirrors_then (compatible_proceeds.advance after) fun _ after => ?_
  exact mirrors_whenNext after fun after => (mirrors_block reduced mirroring after).map

theorem mirrors_conditional (state : State) :
    Mirrors rules (fun _ _ => False) state.log (conditional reader state)
      (conditional reader' state) := by
  unfold conditional
  refine mirrors_then (compatible_proceeds.current state) fun token after => ?_
  refine mirrors_whenNext after fun after => ?_
  refine mirrors_then (compatible_proceeds.advance after) fun _ after => ?_
  refine (mirroring.mirrors .lowest after).bind (fun condition after => ?_)
    fun _ _ halts => departed_whenNext reduced halts
  refine mirrors_whenNext after fun after => mirrors_whenNext after fun after => ?_
  refine (mirrors_block reduced mirroring after).bind (fun consequence after => ?_)
    fun _ _ => False.elim
  refine (mirrors_alternative reduced mirroring after).bind (fun otherwise after => ?_)
    fun _ _ => False.elim
  split <;> exact mirrors_pure _ after

theorem mirrors_function (state : State) :
    Mirrors rules (fun _ _ => False) state.log (function reader state)
      (function reader' state) := by
  unfold function
  refine mirrors_then (compatible_proceeds.current state) fun token after => ?_
  refine mirrors_whenNext after fun after => ?_
  refine mirrors_then (compatible_proceeds.parameters after) fun names after => ?_
  cases names with
  | none => exact mirrors_pure _ after
  | some names =>
      exact mirrors_whenNext after fun after => (mirrors_block reduced mirroring after).map

/-! ### Expressions -/

theorem mirrors_opening {kind : TokenKind} {rule : OpeningRule} (opens : Rules.Opens kind rule)
    (state : State) :
    Mirrors rules (fun _ => State.Halts rules) state.log (rule.read reader state)
      (rule.read reader' state) := by
  cases opens with
  | identifier => exact mirrors_then (compatible_proceeds.identifier state) fun _ => mirrors_pure _
  | integer => exact mirrors_of_advances (unrestricted_advances.anyInteger state)
  | boolean => exact mirrors_then (compatible_proceeds.boolean state) fun _ => mirrors_pure _
  | unary => exact mirrors_unary mirroring state
  | group => exact (mirrors_group reduced mirroring state).imp fun _ _ => False.elim
  | conditional => exact (mirrors_conditional reduced mirroring state).imp fun _ _ => False.elim
  | function => exact (mirrors_function reduced mirroring state).imp fun _ _ => False.elim

theorem mirrors_continuation (rule : ContinuationRule) (left : Option Node) (state : State) :
    Mirrors rules (fun _ => State.Halts rules) state.log (rule.read reader left state)
      (rule.read reader' left state) := by
  cases rule with
  | binary => exact mirrors_binary mirroring left state
  | call => exact (mirrors_call reduced mirroring left state).imp fun _ _ => False.elim

end Rules

end Parser

end MonkeySyntax
