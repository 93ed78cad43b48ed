import MonkeySyntax.Proofs.Parser.Tables
import MonkeySyntax.Proofs.Parser.Turns

/-!
Contract: relations between runs that all the rules of the language keep.

Owns:
- the conditions under which a relation between two runs from one state passes from
  the single steps to sequences and loops;
- that it then passes from two readers of expressions to every rule that uses them,
  and to the reading of an expression by the standard rules, whatever is taken away from them;
- the first such relation: a run only takes tokens and adds reports. With it every
  turn of a loop that leads to another one takes a token;
- the reader of expressions that is given the levels of nesting left.

Does not own: the count of levels in the state.

A property of single runs is a relation that ignores one of the two.
-/

set_option autoImplicit false

namespace MonkeySyntax

/-- A cause that a rule reports by itself. The nesting limit is reported by the loop
over a program, and a remark by whoever drives the parse. -/
def Diagnostic.Ordinary : Diagnostic → Prop
  | .nestedTooDeeply => False
  | .remark _ => False
  | _ => True

namespace Parser

/-- A relation between two runs from one state that single steps have, and that
sequences and loops inherit. In a sequence the second parts need to be related only
where one of the first parts arrives. -/
structure Compatible (Rel : {α : Type} → ParseM α → ParseM α → State → Prop) : Prop where
  pure : ∀ {α : Type} (value : α) (state : State),
    Rel (Pure.pure value) (Pure.pure value) state
  bind : ∀ {α β : Type} {step step' : ParseM α} {following following' : α → ParseM β}
    {state : State}, Rel step step' state →
    (∀ answer after, step state = .ok answer after ∨ step' state = .ok answer after →
      Rel (following answer) (following' answer) after) →
    Rel (step >>= following) (step' >>= following') state
  current : ∀ state, Rel Parser.current Parser.current state
  next : ∀ state, Rel Parser.next Parser.next state
  advance : ∀ state, Rel Parser.advance Parser.advance state
  report : ∀ {diagnostic : Diagnostic} (state : State), diagnostic.Ordinary →
    Rel (Parser.report diagnostic) (Parser.report diagnostic) state
  integer : ∀ state, state.stream.current.kind = .int →
    Rel Parser.integer Parser.integer state
  repeatTurns : ∀ {α β : Type} {turn turn' : β → ParseM (Turn β α)} (carried : β)
    (state : State), Taking turn →
    (∀ carried state, Rel (turn carried) (turn' carried) state) →
    Rel (Parser.repeatTurns turn carried) (Parser.repeatTurns turn' carried) state

/-- Two readers of expressions are related from every state on, up to every level. -/
def Related (Rel : {α : Type} → ParseM α → ParseM α → State → Prop)
    (reader reader' : ExpressionReader) : Prop :=
  ∀ level state, Rel (reader level) (reader' level) state

/-- A property of single runs relates a reader that has it to itself. -/
theorem related_self {Holds : {α : Type} → ParseM α → State → Prop} {reader : ExpressionReader}
    (holds : ∀ level state, Holds (reader level) state) :
    Related (fun step _ state => Holds step state) reader reader :=
  holds

namespace Compatible

variable {Rel : {α : Type} → ParseM α → ParseM α → State → Prop}
  {reader reader' : ExpressionReader} {α : Type}

/-- Runs that decide by the same test are related when both branches are. -/
theorem ite {test : Prop} [Decidable test] {yes yes' no no' : ParseM α} {state : State}
    (whenTrue : test → Rel yes yes' state) (whenFalse : ¬ test → Rel no no' state) :
    Rel (if test then yes else no) (if test then yes' else no') state := by
  by_cases holds : test
  · rw [if_pos holds, if_pos holds]
    exact whenTrue holds
  · rw [if_neg holds, if_neg holds]
    exact whenFalse holds

/-! ### Steps and statements -/

section Statements

variable (compatible : Compatible Rel)
include compatible

theorem expectNext (kind : TokenKind) (state : State) :
    Rel (Parser.expectNext kind) (Parser.expectNext kind) state := by
  apply compatible.bind (compatible.next state)
  intro ahead after _
  refine ite (fun _ => ?_) fun _ => ?_
  · exact compatible.bind (compatible.advance after) fun _ _ _ => compatible.pure _ _
  · refine compatible.bind ?_ fun _ _ _ => compatible.pure _ _
    exact compatible.bind (compatible.next after) fun _ _ _ => compatible.report _ trivial

/-- What is done after a token is found or missed is related when both parts are. -/
theorem whenNext {kind : TokenKind} {found found' missed missed' : ParseM α} (state : State)
    (whenFound : ∀ after, Rel found found' after) (whenMissed : ∀ after, Rel missed missed' after) :
    Rel (Parser.expectNext kind >>= fun isFound => if isFound = true then found else missed)
      (Parser.expectNext kind >>= fun isFound => if isFound = true then found' else missed')
      state := by
  apply compatible.bind (compatible.expectNext kind state)
  intro isFound after _
  cases isFound with
  | true => exact whenFound after
  | false => exact whenMissed after

theorem advanceTo (kind : TokenKind) (state : State) :
    Rel (Parser.advanceTo kind) (Parser.advanceTo kind) state := by
  apply compatible.bind (compatible.next state)
  intro ahead after _
  refine ite (fun _ => ?_) fun _ => ?_
  · exact compatible.advance after
  · exact compatible.pure _ after

theorem identifier (state : State) : Rel Parser.identifier Parser.identifier state :=
  compatible.bind (compatible.current state) fun _ _ _ => compatible.pure _ _

theorem boolean (state : State) : Rel Parser.boolean Parser.boolean state :=
  compatible.bind (compatible.current state) fun _ _ _ => compatible.pure _ _

variable (related : Related Rel reader reader')
include related

theorem closingExpression (state : State) :
    Rel (Parser.closingExpression reader) (Parser.closingExpression reader') state := by
  apply compatible.bind (related .lowest state)
  intro value after _
  exact compatible.bind (compatible.advanceTo _ after) fun _ _ _ => compatible.pure _ _

theorem letStatement (state : State) :
    Rel (Parser.letStatement reader) (Parser.letStatement reader') state := by
  apply compatible.bind (compatible.current state)
  intro token after _
  refine compatible.whenNext after (fun after => ?_) fun _ => compatible.pure _ _
  apply compatible.bind (compatible.identifier after)
  intro name after _
  refine compatible.whenNext after (fun after => ?_) fun _ => compatible.pure _ _
  apply compatible.bind (compatible.advance after)
  intro _ after _
  exact compatible.bind (compatible.closingExpression related after) fun _ _ _ =>
    compatible.pure _ _

theorem returnStatement (state : State) :
    Rel (Parser.returnStatement reader) (Parser.returnStatement reader') state := by
  apply compatible.bind (compatible.current state)
  intro token after _
  apply compatible.bind (compatible.advance after)
  intro _ after _
  exact compatible.bind (compatible.closingExpression related after) fun _ _ _ =>
    compatible.pure _ _

theorem expressionStatement (state : State) :
    Rel (Parser.expressionStatement reader) (Parser.expressionStatement reader') state := by
  apply compatible.bind (compatible.current state)
  intro token after _
  exact compatible.bind (compatible.closingExpression related after) fun _ _ _ =>
    compatible.pure _ _

theorem statement (state : State) :
    Rel (Parser.statement reader) (Parser.statement reader') state := by
  apply compatible.bind (compatible.current state)
  intro token after _
  split
  · exact compatible.letStatement related after
  · exact compatible.returnStatement related after
  · exact compatible.expressionStatement related after

end Statements

end Compatible

/-! ### Taking tokens and adding reports -/

/-- A run only takes tokens and reports causes that are allowed. -/
def Advances (allowed : Diagnostic → Prop) {α : Type} (step : ParseM α) (state : State) : Prop :=
  State.Leads allowed state (reached (step state))

/-- A run only takes tokens and reports ordinary causes. -/
abbrev Proceeds {α : Type} (step : ParseM α) (state : State) : Prop :=
  Advances Diagnostic.Ordinary step state

section Proceeding

variable {α : Type} {step : ParseM α} {state after : State} {reader : ExpressionReader}
  {allowed : Diagnostic → Prop}

theorem Advances.leads (advances : Advances allowed step state) {answer : α}
    (ran : step state = .ok answer after) : State.Leads allowed state after := by
  unfold Advances at advances
  rw [ran] at advances
  exact advances

theorem Advances.leads_error (advances : Advances allowed step state) {reason : Abort}
    (failed : step state = .error reason after) : State.Leads allowed state after := by
  unfold Advances at advances
  rw [failed] at advances
  exact advances

theorem Advances.mono {more : Diagnostic → Prop} (advances : Advances allowed step state)
    (allows : ∀ diagnostic, allowed diagnostic → more diagnostic) : Advances more step state :=
  State.Leads.mono advances allows

theorem Advances.bind {β : Type} {following : α → ParseM β} (advances : Advances allowed step state)
    (followingAdvances : ∀ answer after, step state = .ok answer after →
      Advances allowed (following answer) after) :
    Advances allowed (step >>= following) state := by
  unfold Advances
  cases ran : step state with
  | ok answer after =>
      rw [bind_of_ok ran]
      exact (advances.leads ran).trans (followingAdvances answer after ran)
  | error reason after =>
      rw [bind_of_error ran]
      exact advances.leads_error ran

section Allowing

variable (allows : ∀ diagnostic : Diagnostic, diagnostic.Ordinary → allowed diagnostic)
include allows

theorem advances_integer (state : State) : Advances allowed integer state := by
  unfold Advances integer
  rw [bind_of_ok (current_run state)]
  cases readInteger state.stream.current.literal with
  | value number => exact .refl
  | outOfRange => exact .single (.told state (allows _ trivial))
  | notANumeral => exact .refl

theorem compatible_advances : Compatible fun step _ state => Advances allowed step state where
  pure _ _ := .refl
  current _ := .refl
  next _ := .refl
  advance state := .single (.advance state)
  report state isOrdinary := .single (.told state (allows _ isOrdinary))
  integer state _ := advances_integer allows state
  bind advances followingAdvances :=
    advances.bind fun answer after ran => followingAdvances answer after (Or.inl ran)
  repeatTurns {α β turn _} carried start taking advances := by
    refine repeatTurns_induction taking (fun _ state => State.Leads allowed start state)
      (fun result => State.Leads allowed start (reached result)) ?again ?done ?failed .refl
    case again =>
      intro carried state following after leads ran
      exact leads.trans ((advances carried state).leads ran)
    case done =>
      intro carried state result after leads ran
      exact leads.trans ((advances carried state).leads ran)
    case failed =>
      intro carried state reason after leads ran
      exact leads.trans ((advances carried state).leads_error ran)

end Allowing

theorem compatible_proceeds : Compatible fun step _ state => Proceeds step state :=
  compatible_advances fun _ isOrdinary => isOrdinary

/-! ### Turns that take tokens -/

theorem remaining_advance_le (state : State) :
    state.advance.stream.remaining ≤ state.stream.remaining := by
  have leads : State.Leads Diagnostic.Ordinary state state.advance := .single (.advance state)
  exact leads.remaining_le

/-- What is behind the current token is less than what was there before it. -/
theorem remaining_advance_lt_of_leads (unfinished : state.stream.current.kind ≠ .endOfInput)
    (leads : State.Leads allowed state after) :
    after.advance.stream.remaining < state.stream.remaining := by
  have taken := state.stream.remaining_advance_lt unfinished
  have left := leads.remaining_le
  have dropped : after.advance.stream.remaining = after.stream.remaining - 1 := List.length_tail
  omega

/-- While there is a token behind the current one, the current one can be taken. -/
theorem remaining_advance_lt_of_next (state : State)
    (unfinished : state.stream.next.kind ≠ .endOfInput) :
    state.advance.stream.remaining < state.stream.remaining := by
  have taken := state.advance.stream.remaining_advance_lt unfinished
  have dropped : state.advance.stream.remaining = state.stream.remaining - 1 := List.length_tail
  omega

theorem taking_parameterTurn : Taking parameterTurn := by
  intro names state following after ran
  obtain ⟨comma, isName⟩ := comma_of_parameterTurn ran
  rw [parameterTurn_of_comma comma isName] at ran
  cases ran
  have taken := remaining_advance_lt_of_next state (by simp [comma])
  have alsoTaken := remaining_advance_le state.advance
  omega

variable (advances : ∀ level state, Advances allowed (reader level) state)
include advances

/-- What a statement reports by itself is ordinary. -/
theorem advances_statement (state : State) : Advances (fun _ => True) (statement reader) state :=
  (compatible_advances fun _ _ => trivial).statement
    (related_self fun level state => (advances level state).mono fun _ _ => trivial) state

theorem taking_argumentTurn : Taking (argumentTurn reader) := by
  intro arguments state following after ran
  obtain ⟨comma, argument, read, -⟩ := exists_argument_of_again ran
  have taken := remaining_advance_lt_of_next state (by simp [comma])
  have alsoTaken := remaining_advance_le state.advance
  have left := ((advances _ _).leads read).remaining_le
  omega

theorem taking_blockTurn (token : Token) : Taking (blockTurn reader token) := by
  intro statements state following after ran
  obtain ⟨unfinished, read, between, readStatement, -, rfl⟩ := exists_statement_of_blockTurn ran
  have leads := (advances_statement advances state).leads readStatement
  exact remaining_advance_lt_of_leads unfinished leads

theorem taking_programTurn : Taking (programTurn reader) := by
  intro statements state following after ran
  obtain ⟨unfinished, read, between, readStatement, -, rfl⟩ := exists_statement_of_again ran
  have leads := (advances_statement advances state).leads readStatement
  exact remaining_advance_lt_of_leads unfinished leads

end Proceeding

/-! ### Expressions -/

namespace Compatible

variable {Rel : {α : Type} → ParseM α → ParseM α → State → Prop}
  {reader reader' : ExpressionReader} (compatible : Compatible Rel)
  (related : Related Rel reader reader')
include compatible

theorem otherParameters (names : List Node) (state : State) :
    Rel (Parser.repeatTurns parameterTurn names) (Parser.repeatTurns parameterTurn names)
      state := by
  apply compatible.repeatTurns names state taking_parameterTurn
  intro names state
  apply compatible.bind (compatible.next state)
  intro ahead after _
  refine ite (fun _ => ?_) fun _ => ?_
  · apply compatible.bind (compatible.advance after)
    intro _ after _
    refine compatible.whenNext after (fun after => ?_) fun _ => compatible.pure _ _
    exact compatible.bind (compatible.identifier after) fun _ _ _ => compatible.pure _ _
  · exact compatible.whenNext after (fun _ => compatible.pure _ _) fun _ => compatible.pure _ _

theorem parameters (state : State) : Rel Parser.parameters Parser.parameters state := by
  apply compatible.bind (compatible.next state)
  intro ahead after _
  refine ite (fun _ => ?_) fun _ => ?_
  · exact compatible.bind (compatible.advance after) fun _ _ _ => compatible.pure _ _
  · refine compatible.whenNext after (fun after => ?_) fun _ => compatible.pure _ _
    exact compatible.bind (compatible.identifier after) fun name after _ =>
      compatible.otherParameters [name] after

include related

theorem unary (state : State) : Rel (Parser.unary reader) (Parser.unary reader') state := by
  apply compatible.bind (compatible.current state)
  intro token after _
  apply compatible.bind (compatible.advance after)
  intro _ after _
  exact compatible.bind (related _ after) fun _ _ _ => compatible.pure _ _

theorem binary (left : Option Node) (state : State) :
    Rel (Parser.binary reader left) (Parser.binary reader' left) state := by
  apply compatible.bind (compatible.current state)
  intro token after _
  apply compatible.bind (compatible.advance after)
  intro _ after _
  apply compatible.bind (related _ after)
  intro right after _
  split <;> exact compatible.pure _ _

theorem group (state : State) : Rel (Parser.group reader) (Parser.group reader') state := by
  apply compatible.bind (compatible.advance state)
  intro _ after _
  apply compatible.bind (related _ after)
  intro inside after _
  exact compatible.whenNext after (fun _ => compatible.pure _ _) fun _ => compatible.pure _ _

variable {allowed : Diagnostic → Prop}
  (advances : ∀ level state, Advances allowed (reader level) state)
include advances

theorem otherArguments (collected : List (Option Node)) (state : State) :
    Rel (Parser.repeatTurns (argumentTurn reader) collected)
      (Parser.repeatTurns (argumentTurn reader') collected) state := by
  refine compatible.repeatTurns collected state (taking_argumentTurn advances)
    fun collected state => ?_
  apply compatible.bind (compatible.next state)
  intro ahead after _
  refine ite (fun _ => ?_) fun _ => ?_
  · apply compatible.bind (compatible.advance after)
    intro _ after _
    apply compatible.bind (compatible.advance after)
    intro _ after _
    exact compatible.bind (related _ after) fun _ _ _ => compatible.pure _ _
  · exact compatible.pure _ _

theorem arguments (state : State) :
    Rel (Parser.arguments reader) (Parser.arguments reader') state := by
  apply compatible.bind (compatible.next state)
  intro ahead after _
  refine ite (fun _ => ?_) fun _ => ?_
  · exact compatible.bind (compatible.advance after) fun _ _ _ => compatible.pure _ _
  · apply compatible.bind (compatible.advance after)
    intro _ after _
    apply compatible.bind (related _ after)
    intro first after _
    refine compatible.bind (compatible.otherArguments related advances [first] after)
      fun all after _ => ?_
    exact compatible.whenNext after (fun _ => compatible.pure _ _) fun _ => compatible.pure _ _

theorem call (callee : Option Node) (state : State) :
    Rel (Parser.call reader callee) (Parser.call reader' callee) state := by
  apply compatible.bind (compatible.current state)
  intro token after _
  apply compatible.bind (compatible.arguments related advances after)
  intro read after _
  split <;> exact compatible.pure _ _

theorem statements (token : Token) (read : List Node) (state : State) :
    Rel (Parser.repeatTurns (blockTurn reader token) read)
      (Parser.repeatTurns (blockTurn reader' token) read) state := by
  apply compatible.repeatTurns read state (taking_blockTurn advances token)
  intro read state
  apply compatible.bind (compatible.current state)
  intro ahead after _
  refine ite (fun _ => compatible.pure _ _) fun _ => ite (fun _ => ?_) fun _ => ?_
  · exact compatible.bind (compatible.report after trivial) fun _ _ _ => compatible.pure _ _
  · apply compatible.bind (compatible.statement related after)
    intro read after _
    exact compatible.bind (compatible.advance after) fun _ _ _ => compatible.pure _ _

theorem block (state : State) : Rel (Parser.block reader) (Parser.block reader') state := by
  apply compatible.bind (compatible.current state)
  intro token after _
  exact compatible.bind (compatible.advance after) fun _ after _ =>
    compatible.statements related advances token [] after

theorem alternative (state : State) :
    Rel (Parser.alternative reader) (Parser.alternative reader') state := by
  apply compatible.bind (compatible.next state)
  intro ahead after _
  refine ite (fun _ => ?_) fun _ => ?_
  · apply compatible.bind (compatible.advance after)
    intro _ after _
    refine compatible.whenNext after (fun after => ?_) fun _ => compatible.pure _ _
    exact compatible.bind (compatible.block related advances after) fun _ _ _ =>
      compatible.pure _ _
  · exact compatible.pure _ _

theorem conditional (state : State) :
    Rel (Parser.conditional reader) (Parser.conditional reader') state := by
  apply compatible.bind (compatible.current state)
  intro token after _
  refine compatible.whenNext after (fun after => ?_) fun _ => compatible.pure _ _
  apply compatible.bind (compatible.advance after)
  intro _ after _
  apply compatible.bind (related _ after)
  intro condition after _
  refine compatible.whenNext after (fun after => ?_) fun _ => compatible.pure _ _
  refine compatible.whenNext after (fun after => ?_) fun _ => compatible.pure _ _
  apply compatible.bind (compatible.block related advances after)
  intro consequence after _
  apply compatible.bind (compatible.alternative related advances after)
  intro otherwise after _
  split <;> exact compatible.pure _ _

theorem function (state : State) :
    Rel (Parser.function reader) (Parser.function reader') state := by
  apply compatible.bind (compatible.current state)
  intro token after _
  refine compatible.whenNext after (fun after => ?_) fun _ => compatible.pure _ _
  apply compatible.bind (compatible.parameters after)
  intro names after _
  cases names with
  | none => exact compatible.pure _ _
  | some names =>
      refine compatible.whenNext after (fun after => ?_) fun _ => compatible.pure _ _
      exact compatible.bind (compatible.block related advances after) fun _ _ _ =>
        compatible.pure _ _

theorem openingRule {kind : TokenKind} {rule : OpeningRule} (opens : Rules.Opens kind rule)
    (state : State) (isCurrent : state.stream.current.kind = kind) :
    Rel (rule.read reader) (rule.read reader') state := by
  cases opens with
  | identifier =>
      exact compatible.bind (compatible.identifier state) fun _ _ _ => compatible.pure _ _
  | integer => exact compatible.integer state isCurrent
  | boolean =>
      exact compatible.bind (compatible.boolean state) fun _ _ _ => compatible.pure _ _
  | unary => exact compatible.unary related state
  | group => exact compatible.group related state
  | conditional => exact compatible.conditional related advances state
  | function => exact compatible.function related advances state

theorem continuationRule (rule : ContinuationRule) (left : Option Node) (state : State) :
    Rel (rule.read reader left) (rule.read reader' left) state := by
  cases rule with
  | binary => exact compatible.binary related left state
  | call => exact compatible.call related advances left state

end Compatible

/-! ### The standard rules -/

theorem next_ne_endOfInput_of_lt {state : State} {level : Precedence}
    (tighter : level < state.stream.next.kind.precedence) :
    state.stream.next.kind ≠ .endOfInput := by
  intro ended
  rw [ended] at tighter
  exact Precedence.not_lt_lowest level tighter

theorem taking_continuationTurn {reader : ExpressionReader} {allowed : Diagnostic → Prop}
    (advances : ∀ level state, Advances allowed (reader level) state) (rules : Rules)
    (level : Precedence) : Taking (rules.continuationTurn reader level) := by
  intro left state following after ran
  obtain ⟨tighter, rule, -, readRule⟩ := exists_rule_of_again ran
  have taken := remaining_advance_lt_of_next state (next_ne_endOfInput_of_lt tighter)
  have advancesTrue : ∀ level state, Advances (fun _ => True) (reader level) state :=
    fun level state => (advances level state).mono fun _ _ => trivial
  have advancesRule : Advances (fun _ => True) (rule.read reader left) state.advance :=
    (compatible_advances fun _ _ => trivial).continuationRule (related_self advancesTrue)
      advances rule left _
  have left := (advancesRule.leads readRule).remaining_le
  omega

section Reading

variable {Rel : {α : Type} → ParseM α → ParseM α → State → Prop}
  {reader reader' : ExpressionReader} (compatible : Compatible Rel)
  (related : Related Rel reader reader')
  {allowed : Diagnostic → Prop} (advances : ∀ level state, Advances allowed (reader level) state)
include compatible related advances

theorem Compatible.continuationTurn (rules : Rules) (level : Precedence) (left : Option Node)
    (state : State) :
    Rel (rules.continuationTurn reader level left) (rules.continuationTurn reader' level left)
      state := by
  apply compatible.bind (compatible.next state)
  intro ahead after _
  refine ite (fun _ => ?_) fun _ => ?_
  · cases rules.continuation ahead.kind with
    | none => exact compatible.pure _ _
    | some rule =>
        apply compatible.bind (compatible.advance after)
        intro _ after _
        exact compatible.bind (compatible.continuationRule related advances rule left after)
          fun _ _ _ => compatible.pure _ _
  · exact compatible.pure _ _

theorem Compatible.continuations (rules : Rules) (level : Precedence) (left : Option Node)
    (state : State) :
    Rel (Parser.repeatTurns (rules.continuationTurn reader level) left)
      (Parser.repeatTurns (rules.continuationTurn reader' level) left) state :=
  compatible.repeatTurns left state (taking_continuationTurn advances rules level)
    (compatible.continuationTurn related advances rules level)

theorem Compatible.expressionBy {rules : Rules} (regular : rules.Regular) (level : Precedence)
    (state : State) :
    Rel (rules.expressionBy reader level) (rules.expressionBy reader' level) state := by
  apply compatible.bind (compatible.current state)
  intro token after isCurrent
  obtain ⟨rfl, rfl⟩ : token = state.stream.current ∧ after = state := by
    rcases isCurrent with ran | ran <;> cases ran <;> exact ⟨rfl, rfl⟩
  cases found : rules.opening after.stream.current.kind with
  | none => exact compatible.bind (compatible.report _ trivial) fun _ _ _ => compatible.pure _ _
  | some rule =>
      refine compatible.bind (compatible.openingRule related advances
        (regular _ rule found) after rfl) fun left after _ => ?_
      exact compatible.continuations related advances rules level left after

end Reading

/-- Reads an expression when so many levels of nesting are left, without a count of them in
the state. -/
def Rules.expression (rules : Rules) : Nat → ExpressionReader
  | 0, _ => abandon .nestedTooDeeply
  | levels + 1, level => rules.expressionBy (rules.expression levels) level

/-- Reading an expression only takes tokens and reports ordinary causes, whatever the
number of levels. -/
theorem proceeds_expression (levels : Nat) (level : Precedence) (state : State) :
    Proceeds (Rules.standard.expression levels level) state := by
  induction levels generalizing level state with
  | zero => exact .refl
  | succ levels inductionHypothesis =>
      exact compatible_proceeds.expressionBy (related_self inductionHypothesis)
        inductionHypothesis Rules.regular_standard level state

theorem proceeds_statement (levels : Nat) (state : State) :
    Proceeds (statement (Rules.standard.expression levels)) state :=
  compatible_proceeds.statement (related_self (proceeds_expression levels)) state

end Parser

end MonkeySyntax
