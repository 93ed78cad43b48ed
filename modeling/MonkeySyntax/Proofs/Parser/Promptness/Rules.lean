import MonkeySyntax.Proofs.Grammar.Viable
import MonkeySyntax.Proofs.Parser.Soundness

/-!
Contract: each rule reports as soon as no sentence can start with the tokens it met.

Owns:
- the token that a report is about;
- where among all the tokens of a text a parse stands, and that what it takes in silence
  is a phrase;
- what it means that a run is prompt: in front of the token of its first report stand tokens
  that a sentence starts with;
- promptness of sequences and loops, and of every rule of the language when the reader that
  it uses is prompt.

Does not own: the loop over the operators behind an expression, and the one over a
program.
-/

set_option autoImplicit false

namespace MonkeySyntax

open Grammar

/-- The token that a report is about. That is the next one where a kind was required of it,
and the current one otherwise. -/
def Report.offending (report : Report) : Token :=
  match report.diagnostic with
  | .unexpected _ _ => report.next
  | _ => report.current

/-- The current token is the first one of a stream. -/
theorem TokenStream.toList_eq_cons (stream : TokenStream) :
    stream.toList = stream.current :: stream.toList.tail := by
  unfold toList current
  cases stream.upcoming with
  | nil => rfl
  | cons token others => rfl

namespace Parser

variable {α β : Type} {all before : List Token} {state after : State} {category : Category}

/-! ### Standing among the tokens -/

/-- All the tokens of a text are the ones before the current one, and the ones from there
on. -/
structure Stands (all before : List Token) (state : State) : Prop where
  lexed : state.stream.Lexed
  all_eq : all = before ++ state.stream.toList

theorem Stands.behind {phrase : List Token} (stands : Stands all before state)
    (upcoming : state.stream.upcoming = phrase ++ after.stream.upcoming)
    (ended : after.stream.endToken = state.stream.endToken) :
    Stands all (before ++ phrase) after := by
  refine ⟨stands.lexed.of_suffix ⟨phrase, upcoming.symm⟩, ?_⟩
  rw [stands.all_eq, TokenStream.toList, TokenStream.toList, upcoming, ended,
    List.append_assoc, List.append_assoc]

theorem Stands.advance (stands : Stands all before state)
    (unfinished : state.stream.current.kind ≠ .endOfInput) :
    Stands all (before ++ [state.stream.current]) state.advance :=
  stands.behind (upcoming_of_current rfl unfinished) rfl

theorem Stands.advance_append {phrase : List Token} (stands : Stands all (before ++ phrase) state)
    (unfinished : state.stream.current.kind ≠ .endOfInput) :
    Stands all (before ++ (phrase ++ [state.stream.current])) state.advance := by
  rw [← List.append_assoc]
  exact stands.advance unfinished

/-- A parse stands where any phrase of a category may follow. -/
def Ready (all : List Token) (category : Category) (state : State) : Prop :=
  ∃ before, Stands all before state ∧ Awaits category before

/-! ### Timely reports -/

/-- A sentence starts with the tokens in front of the one that a report is about, and a block
is reported as unclosed at the end of the input only. -/
structure Timely (all : List Token) (report : Report) : Prop where
  viable : ∃ before behind, all = before ++ report.offending :: behind ∧ Viable before
  ended : report.diagnostic = .unclosedBlock → report.offending.kind = .endOfInput

theorem Stands.timely {report : Report} (stands : Stands all before state)
    (viable : Viable before) (offends : report.offending = state.stream.current)
    (ended : report.diagnostic = .unclosedBlock → report.offending.kind = .endOfInput) :
    Timely all report := by
  refine ⟨⟨before, state.stream.toList.tail, ?_, viable⟩, ended⟩
  rw [offends, ← TokenStream.toList_eq_cons]
  exact stands.all_eq

/-- A run takes no report back, and if it starts where it should, the first one that it adds
is timely. The nesting limit may be reached anywhere. -/
structure Prompt (all : List Token) (ready : Prop) (log : List Report)
    (ended : EStateM.Result Abort State α) : Prop where
  grows : log <:+ (reached ended).log
  timely : ready → ∀ later report, (reached ended).log = later ++ report :: log →
    report.diagnostic ≠ .nestedTooDeeply → Timely all report

variable {ready : Prop} {log : List Report} {ended : EStateM.Result Abort State α}

theorem Prompt.imp {strong : Prop} (prompt : Prompt all ready log ended)
    (isEnough : strong → ready) : Prompt all strong log ended :=
  ⟨prompt.grows, fun holds => prompt.timely (isEnough holds)⟩

theorem prompt_of_log_eq (silent : (reached ended).log = log) : Prompt all ready log ended := by
  refine ⟨silent ▸ List.suffix_refl _, fun _ later report logged => ?_⟩
  have lengths := congrArg List.length (silent.symm.trans logged)
  rw [List.length_append, List.length_cons] at lengths
  omega

theorem prompt_told {diagnostic : Diagnostic} (isLog : state.log = log)
    (reachedTold : reached ended = state.told diagnostic)
    (timely : ready → diagnostic ≠ .nestedTooDeeply →
      Timely all ⟨diagnostic, state.stream.current, state.stream.next⟩) :
    Prompt all ready log ended := by
  subst isLog
  refine ⟨reachedTold ▸ List.suffix_cons _ _, fun holds later report logged ordinary => ?_⟩
  rw [reachedTold] at logged
  change [] ++ _ = later ++ _ at logged
  obtain ⟨-, same⟩ := List.append_inj' logged rfl
  obtain ⟨rfl, -⟩ := List.cons.inj same
  exact timely holds ordinary

/-- The first report of a run is the first one of its first part, or if that one is silent,
of its second part. -/
theorem Prompt.trans {answer : β} {ended : EStateM.Result Abort State α}
    (prompt : Prompt all ready log (.ok answer after))
    (promptLater : Prompt all (ready ∧ after.log = log) after.log ended) :
    Prompt all ready log ended := by
  refine ⟨prompt.grows.trans promptLater.grows, fun holds later report logged ordinary => ?_⟩
  obtain ⟨added, logged'⟩ := prompt.grows
  obtain ⟨addedLater, loggedLater⟩ := promptLater.grows
  rcases List.eq_nil_or_concat added with rfl | ⟨others, first, rfl⟩
  · have silent : after.log = log := logged'.symm
    rw [← silent] at logged
    exact promptLater.timely ⟨holds, silent⟩ later report logged ordinary
  · rw [List.concat_eq_append, List.append_assoc] at logged'
    change others ++ first :: log = after.log at logged'
    rw [← loggedLater, ← logged', ← List.append_assoc] at logged
    obtain ⟨-, same⟩ := List.append_inj' logged rfl
    obtain ⟨rfl, -⟩ := List.cons.inj same
    exact prompt.timely holds others first logged'.symm ordinary

theorem Prompt.bind {step : ParseM β} {following : β → ParseM α}
    (prompt : Prompt all ready log (step state))
    (promptLater : ∀ answer after, step state = .ok answer after →
      Prompt all (ready ∧ after.log = log) after.log (following answer after)) :
    Prompt all ready log ((step >>= following) state) := by
  cases ran : step state with
  | ok answer after =>
      rw [bind_of_ok ran]
      rw [ran] at prompt
      exact prompt.trans (promptLater answer after ran)
  | error reason after =>
      rw [bind_of_error ran]
      rw [ran] at prompt
      exact ⟨prompt.grows, prompt.timely⟩

/-- A kind is required of the next token where a sentence starts with the tokens in front
of it. -/
theorem prompt_whenNext {kind : TokenKind} {found : ParseM α} {missed : α}
    (isLog : state.log = log)
    (viable : ready → ∃ before, Stands all before state.advance ∧ Viable before)
    (whenFound : state.stream.next.kind = kind → Prompt all ready log (found state.advance)) :
    Prompt all ready log
      ((expectNext kind >>= fun isFound => if isFound = true then found else pure missed)
        state) := by
  by_cases ahead : state.stream.next.kind = kind
  · rw [bind_of_ok (expectNext_of_eq ahead)]
    exact whenFound ahead
  · rw [bind_of_ok (expectNext_of_ne ahead)]
    refine prompt_told isLog rfl fun holds _ => ?_
    obtain ⟨before, stands, isViable⟩ := viable holds
    exact stands.timely isViable rfl nofun

/-- A loop is prompt when each of its turns is, and when silent turns lead to where the next
one should start. -/
theorem prompt_repeatTurns {turn : β → ParseM (Turn β α)} (taking : Taking turn)
    (invariant : β → State → Prop)
    (prompt : ∀ carried state,
      Prompt all (invariant carried state) state.log (turn carried state))
    (kept : ∀ carried state following after, invariant carried state →
      turn carried state = .ok (.again following) after → after.log = state.log →
      invariant following after) (carried : β) (state : State) :
    Prompt all (invariant carried state) state.log (repeatTurns turn carried state) := by
  apply repeatTurns_recursion taking
    (motive := fun carried state ended => Prompt all (invariant carried state) state.log ended)
  case again =>
    intro carried state following after turned promptLater
    have promptTurn := prompt carried state
    rw [turned] at promptTurn
    exact promptTurn.trans (promptLater.imp fun ⟨holds, silent⟩ =>
      kept carried state following after holds turned silent)
  case done =>
    intro carried state result after turned
    have promptTurn := prompt carried state
    rw [turned] at promptTurn
    exact ⟨promptTurn.grows, promptTurn.timely⟩
  case error =>
    intro carried state reason after turned
    have promptTurn := prompt carried state
    rw [turned] at promptTurn
    exact ⟨promptTurn.grows, promptTurn.timely⟩

/-! ### What is taken in silence -/

section Silent

variable {reader : ExpressionReader} {answer : Option Node} {level : Precedence}
  (sound : Sound reader) (proceeds : ∀ level state, Proceeds (reader level) state)
include sound proceeds

theorem exists_expression_of_silent (stands : Stands all before state)
    (ran : reader level state = .ok answer after) (silent : after.log = state.log) :
    ∃ phrase, Phrase .expression phrase ∧ Stands all (before ++ phrase) after.advance := by
  obtain ⟨derivation, took, -⟩ :=
    sound stands.lexed ran (Nat.le_of_eq (congrArg List.length silent))
  exact ⟨_, derivation.isExpression,
    stands.behind took.upcoming_eq ((proceeds level state).leads ran).endToken_eq⟩

theorem exists_statement_of_silent (stands : Stands all before state)
    (ran : statement reader state = .ok answer after) (silent : after.log = state.log) :
    ∃ phrase, Phrase .statement phrase ∧ Stands all (before ++ phrase) after.advance := by
  obtain ⟨derivation, took⟩ :=
    took_statement sound stands.lexed ran (Nat.le_of_eq (congrArg List.length silent))
  have proceedsStatement : Proceeds (statement reader) state :=
    compatible_proceeds.statement (related_self proceeds) state
  exact ⟨_, derivation.isStatement,
    stands.behind took.upcoming_eq (proceedsStatement.leads ran).endToken_eq⟩

theorem exists_block_of_silent (isOpening : state.stream.next.kind = .leftBrace)
    (lexed : state.stream.Lexed) (stands : Stands all before state.advance)
    (ran : block reader state.advance = .ok answer after) (silent : after.log = state.log) :
    ∃ phrase, Phrase .block phrase ∧ Stands all (before ++ phrase) after.advance := by
  obtain ⟨derivation, -, -, upcoming⟩ :=
    took_block sound proceeds isOpening lexed ran (Nat.le_of_eq (congrArg List.length silent))
  have proceedsBlock : Proceeds (block reader) state.advance :=
    compatible_proceeds.block (related_self proceeds) proceeds state.advance
  exact ⟨_, derivation.isBlock, stands.behind upcoming (proceedsBlock.leads ran).endToken_eq⟩

end Silent

/-! ### Statements -/

/-- A reader of expressions is prompt where any expression may follow. -/
def PromptReader (all : List Token) (reader : ExpressionReader) : Prop :=
  ∀ level state, Prompt all (Ready all .expression state) state.log (reader level state)

section Rules

variable {reader : ExpressionReader} (prompts : PromptReader all reader)
include prompts

theorem prompt_closingExpression (state : State) :
    Prompt all (Ready all .expression state) state.log (closingExpression reader state) := by
  unfold closingExpression
  refine (prompts .lowest state).bind fun value between _ => ?_
  by_cases isClosed : between.stream.next.kind = .semicolon
  · rw [bind_of_ok (advanceTo_of_eq isClosed)]
    exact prompt_of_log_eq rfl
  · rw [bind_of_ok (advanceTo_of_ne isClosed)]
    exact prompt_of_log_eq rfl

theorem prompt_letStatement (isWord : state.stream.current.kind = .letWord) :
    Prompt all (Ready all .statements state) state.log (letStatement reader state) := by
  have unfinished : state.stream.current.kind ≠ .endOfInput := by simp [isWord]
  unfold letStatement
  rw [bind_of_ok (current_run state)]
  refine prompt_whenNext rfl (fun ⟨before, stands, awaits⟩ => ?_) fun isName => ?_
  · have awaitsValue := awaits.letValue (.ofKind isWord) (.sample .ident) (.sample .assign)
    exact ⟨_, stands.advance unfinished, awaitsValue.viable.start⟩
  rw [bind_of_ok (identifier_run state.advance)]
  have upcoming : state.stream.upcoming = [state.stream.current, state.stream.next] ++
      state.advance.advance.stream.upcoming := by
    rw [upcoming_of_current isWord nofun, upcoming_of_next isName nofun]
    rfl
  refine prompt_whenNext rfl (fun ⟨before, stands, awaits⟩ => ?_) fun isSign => ?_
  · have awaitsValue := awaits.letValue (.ofKind isWord) (.ofKind isName) (.sample .assign)
    exact ⟨_, stands.behind upcoming rfl, awaitsValue.viable.start⟩
  rw [bind_of_ok (advance_run state.advance.advance)]
  refine Prompt.bind ((prompt_closingExpression prompts state.advance.advance.advance).imp ?_)
    fun value after _ => prompt_of_log_eq rfl
  intro ⟨before, stands, awaits⟩
  refine ⟨_, stands.behind ?_ rfl,
    awaits.letValue (.ofKind isWord) (.ofKind isName) (.ofKind isSign)⟩
  rw [upcoming, upcoming_of_next isSign nofun]
  rfl

theorem prompt_returnStatement (isWord : state.stream.current.kind = .returnWord) :
    Prompt all (Ready all .statements state) state.log (returnStatement reader state) := by
  have unfinished : state.stream.current.kind ≠ .endOfInput := by simp [isWord]
  unfold returnStatement
  rw [bind_of_ok (current_run state), bind_of_ok (advance_run state)]
  refine Prompt.bind ((prompt_closingExpression prompts state.advance).imp ?_)
    fun value after _ => prompt_of_log_eq rfl
  intro ⟨before, stands, awaits⟩
  exact ⟨_, stands.advance unfinished, awaits.returnValue (.ofKind isWord)⟩

theorem prompt_statement (state : State) :
    Prompt all (Ready all .statements state) state.log (statement reader state) := by
  rw [statement_run]
  by_cases isLet : state.stream.current.kind = .letWord
  · rw [if_pos isLet]
    exact prompt_letStatement prompts isLet
  by_cases isReturn : state.stream.current.kind = .returnWord
  · rw [if_neg isLet, if_pos isReturn]
    exact prompt_returnStatement prompts isReturn
  · rw [if_neg isLet, if_neg isReturn]
    unfold expressionStatement
    rw [bind_of_ok (current_run state)]
    refine Prompt.bind ((prompt_closingExpression prompts state).imp ?_)
      fun value after _ => prompt_of_log_eq rfl
    exact fun ⟨before, stands, awaits⟩ => ⟨before, stands, awaits.expression⟩

/-! ### Blocks -/

theorem prompt_blockTurn (token : Token) (read : List Node) (state : State) :
    Prompt all (Ready all .statements state) state.log (blockTurn reader token read state) := by
  by_cases isBrace : state.stream.current.kind = .rightBrace
  · rw [blockTurn_of_brace isBrace]
    exact prompt_of_log_eq rfl
  by_cases ended : state.stream.current.kind = .endOfInput
  · rw [blockTurn_of_ended ended]
    exact prompt_told rfl rfl fun ⟨before, stands, awaits⟩ _ =>
      stands.timely awaits.viable rfl fun _ => ended
  · rw [blockTurn_of_statement isBrace ended]
    exact (prompt_statement prompts state).bind fun read after _ => prompt_of_log_eq rfl

variable (sound : Sound reader) (proceeds : ∀ level state, Proceeds (reader level) state)
include sound proceeds

omit prompts in
theorem ready_behind_statement {answer : Option Node} (ready : Ready all .statements state)
    (ran : statement reader state = .ok answer after) (silent : after.log = state.log) :
    Ready all .statements after.advance := by
  obtain ⟨before, stands, awaits⟩ := ready
  obtain ⟨phrase, isStatement, standsBehind⟩ :=
    exists_statement_of_silent sound proceeds stands ran silent
  exact ⟨_, standsBehind, awaits.behind_statement isStatement⟩

theorem prompt_block (isOpening : state.stream.current.kind = .leftBrace) :
    Prompt all (Ready all .block state) state.log (block reader state) := by
  have unfinished : state.stream.current.kind ≠ .endOfInput := by simp [isOpening]
  unfold block
  rw [bind_of_ok (current_run state), bind_of_ok (advance_run state)]
  have loop := prompt_repeatTurns (taking_blockTurn proceeds state.stream.current)
    (fun _ state => Ready all .statements state) (prompt_blockTurn prompts _) ?kept [] state.advance
  case kept =>
    intro read state following after ready turned silent
    obtain ⟨-, answer, between, ran, -, rfl⟩ := exists_statement_of_blockTurn turned
    exact ready_behind_statement sound proceeds ready ran silent
  refine loop.imp fun ⟨before, stands, awaits⟩ => ?_
  exact ⟨_, stands.advance unfinished, awaits.blockInside (.ofKind isOpening)⟩

/-! ### Operators and groups -/

omit prompts sound proceeds in
theorem prompt_integer (state : State) :
    Prompt all (Ready all .expression state) state.log (integer state) := by
  unfold integer
  rw [bind_of_ok (current_run state)]
  cases readInteger state.stream.current.literal with
  | value number => exact prompt_of_log_eq rfl
  | notANumeral => exact prompt_of_log_eq rfl
  | outOfRange =>
      exact prompt_told rfl rfl fun ⟨before, stands, awaits⟩ _ =>
        stands.timely awaits.viable rfl nofun

omit sound proceeds in
theorem prompt_unary (isOperator : state.stream.current.kind ∈ [.bang, .minus]) :
    Prompt all (Ready all .expression state) state.log (unary reader state) := by
  have unfinished : state.stream.current.kind ≠ .endOfInput :=
    ne_of_mem_of_not_mem isOperator (by simp)
  unfold unary
  rw [bind_of_ok (current_run state), bind_of_ok (advance_run state)]
  refine Prompt.bind ((prompts .unary state.advance).imp ?_) fun operand after _ =>
    prompt_of_log_eq rfl
  intro ⟨before, stands, awaits⟩
  exact ⟨_, stands.advance unfinished, awaits.operand ⟨_, isOperator⟩⟩

theorem prompt_group (isOpening : state.stream.current.kind = .leftParen) :
    Prompt all (Ready all .expression state) state.log (group reader state) := by
  have unfinished : state.stream.current.kind ≠ .endOfInput := by simp [isOpening]
  unfold group
  rw [bind_of_ok (advance_run state)]
  refine Prompt.bind ((prompts .lowest state.advance).imp ?_) fun inside between read => ?_
  · intro ⟨before, stands, awaits⟩
    exact ⟨_, stands.advance unfinished, awaits.groupInside (.ofKind isOpening)⟩
  refine prompt_whenNext rfl ?_ fun _ => prompt_of_log_eq rfl
  intro ⟨⟨before, stands, awaits⟩, silent⟩
  obtain ⟨phrase, isInside, standsBehind⟩ :=
    exists_expression_of_silent sound proceeds (stands.advance unfinished) read silent
  exact ⟨_, standsBehind, awaits.groupInside (.ofKind isOpening) phrase isInside⟩

/-- A parse stands behind an expression, in front of which any other one may stand in its
place. -/
def BehindExpression (all : List Token) (state : State) : Prop :=
  ∃ before left, Awaits .expression before ∧ Phrase .expression left ∧
    Stands all (before ++ left) state

omit sound proceeds in
theorem prompt_binary (left : Option Node)
    (isOperator : state.stream.current.kind ∈ binaryOperators) :
    Prompt all (BehindExpression all state) state.log (binary reader left state) := by
  have unfinished : state.stream.current.kind ≠ .endOfInput :=
    ne_of_mem_of_not_mem isOperator (by decide)
  unfold binary
  rw [bind_of_ok (current_run state), bind_of_ok (advance_run state)]
  refine Prompt.bind ((prompts _ state.advance).imp ?_) fun right after _ => ?_
  · intro ⟨before, phrase, awaits, isLeft, stands⟩
    exact ⟨_, stands.advance_append unfinished, awaits.rightOperand isLeft ⟨_, isOperator⟩⟩
  · split
    · exact prompt_of_log_eq rfl
    · exact prompt_of_log_eq rfl

/-! ### Calls -/

/-- A parse stands behind some arguments of a call, of which the current token is the last
one. -/
def BehindArguments (all : List Token) (state : State) : Prop :=
  ∃ before items, Awaits .arguments before ∧ Phrase .items items ∧
    Stands all (before ++ items) state.advance

omit prompts sound proceeds in
theorem BehindArguments.awaits_next (comma : state.stream.next.kind = .comma)
    (behind : BehindArguments all state) :
    ∃ before items, Awaits .arguments before ∧ Phrase .items items ∧
      Stands all (before ++ (items ++ [state.stream.next])) state.advance.advance := by
  obtain ⟨before, items, awaits, isItems, stands⟩ := behind
  have unfinished : state.advance.stream.current.kind ≠ .endOfInput := by
    change state.stream.next.kind ≠ .endOfInput
    simp [comma]
  exact ⟨before, items, awaits, isItems, stands.advance_append unfinished⟩

omit sound proceeds in
theorem prompt_argumentTurn (collected : List (Option Node)) (state : State) :
    Prompt all (BehindArguments all state) state.log (argumentTurn reader collected state) := by
  by_cases comma : state.stream.next.kind = .comma
  · rw [argumentTurn_of_comma comma]
    refine Prompt.bind ((prompts .lowest state.advance.advance).imp fun behind => ?_)
      fun argument after _ => prompt_of_log_eq rfl
    obtain ⟨before, items, awaits, isItems, stands⟩ := behind.awaits_next comma
    exact ⟨_, stands, awaits.nextArgument isItems (.ofKind comma)⟩
  · rw [argumentTurn_of_ne comma]
    exact prompt_of_log_eq rfl

omit prompts in
theorem behindArguments_of_argumentTurn {collected following : List (Option Node)}
    (behind : BehindArguments all state)
    (turned : argumentTurn reader collected state = .ok (.again following) after)
    (silent : after.log = state.log) : BehindArguments all after := by
  obtain ⟨comma, argument, read, -⟩ := exists_argument_of_again turned
  obtain ⟨before, items, awaits, isItems, stands⟩ := behind.awaits_next comma
  obtain ⟨phrase, isArgument, standsBehind⟩ :=
    exists_expression_of_silent sound proceeds stands read silent
  rw [List.append_assoc, List.append_assoc] at standsBehind
  exact ⟨before, _, awaits, isItems.items_concat (.ofKind comma) isArgument, standsBehind⟩

theorem prompt_arguments (state : State) :
    Prompt all (Ready all .arguments state.advance) state.log (arguments reader state) := by
  unfold arguments
  rw [bind_of_ok (next_run state)]
  by_cases empty : state.stream.next.kind = .rightParen
  · rw [if_pos empty, bind_of_ok (advance_run state)]
    exact prompt_of_log_eq rfl
  rw [if_neg empty, bind_of_ok (advance_run state)]
  refine Prompt.bind ((prompts .lowest state.advance).imp ?_) fun first between read => ?_
  · intro ⟨before, stands, awaits⟩
    exact ⟨before, stands, awaits.firstArgument⟩
  have leads : State.Leads Diagnostic.Ordinary state.advance between := (proceeds _ _).leads read
  have exists_first : Ready all .arguments state.advance ∧ between.log = state.log →
      ∃ before phrase, Awaits .arguments before ∧ Phrase .expression phrase ∧
        Stands all (before ++ phrase) between.advance ∧ between.stream.Lexed := by
    intro ⟨⟨before, stands, awaits⟩, silent⟩
    obtain ⟨phrase, isFirst, standsBehind⟩ :=
      exists_expression_of_silent sound proceeds stands read silent
    exact ⟨before, phrase, awaits, isFirst, standsBehind,
      stands.lexed.of_suffix leads.upcoming_suffix⟩
  have loop := prompt_repeatTurns (taking_argumentTurn proceeds)
    (fun _ state => BehindArguments all state) (prompt_argumentTurn prompts) ?kept [first] between
  case kept =>
    intro collected state following after behind turned silent
    exact behindArguments_of_argumentTurn sound proceeds behind turned silent
  refine Prompt.bind (loop.imp fun ready => ?_) fun arguments behind readOthers => ?_
  · obtain ⟨before, phrase, awaits, isFirst, stands, -⟩ := exists_first ready
    exact ⟨before, phrase, awaits, isFirst.items_of_expression, stands⟩
  refine prompt_whenNext rfl (fun ⟨ready, silent⟩ => ?_) fun _ => prompt_of_log_eq rfl
  obtain ⟨before, phrase, awaits, isFirst, stands, lexed⟩ := exists_first ready
  obtain ⟨others, -, -, upcoming⟩ := takesArguments sound proceeds [first] between lexed
    readOthers (Nat.le_of_eq (congrArg List.length silent))
  have proceedsOthers : Proceeds (repeatTurns (argumentTurn reader) [first]) between :=
    compatible_proceeds.otherArguments (related_self proceeds) proceeds [first] between
  have standsBehind : Stands all _ behind.advance :=
    stands.behind upcoming (proceedsOthers.leads readOthers).endToken_eq
  rw [List.append_assoc] at standsBehind
  exact ⟨_, standsBehind,
    awaits _ (.someArguments (itemsOthers isFirst.items_of_expression others))⟩

theorem prompt_call (callee : Option Node) (isOpening : state.stream.current.kind = .leftParen) :
    Prompt all (BehindExpression all state) state.log (call reader callee state) := by
  have unfinished : state.stream.current.kind ≠ .endOfInput := by simp [isOpening]
  unfold call
  rw [bind_of_ok (current_run state)]
  refine Prompt.bind ((prompt_arguments prompts sound proceeds state).imp ?_)
    fun read after _ => ?_
  · intro ⟨before, left, awaits, isLeft, stands⟩
    exact ⟨_, stands.advance_append unfinished, awaits.callArguments isLeft (.ofKind isOpening)⟩
  · split
    · exact prompt_of_log_eq rfl
    · exact prompt_of_log_eq rfl

/-! ### Parameters -/

/-- Behind some tokens any parameters may follow. -/
def AwaitsParameters (before : List Token) : Prop :=
  ∀ parameters : Parameters, Viable (before ++ parameters.yield)

/-- A parse stands behind some parameters, of which the current token is the last one. -/
def BehindParameters (all : List Token) (state : State) : Prop :=
  ∃ before first others, AwaitsParameters before ∧
    Stands all (before ++ (Parameters.names first others).yield) state.advance

section Parameters

omit prompts sound proceeds

theorem yield_names_concat (first : Terminal [.ident])
    (others : List (Terminal [.comma] × Terminal [.ident])) (comma : Terminal [.comma])
    (name : Terminal [.ident]) :
    (Parameters.names first (others ++ [(comma, name)])).yield =
      (Parameters.names first others).yield ++ [comma.token, name.token] := by
  rw [Parameters.yield, Parameters.yield, List.flatMap_append, List.flatMap_singleton,
    List.cons_append]

theorem prompt_parameterTurn (names : List Node) (state : State) :
    Prompt all (BehindParameters all state) state.log (parameterTurn names state) := by
  unfold parameterTurn
  rw [bind_of_ok (next_run state)]
  by_cases comma : state.stream.next.kind = .comma
  · have unfinished : state.advance.stream.current.kind ≠ .endOfInput := by
      change state.stream.next.kind ≠ .endOfInput
      simp [comma]
    rw [if_pos comma, bind_of_ok (advance_run state)]
    refine prompt_whenNext rfl ?_ fun _ => prompt_of_log_eq rfl
    intro ⟨before, first, others, awaits, stands⟩
    have viable := awaits (.names first (others ++ [(.ofKind comma, .sample .ident)]))
    rw [yield_names_concat, ← List.append_assoc] at viable
    exact ⟨_, stands.advance unfinished, viable.start⟩
  · rw [if_neg comma]
    refine prompt_whenNext rfl ?_ fun _ => prompt_of_log_eq rfl
    exact fun ⟨before, first, others, awaits, stands⟩ => ⟨_, stands, awaits _⟩

theorem behindParameters_of_parameterTurn {names following : List Node}
    (behind : BehindParameters all state)
    (turned : parameterTurn names state = .ok (.again following) after) :
    BehindParameters all after := by
  obtain ⟨comma, isName⟩ := comma_of_parameterTurn turned
  rw [parameterTurn_of_comma comma isName] at turned
  cases turned
  obtain ⟨before, first, others, awaits, stands⟩ := behind
  refine ⟨before, first, others ++ [(.ofKind comma, .ofKind isName)], awaits, ?_⟩
  rw [yield_names_concat, ← List.append_assoc]
  refine stands.behind ?_ rfl
  rw [upcoming_of_next comma nofun, upcoming_of_next isName nofun]
  rfl

theorem prompt_parameters (state : State) :
    Prompt all (∃ before, AwaitsParameters before ∧ Stands all before state.advance) state.log
      (parameters state) := by
  unfold parameters
  rw [bind_of_ok (next_run state)]
  by_cases empty : state.stream.next.kind = .rightParen
  · rw [if_pos empty, bind_of_ok (advance_run state)]
    exact prompt_of_log_eq rfl
  rw [if_neg empty]
  refine prompt_whenNext rfl ?_ fun isName => ?_
  · intro ⟨before, awaits, stands⟩
    exact ⟨before, stands, (awaits .none).of_append⟩
  rw [bind_of_ok (identifier_run state.advance)]
  have loop := prompt_repeatTurns taking_parameterTurn (fun _ state => BehindParameters all state)
    prompt_parameterTurn ?kept [.identifier state.stream.next state.stream.next.literal]
    state.advance
  case kept =>
    intro names state following after behind turned _
    exact behindParameters_of_parameterTurn behind turned
  refine loop.imp fun ⟨before, awaits, stands⟩ => ?_
  refine ⟨before, .ofKind isName, [], awaits, stands.behind ?_ rfl⟩
  rw [upcoming_of_next isName nofun]
  rfl

end Parameters

/-! ### Conditionals and functions -/

theorem prompt_alternative (state : State) :
    Prompt all (Ready all .alternative state.advance) state.log (alternative reader state) := by
  unfold alternative
  rw [bind_of_ok (next_run state)]
  by_cases isWord : state.stream.next.kind = .elseWord
  · have unfinished : state.advance.stream.current.kind ≠ .endOfInput := by
      change state.stream.next.kind ≠ .endOfInput
      simp [isWord]
    have ready_block : Ready all .alternative state.advance →
        Ready all .block state.advance.advance := fun ⟨before, stands, awaits⟩ =>
      ⟨_, stands.advance unfinished, awaits.otherwise (.ofKind isWord)⟩
    rw [if_pos isWord, bind_of_ok (advance_run state)]
    refine prompt_whenNext rfl (fun ready => ?_) fun isOpening => ?_
    · obtain ⟨before, stands, awaits⟩ := ready_block ready
      exact ⟨before, stands, awaits.viable⟩
    have isBrace : state.advance.advance.stream.current.kind = .leftBrace := isOpening
    exact ((prompt_block prompts sound proceeds isBrace).imp ready_block).bind
      fun read after _ => prompt_of_log_eq rfl
  · rw [if_neg isWord]
    exact prompt_of_log_eq rfl

omit prompts sound proceeds in
/-- A parse stands behind a word and the parenthesis after it. -/
theorem Ready.behind_parenthesis (unfinished : state.stream.current.kind ≠ .endOfInput)
    (isOpening : state.stream.next.kind = .leftParen) (ready : Ready all category state) :
    ∃ before, Awaits category before ∧
      Stands all (before ++ [state.stream.current, state.stream.next]) state.advance.advance := by
  obtain ⟨before, stands, awaits⟩ := ready
  refine ⟨before, awaits, stands.behind ?_ rfl⟩
  rw [upcoming_of_current rfl unfinished, upcoming_of_next isOpening nofun]
  rfl

/-- A parse stands behind the word of a conditional, a parenthesis and the condition. -/
def BehindCondition (all : List Token) (state : State) : Prop :=
  ∃ before test, ∃ (word : Terminal [.ifWord]) (opening : Terminal [.leftParen]),
    Awaits .expression before ∧ Phrase .expression test ∧
      Stands all (before ++ word.token :: opening.token :: test) state

omit prompts in
theorem behindCondition_of_silent {condition : Option Node}
    (isWord : state.stream.current.kind = .ifWord)
    (isOpening : state.stream.next.kind = .leftParen) (ready : Ready all .expression state)
    (read : reader .lowest state.advance.advance = .ok condition after)
    (silent : after.log = state.log) : BehindCondition all after.advance := by
  obtain ⟨before, awaits, stands⟩ := ready.behind_parenthesis (by simp [isWord]) isOpening
  obtain ⟨test, isTest, standsBehind⟩ :=
    exists_expression_of_silent sound proceeds stands read silent
  rw [List.append_assoc] at standsBehind
  exact ⟨before, test, .ofKind isWord, .ofKind isOpening, awaits, isTest, standsBehind⟩

omit prompts sound proceeds in
/-- Behind its closing parenthesis a condition has a block, and the alternative behind that. -/
theorem BehindCondition.exists_branches (isClosing : state.stream.current.kind = .rightParen)
    (behind : BehindCondition all state) :
    ∃ before, Stands all before state.advance ∧ Awaits .block before ∧
      ∀ block, Phrase .block block → Awaits .alternative (before ++ block) := by
  obtain ⟨before, test, word, opening, awaits, isTest, stands⟩ := behind
  have unfinished : state.stream.current.kind ≠ .endOfInput := by simp [isClosing]
  refine ⟨_, stands.advance_append unfinished,
    awaits.consequence word opening isTest (.ofKind isClosing), fun block isBlock => ?_⟩
  have awaitsAlternative := awaits.alternative word opening isTest (.ofKind isClosing) isBlock
  simp only [List.append_assoc, List.cons_append, List.nil_append]
  exact awaitsAlternative

theorem prompt_conditional (isWord : state.stream.current.kind = .ifWord) :
    Prompt all (Ready all .expression state) state.log (conditional reader state) := by
  have unfinished : state.stream.current.kind ≠ .endOfInput := by simp [isWord]
  unfold conditional
  rw [bind_of_ok (current_run state)]
  refine prompt_whenNext rfl (fun ⟨before, stands, awaits⟩ => ?_) fun isOpening => ?_
  · have awaitsCondition := awaits.condition (.ofKind isWord) (.sample .leftParen)
    exact ⟨_, stands.advance unfinished, awaitsCondition.viable.start⟩
  rw [bind_of_ok (advance_run state.advance)]
  refine Prompt.bind ((prompts .lowest state.advance.advance).imp fun ready => ?_)
    fun condition first read => ?_
  · obtain ⟨before, awaits, stands⟩ := ready.behind_parenthesis unfinished isOpening
    exact ⟨_, stands, awaits.condition (.ofKind isWord) (.ofKind isOpening)⟩
  -- What is required next depends on the condition that was read in silence.
  have behindCondition : Ready all .expression state ∧ first.log = state.log →
      BehindCondition all first.advance := fun ⟨ready, silent⟩ =>
    behindCondition_of_silent sound proceeds isWord isOpening ready read silent
  refine prompt_whenNext rfl (fun ready => ?_) fun isClosing => ?_
  · obtain ⟨before, test, word, opening, awaits, isTest, stands⟩ := behindCondition ready
    have awaitsBlock := awaits.consequence word opening isTest (.sample .rightParen)
    exact ⟨_, stands, awaitsBlock.viable.start⟩
  have isCurrent : first.advance.stream.current.kind = .rightParen := isClosing
  refine prompt_whenNext rfl (fun ready => ?_) fun isBrace => ?_
  · obtain ⟨before, stands, awaits, -⟩ := (behindCondition ready).exists_branches isCurrent
    exact ⟨before, stands, awaits.viable⟩
  have isBraceHere : first.advance.advance.stream.current.kind = .leftBrace := isBrace
  refine Prompt.bind ((prompt_block prompts sound proceeds isBraceHere).imp fun ready => ?_)
    fun consequence second readBlock => ?_
  · obtain ⟨before, stands, awaits, -⟩ := (behindCondition ready).exists_branches isCurrent
    exact ⟨before, stands, awaits⟩
  refine Prompt.bind ((prompt_alternative prompts sound proceeds second).imp ?_)
    fun otherwise third _ => ?_
  · intro ⟨ready, silent⟩
    obtain ⟨before, stands, -, awaits⟩ := (behindCondition ready).exists_branches isCurrent
    obtain ⟨_, _, _, _, -, -, behind⟩ := behindCondition ready
    obtain ⟨block, isBlock, standsBehind⟩ :=
      exists_block_of_silent sound proceeds isBrace behind.lexed stands readBlock silent
    exact ⟨_, standsBehind, awaits block isBlock⟩
  · split
    · exact prompt_of_log_eq rfl
    · exact prompt_of_log_eq rfl

theorem prompt_function (isWord : state.stream.current.kind = .functionWord) :
    Prompt all (Ready all .expression state) state.log (function reader state) := by
  have unfinished : state.stream.current.kind ≠ .endOfInput := by simp [isWord]
  unfold function
  rw [bind_of_ok (current_run state)]
  refine prompt_whenNext rfl (fun ⟨before, stands, awaits⟩ => ?_) fun isOpening => ?_
  · have awaitsBody := awaits.body (.ofKind isWord) (.sample .leftParen) .none
      (.sample .rightParen)
    exact ⟨_, stands.advance unfinished, awaitsBody.viable.start⟩
  refine Prompt.bind ((prompt_parameters state.advance).imp fun ready => ?_)
    fun names first readNames => ?_
  · obtain ⟨before, awaits, stands⟩ := ready.behind_parenthesis unfinished isOpening
    refine ⟨_, fun parameters => ?_, stands⟩
    have awaitsBody := awaits.body (.ofKind isWord) (.ofKind isOpening) parameters
      (.sample .rightParen)
    rw [List.append_assoc]
    exact awaitsBody.viable.start
  have proceedsNames : Proceeds parameters state.advance :=
    compatible_proceeds.parameters state.advance
  have ready_body : Ready all .expression state ∧ first.log = state.log →
      Ready all .block first.advance := by
    intro ⟨ready, silent⟩
    obtain ⟨before, awaits, stands⟩ := ready.behind_parenthesis unfinished isOpening
    obtain ⟨parameters, closing, -, upcoming⟩ :=
      took_parameters readNames (Nat.le_of_eq (congrArg List.length silent))
    rw [List.append_cons] at upcoming
    have standsBehind : Stands all _ first.advance :=
      stands.behind upcoming (proceedsNames.leads readNames).endToken_eq
    rw [List.append_assoc] at standsBehind
    exact ⟨_, standsBehind, awaits.body (.ofKind isWord) (.ofKind isOpening) parameters closing⟩
  cases names with
  | none => exact prompt_of_log_eq rfl
  | some names =>
      refine prompt_whenNext rfl (fun ready => ?_) fun isBrace => ?_
      · obtain ⟨before, stands, awaits⟩ := ready_body ready
        exact ⟨before, stands, awaits.viable⟩
      have isCurrent : first.advance.stream.current.kind = .leftBrace := isBrace
      exact ((prompt_block prompts sound proceeds isCurrent).imp ready_body).bind
        fun body after _ => prompt_of_log_eq rfl

/-- What starts an expression is read promptly where one may follow. -/
theorem prompt_opening {kind : TokenKind} {rule : OpeningRule} (opens : Rules.Opens kind rule)
    (isKind : state.stream.current.kind = kind) :
    Prompt all (Ready all .expression state) state.log (rule.read reader state) := by
  cases opens with
  | identifier => exact prompt_of_log_eq rfl
  | integer => exact prompt_integer state
  | boolean _ => exact prompt_of_log_eq rfl
  | unary listed =>
      rw [← isKind] at listed
      exact prompt_unary prompts listed
  | group => exact prompt_group prompts sound proceeds isKind
  | conditional => exact prompt_conditional prompts sound proceeds isKind
  | function => exact prompt_function prompts sound proceeds isKind

end Rules

end Parser

end MonkeySyntax
