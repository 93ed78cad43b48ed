import MonkeySyntax.Parser.Session
import MonkeySyntax.Proofs.Parser.Turns
import MonkeySyntax.Token.Scan

/-!
Contract: nothing is left out of a tree without a report.

Owns:
- what it means that a run explains itself: it takes no report back, and adds one when
  something is missing from its answer;
- that sequences and loops inherit this, where a part that is missing has been explained when
  it was read;
- every rule, for tables that lead to no rule which passes over a token, and the calls of a
  driven parse.

Does not own: which report explains what.
-/

set_option autoImplicit false

namespace MonkeySyntax

namespace Parser

variable {α β : Type} {state after : State} {log : List Report}

/-! ### Runs that explain themselves -/

/-- A run takes no report back, and adds one when something is missing from its answer. -/
structure Explains (isMissing : α → Prop) (log : List Report)
    (ended : EStateM.Result Abort State α) : Prop where
  grows : log <:+ (reached ended).log
  explains : ∀ answer after, ended = .ok answer after → isMissing answer →
    log.length < after.log.length

variable {isMissing : α → Prop} {ended : EStateM.Result Abort State α}

theorem Explains.imp {alsoMissing : α → Prop} (explains : Explains isMissing log ended)
    (fewer : ∀ answer, alsoMissing answer → isMissing answer) : Explains alsoMissing log ended :=
  ⟨explains.grows, fun answer after ran missing =>
    explains.explains answer after ran (fewer answer missing)⟩

theorem explains_pure {value : α} (isLog : state.log = log) (present : ¬ isMissing value) :
    Explains isMissing log ((pure value : ParseM α) state) := by
  refine ⟨isLog ▸ List.suffix_refl _, fun answer after ran missing => ?_⟩
  obtain ⟨rfl, rfl⟩ := pure_eq_ok ran
  exact absurd missing present

theorem explains_told {diagnostic : Diagnostic} (isLog : state.log = log)
    (reachedTold : reached ended = state.told diagnostic) : Explains isMissing log ended := by
  subst isLog
  refine ⟨reachedTold ▸ List.suffix_cons _ _, fun answer after ran _ => ?_⟩
  have isTold : after = state.told diagnostic := by
    rw [← reachedTold, ran]
    rfl
  rw [isTold]
  exact Nat.lt_succ_self _

/-- What is missing from the first part of a sequence has been explained there. -/
theorem Explains.bind {isMissingFirst : β → Prop} {step : ParseM β} {following : β → ParseM α}
    (explains : Explains isMissingFirst log (step state))
    (explainsLater : ∀ answer after, step state = .ok answer after →
      Explains (fun final => isMissing final ∧ ¬ isMissingFirst answer) after.log
        (following answer after)) :
    Explains isMissing log ((step >>= following) state) := by
  cases ran : step state with
  | error reason between =>
      rw [ran] at explains
      rw [bind_of_error ran]
      exact ⟨explains.grows, nofun⟩
  | ok first between =>
      rw [ran] at explains
      rw [bind_of_ok ran]
      have later := explainsLater first between ran
      refine ⟨explains.grows.trans later.grows, fun answer after ranLater missing => ?_⟩
      have grown : log.length ≤ between.log.length := explains.grows.length_le
      have grownLater : between.log.length ≤ after.log.length := by
        have suffix := later.grows
        rw [ranLater] at suffix
        exact suffix.length_le
      by_cases missingFirst : isMissingFirst first
      · have explained := explains.explains first between rfl missingFirst
        omega
      · have explained := later.explains answer after ranLater ⟨missing, missingFirst⟩
        omega

/-- Where a kind that is required does not come next, that is reported. -/
theorem explains_whenNext {kind : TokenKind} {found : ParseM α} {missed : α}
    (isLog : state.log = log) (explainsFound : Explains isMissing log (found state.advance)) :
    Explains isMissing log
      ((expectNext kind >>= fun isFound => if isFound = true then found else pure missed)
        state) := by
  by_cases ahead : state.stream.next.kind = kind
  · rw [bind_of_ok (expectNext_of_eq ahead)]
    exact explainsFound
  · rw [bind_of_ok (expectNext_of_ne ahead)]
    exact explains_told isLog rfl

/-- What is missing after a turn: from what is carried to the next one, or from the result. -/
def Turn.IsMissing (fromCarried : β → Prop) (fromResult : α → Prop) : Turn β α → Prop
  | .again following => fromCarried following
  | .done result => fromResult result

/-- A loop explains itself when each of its turns does, up to what was already missing
before it. -/
theorem explains_repeatTurns {turn : β → ParseM (Turn β α)} {fromCarried : β → Prop}
    {fromResult : α → Prop}
    (explains : ∀ carried state,
      Explains (fun decided => decided.IsMissing fromCarried fromResult ∧ ¬ fromCarried carried)
        state.log (turn carried state)) (carried : β) (state : State) :
    Explains (fun result => fromResult result ∧ ¬ fromCarried carried) state.log
      (repeatTurns turn carried state) := by
  have bounded : ∀ bound carried state,
      Explains (fun result => fromResult result ∧ ¬ fromCarried carried) state.log
        (turns turn bound carried state) := by
    intro bound
    induction bound with
    | zero => exact fun carried state => ⟨List.suffix_refl _, nofun⟩
    | succ bound inductionHypothesis =>
        intro carried state
        refine (explains carried state).bind fun decided after _ => ?_
        cases decided with
        | again following =>
            refine (inductionHypothesis following after).imp fun result missing => ?_
            exact ⟨missing.1.1, fun absent => missing.2 ⟨absent, missing.1.2⟩⟩
        | done result => exact explains_pure rfl fun missing => missing.2 missing.1
  exact bounded (state.stream.remaining + 1) carried state

/-- What is made of a part is missing only where the part is. -/
theorem not_missing_map {part : Option β} {make : β → α} :
    ¬ (part.map make = none ∧ ¬ part = none) :=
  fun missing => missing.2 (Option.map_eq_none_iff.mp missing.1)

/-! ### Statements -/

/-- A reader of expressions explains itself from every state on. -/
def ExplainsReader (reader : ExpressionReader) : Prop :=
  ∀ level state, Explains (· = none) state.log (reader level state)

section Rules

variable {reader : ExpressionReader} (explains : ExplainsReader reader)
include explains

theorem explains_closingExpression (state : State) :
    Explains (· = none) state.log (closingExpression reader state) := by
  unfold closingExpression
  refine (explains .lowest state).bind fun value between _ => ?_
  by_cases isClosed : between.stream.next.kind = .semicolon
  · rw [bind_of_ok (advanceTo_of_eq isClosed)]
    exact explains_pure rfl fun missing => missing.2 missing.1
  · rw [bind_of_ok (advanceTo_of_ne isClosed)]
    exact explains_pure rfl fun missing => missing.2 missing.1

theorem explains_letStatement (state : State) :
    Explains (· = none) state.log (letStatement reader state) := by
  unfold letStatement
  rw [bind_of_ok (current_run state)]
  refine explains_whenNext rfl ?_
  rw [bind_of_ok (identifier_run state.advance)]
  refine explains_whenNext rfl ?_
  rw [bind_of_ok (advance_run state.advance.advance)]
  exact (explains_closingExpression explains state.advance.advance.advance).bind
    fun value after _ => explains_pure rfl not_missing_map

theorem explains_returnStatement (state : State) :
    Explains (· = none) state.log (returnStatement reader state) := by
  unfold returnStatement
  rw [bind_of_ok (current_run state), bind_of_ok (advance_run state)]
  exact (explains_closingExpression explains state.advance).bind
    fun value after _ => explains_pure rfl not_missing_map

theorem explains_expressionStatement (state : State) :
    Explains (· = none) state.log (expressionStatement reader state) := by
  unfold expressionStatement
  rw [bind_of_ok (current_run state)]
  exact (explains_closingExpression explains state).bind
    fun value after _ => explains_pure rfl not_missing_map

theorem explains_statement (state : State) :
    Explains (· = none) state.log (statement reader state) := by
  rw [statement_run]
  by_cases isLet : state.stream.current.kind = .letWord
  · rw [if_pos isLet]
    exact explains_letStatement explains state
  by_cases isReturn : state.stream.current.kind = .returnWord
  · rw [if_neg isLet, if_pos isReturn]
    exact explains_returnStatement explains state
  · rw [if_neg isLet, if_neg isReturn]
    exact explains_expressionStatement explains state

theorem explains_blockTurn (token : Token) (read : List Node) (state : State) :
    Explains (Turn.IsMissing (fun _ => False) (· = none)) state.log
      (blockTurn reader token read state) := by
  unfold blockTurn
  rw [bind_of_ok (current_run state)]
  by_cases isBrace : state.stream.current.kind = .rightBrace
  · rw [if_pos isBrace]
    exact explains_pure rfl nofun
  by_cases ended : state.stream.current.kind = .endOfInput
  · rw [if_neg isBrace, if_pos ended]
    exact explains_told rfl rfl
  · rw [if_neg isBrace, if_neg ended]
    refine (explains_statement explains state).bind fun read after _ => ?_
    rw [bind_of_ok (advance_run after)]
    exact explains_pure rfl fun missing => missing.1

theorem explains_block (state : State) : Explains (· = none) state.log (block reader state) := by
  unfold block
  rw [bind_of_ok (current_run state), bind_of_ok (advance_run state)]
  have loop := explains_repeatTurns
    (fun read between => (explains_blockTurn explains state.stream.current read between).imp
      fun _ missing => missing.1) [] state.advance
  exact loop.imp fun _ missing => ⟨missing, id⟩

/-! ### Operators and groups -/

omit explains in
theorem explains_integer (state : State) :
    Explains (· = none) state.log (integer state) := by
  unfold integer
  rw [bind_of_ok (current_run state)]
  cases readInteger state.stream.current.literal with
  | value number => exact explains_pure rfl nofun
  | outOfRange => exact explains_told rfl rfl
  | notANumeral => exact ⟨List.suffix_refl _, nofun⟩

theorem explains_unary (state : State) : Explains (· = none) state.log (unary reader state) := by
  unfold unary
  rw [bind_of_ok (current_run state), bind_of_ok (advance_run state)]
  exact (explains .unary state.advance).bind fun operand after _ =>
    explains_pure rfl not_missing_map

/-- A left part that is missing is to be explained by whoever read it. -/
theorem explains_binary (left : Option Node) (state : State) :
    Explains (fun answer => answer = none ∧ ¬ left = none) state.log
      (binary reader left state) := by
  unfold binary
  rw [bind_of_ok (current_run state), bind_of_ok (advance_run state)]
  refine (explains _ state.advance).bind fun right after _ => ?_
  cases left with
  | none => exact explains_pure rfl fun missing => missing.1.2 rfl
  | some left =>
      cases right with
      | none => exact explains_pure rfl fun missing => missing.2 rfl
      | some right => exact explains_pure rfl nofun

theorem explains_group (state : State) : Explains (· = none) state.log (group reader state) := by
  unfold group
  rw [bind_of_ok (advance_run state)]
  refine (explains .lowest state.advance).bind fun inside after _ => ?_
  exact explains_whenNext rfl (explains_pure rfl fun missing => missing.2 missing.1)

/-! ### Calls -/

theorem explains_argumentTurn (collected : List (Option Node)) (state : State) :
    Explains (fun decided => decided.IsMissing (none ∈ ·) (none ∈ ·) ∧ ¬ none ∈ collected)
      state.log (argumentTurn reader collected state) := by
  unfold argumentTurn
  rw [bind_of_ok (next_run state)]
  by_cases comma : state.stream.next.kind = .comma
  · rw [if_pos comma, bind_of_ok (advance_run state), bind_of_ok (advance_run state.advance)]
    refine (explains .lowest state.advance.advance).bind fun argument after _ => ?_
    refine explains_pure rfl fun ⟨⟨missing, present⟩, alsoPresent⟩ => ?_
    rcases List.mem_cons.mp missing with absent | earlier
    · exact alsoPresent absent.symm
    · exact present earlier
  · rw [if_neg comma]
    exact explains_pure rfl fun ⟨missing, present⟩ => present (List.mem_reverse.mp missing)

omit explains in
theorem none_mem_of_allPresent {nodes : List (Option Node)} (missing : allPresent nodes = none) :
    none ∈ nodes := by
  induction nodes with
  | nil => cases missing
  | cons node nodes inductionHypothesis =>
      cases node with
      | none => exact List.mem_cons_self
      | some node =>
          exact List.mem_cons_of_mem _ (inductionHypothesis (Option.map_eq_none_iff.mp missing))

theorem explains_arguments (state : State) :
    Explains (· = none) state.log (arguments reader state) := by
  unfold arguments
  rw [bind_of_ok (next_run state)]
  by_cases empty : state.stream.next.kind = .rightParen
  · rw [if_pos empty, bind_of_ok (advance_run state)]
    exact explains_pure rfl nofun
  rw [if_neg empty, bind_of_ok (advance_run state)]
  refine (explains .lowest state.advance).bind fun first between _ => ?_
  refine (explains_repeatTurns (explains_argumentTurn explains) [first] between).bind
    fun all after _ => explains_whenNext rfl (explains_pure rfl ?_)
  intro ⟨⟨missing, present⟩, alsoPresent⟩
  refine alsoPresent ⟨none_mem_of_allPresent missing, fun absent => ?_⟩
  exact present (List.mem_singleton.mp absent).symm

theorem explains_call (callee : Option Node) (state : State) :
    Explains (fun answer => answer = none ∧ ¬ callee = none) state.log
      (call reader callee state) := by
  unfold call
  rw [bind_of_ok (current_run state)]
  refine (explains_arguments explains state).bind fun read after _ => ?_
  cases callee with
  | none => exact explains_pure rfl fun missing => missing.1.2 rfl
  | some callee =>
      cases read with
      | none => exact explains_pure rfl fun missing => missing.2 rfl
      | some arguments => exact explains_pure rfl nofun

/-! ### Conditionals and functions -/

theorem explains_alternative (state : State) :
    Explains (· = none) state.log (alternative reader state) := by
  unfold alternative
  rw [bind_of_ok (next_run state)]
  by_cases isWord : state.stream.next.kind = .elseWord
  · rw [if_pos isWord, bind_of_ok (advance_run state)]
    refine explains_whenNext rfl ?_
    exact (explains_block explains state.advance.advance).bind fun read after _ =>
      explains_pure rfl not_missing_map
  · rw [if_neg isWord]
    exact explains_pure rfl nofun

theorem explains_conditional (state : State) :
    Explains (· = none) state.log (conditional reader state) := by
  unfold conditional
  rw [bind_of_ok (current_run state)]
  refine explains_whenNext rfl ?_
  rw [bind_of_ok (advance_run state.advance)]
  refine (explains .lowest state.advance.advance).bind fun condition first _ => ?_
  refine explains_whenNext rfl (explains_whenNext rfl ?_)
  refine (explains_block explains first.advance.advance).bind fun consequence second _ => ?_
  refine (explains_alternative explains second).bind fun otherwise third _ => ?_
  cases condition with
  | none => exact explains_pure rfl fun missing => missing.1.1.2 rfl
  | some condition =>
      cases consequence with
      | none => exact explains_pure rfl fun missing => missing.1.2 rfl
      | some consequence =>
          cases otherwise with
          | none => exact explains_pure rfl fun missing => missing.2 rfl
          | some otherwise => exact explains_pure rfl nofun

omit explains in
theorem explains_parameterTurn (names : List Node) (state : State) :
    Explains (Turn.IsMissing (fun _ => False) (· = none)) state.log
      (parameterTurn names state) := by
  unfold parameterTurn
  rw [bind_of_ok (next_run state)]
  by_cases comma : state.stream.next.kind = .comma
  · rw [if_pos comma, bind_of_ok (advance_run state)]
    refine explains_whenNext rfl ?_
    rw [bind_of_ok (identifier_run state.advance.advance)]
    exact explains_pure rfl id
  · rw [if_neg comma]
    exact explains_whenNext rfl (explains_pure rfl nofun)

omit explains in
theorem explains_parameters (state : State) :
    Explains (· = none) state.log (parameters state) := by
  unfold parameters
  rw [bind_of_ok (next_run state)]
  by_cases empty : state.stream.next.kind = .rightParen
  · rw [if_pos empty, bind_of_ok (advance_run state)]
    exact explains_pure rfl nofun
  rw [if_neg empty]
  refine explains_whenNext rfl ?_
  rw [bind_of_ok (identifier_run state.advance)]
  have loop := explains_repeatTurns
    (fun names between => (explains_parameterTurn names between).imp fun _ missing => missing.1)
    [.identifier state.stream.next state.stream.next.literal] state.advance
  exact loop.imp fun _ missing => ⟨missing, id⟩

theorem explains_function (state : State) :
    Explains (· = none) state.log (function reader state) := by
  unfold function
  rw [bind_of_ok (current_run state)]
  refine explains_whenNext rfl ?_
  refine (explains_parameters state.advance).bind fun names first _ => ?_
  cases names with
  | none => exact explains_pure rfl fun missing => missing.2 rfl
  | some names =>
      refine explains_whenNext rfl ?_
      refine ((explains_block explains first.advance).bind fun body after _ => ?_).imp
        fun _ missing => missing.1
      exact explains_pure rfl not_missing_map

/-! ### Programs -/

theorem explains_programTurn (read : List Node) (state : State) :
    Explains (fun _ => False) state.log (programTurn reader read state) := by
  have explainsStatement : Explains (fun _ => False) state.log
      (unlessTooDeep (statement reader) state) :=
    ⟨reached_unlessTooDeep (statement reader) state ▸ (explains_statement explains state).grows,
      nofun⟩
  unfold programTurn
  rw [bind_of_ok (current_run state)]
  by_cases ended : state.stream.current.kind = .endOfInput
  · rw [if_pos ended]
    exact explains_pure rfl id
  rw [if_neg ended]
  refine explainsStatement.bind fun answer after _ => ?_
  cases answer with
  | none => exact explains_told rfl rfl
  | some node => exact explains_pure rfl fun missing => missing.1

theorem explains_program (state : State) :
    Explains (fun _ => False) state.log (program reader state) := by
  have turnExplains : ∀ read between, Explains
      (fun decided => decided.IsMissing (fun _ => False) (fun _ => False) ∧ ¬ False) between.log
      (programTurn reader read between) := by
    intro read between
    refine (explains_programTurn explains read between).imp fun decided missing => ?_
    cases decided <;> exact missing.1
  exact (explains_repeatTurns turnExplains [] state).imp fun _ missing => ⟨missing, id⟩

/-! ### Expressions -/

/-- A rule that passes over a token leaves no node and reports nothing. Every other one
explains itself. -/
theorem explains_opening {rule : OpeningRule} (notSkip : rule ≠ .skip) (state : State) :
    Explains (· = none) state.log (rule.read reader state) := by
  cases rule with
  | identifier => exact explains_pure rfl nofun
  | integer => exact explains_integer state
  | boolean => exact explains_pure rfl nofun
  | unary => exact explains_unary explains state
  | group => exact explains_group explains state
  | conditional => exact explains_conditional explains state
  | function => exact explains_function explains state
  | parameters =>
      exact (explains_parameters state).bind fun names after _ => explains_pure rfl not_missing_map
  | arguments =>
      exact (explains_arguments explains state).bind fun read after _ =>
        explains_pure rfl not_missing_map
  | block => exact explains_block explains state
  | letStatement => exact explains_letStatement explains state
  | returnStatement => exact explains_returnStatement explains state
  | expressionStatement => exact explains_expressionStatement explains state
  | statement => exact explains_statement explains state
  | program =>
      exact (explains_program explains state).bind fun statements after _ => explains_pure rfl nofun
  | skip => exact absurd rfl notSkip
  | currentLevel => exact explains_pure rfl nofun
  | nextLevel => exact explains_pure rfl nofun

theorem explains_continuation (rule : ContinuationRule) (left : Option Node) (state : State) :
    Explains (fun answer => answer = none ∧ ¬ left = none) state.log
      (rule.read reader left state) := by
  cases rule with
  | binary => exact explains_binary explains left state
  | call => exact explains_call explains left state

/-- What was missing before a turn stays unexplained by it. -/
theorem explains_continuationTurn (rules : Rules) (level : Precedence) (left : Option Node)
    (state : State) :
    Explains (fun decided => decided.IsMissing (· = none) (· = none) ∧ ¬ left = none) state.log
      (rules.continuationTurn reader level left state) := by
  by_cases tighter : level < state.stream.next.kind.precedence
  · cases found : rules.continuation state.stream.next.kind with
    | none =>
        rw [continuationTurn_of_none found]
        exact explains_pure rfl fun missing => missing.2 missing.1
    | some rule =>
        rw [continuationTurn_of_some tighter found]
        exact (explains_continuation explains rule left state.advance).bind
          fun read after _ => explains_pure rfl fun missing => missing.2 missing.1
  · rw [continuationTurn_of_not_lt tighter]
    exact explains_pure rfl fun missing => missing.2 missing.1

/-- No kind of token leads to the rule that passes over a token. -/
def Rules.NeverSkips (rules : Rules) : Prop :=
  ∀ kind, rules.opening kind ≠ some .skip

theorem explains_expressionBy {rules : Rules} (neverSkips : rules.NeverSkips) :
    ExplainsReader (rules.expressionBy reader) := by
  intro level state
  unfold Rules.expressionBy
  rw [bind_of_ok (current_run state)]
  cases found : rules.opening state.stream.current.kind with
  | none => exact explains_told rfl rfl
  | some rule =>
      have notSkip : rule ≠ .skip := fun isSkip => neverSkips _ (isSkip ▸ found)
      exact (explains_opening explains notSkip state).bind fun left after _ =>
        explains_repeatTurns (explains_continuationTurn explains rules level) left after

end Rules

theorem explains_deeper {limit : Nat} {step : ParseM α}
    (explains : ∀ state, Explains isMissing state.log (step state)) (state : State) :
    Explains isMissing state.log (deeper limit step state) := by
  unfold deeper
  by_cases exceeds : limit < state.depth + 1
  · rw [if_pos exceeds]
    exact ⟨List.suffix_refl _, nofun⟩
  rw [if_neg exceeds]
  have explainsInside := explains { state with depth := state.depth + 1 }
  cases ran : step { state with depth := state.depth + 1 } with
  | error reason after =>
      rw [ran] at explainsInside
      exact ⟨explainsInside.grows, nofun⟩
  | ok answer after =>
      rw [ran] at explainsInside
      refine ⟨explainsInside.grows, fun final ended same missing => ?_⟩
      cases same
      exact explainsInside.explains answer after rfl missing

theorem explains_expressionBelow {rules : Rules} (neverSkips : rules.NeverSkips)
    (limit levels : Nat) : ExplainsReader (rules.expressionBelow limit levels) := by
  induction levels with
  | zero => exact fun level state => ⟨List.suffix_refl _, nofun⟩
  | succ levels inductionHypothesis =>
      intro level state
      exact explains_deeper (explains_expressionBy inductionHypothesis neverSkips level) state

/-! ### Calls of a driven parse -/

namespace Rules

theorem neverSkips_standard : standard.NeverSkips := by
  have all : ∀ kind ∈ TokenKind.all, standard.opening kind ≠ some .skip := by decide
  exact fun kind => all kind kind.mem_all

/-- Only a call that brings the rule in changes that, so no call that takes rules away
does. -/
theorem NeverSkips.rulesAfter {rules : Rules} (neverSkips : rules.NeverSkips) {call : Call}
    (isOther : ∀ kind, call ≠ .setOpening kind .skip) :
    (call.rulesAfter rules).NeverSkips := by
  intro asked
  cases call with
  | setOpening kind rule =>
      change (if asked = kind then some rule else rules.opening asked) ≠ some .skip
      split
      · rintro ⟨⟩
        exact isOther kind rfl
      · exact neverSkips asked
  | removeOpening kind =>
      change (if asked = kind then none else rules.opening asked) ≠ some .skip
      split
      · exact nofun
      · exact neverSkips asked
  | _ => exact neverSkips asked

end Rules

end Parser

/-- A run that has explained what it misses has new messages. -/
theorem Parser.Explains.exists_messages {α : Type} {isMissing : α → Prop} {state after : State}
    {ended : EStateM.Result Abort State α} {answer : α}
    (explains : Explains isMissing state.log ended) (ran : ended = .ok answer after)
    (missing : isMissing answer) :
    ∃ messages, messages ≠ [] ∧ after.errors = state.errors ++ messages := by
  have grown := explains.explains answer after ran missing
  obtain ⟨added, logged⟩ := explains.grows
  rw [ran] at logged
  change added ++ state.log = after.log at logged
  refine ⟨added.reverse.map Report.message, ?_, ?_⟩
  · intro nothing
    have isEmpty := List.reverse_eq_nil_iff.mp (List.map_eq_nil_iff.mp nothing)
    rw [← logged, isEmpty] at grown
    exact Nat.lt_irrefl _ grown
  · unfold State.errors State.reports
    rw [← logged, List.reverse_append, List.map_append]

/-- A call that answers with no node has reported something, from any state on and by any
tables that lead to no rule which passes over a token. Those are the ones of the language,
whatever is taken away from them. Passing over a token is itself such a call, and a
construct that takes in a left part leaves it to others to explain why there is none. -/
theorem exists_messages_of_perform (parser : Parser) (call : Parser.Call) {after : Parser}
    (neverSkips : parser.rules.NeverSkips) (notSkip : call ≠ .opening .skip)
    (hasLeft : ∀ rule, call ≠ .continuation rule none)
    (ran : parser.perform call = (.ok (.node none), after)) :
    ∃ messages, messages ≠ [] ∧ after.state.errors = parser.state.errors ++ messages := by
  have explains : Parser.ExplainsReader (parser.rules.reader parser.limit) :=
    Parser.explains_expressionBelow neverSkips parser.limit _
  have runs : call.run parser.rules (parser.rules.reader parser.limit) parser.state =
      .ok (.node none) after.state := by
    unfold Parser.perform at ran
    split at ran
    · rename_i answered
      cases ran
      exact answered
    · cases ran
  cases call with
  | expression level =>
      obtain ⟨answer, between, read, same⟩ := Parser.bind_eq_ok runs
      cases same
      exact (explains level parser.state).exists_messages read rfl
  | expressionHere level =>
      obtain ⟨answer, between, read, same⟩ := Parser.bind_eq_ok runs
      cases same
      exact (Parser.explains_expressionBy explains neverSkips level
        parser.state).exists_messages read rfl
  | opening rule =>
      obtain ⟨answer, between, read, same⟩ := Parser.bind_eq_ok runs
      cases same
      have isOther : rule ≠ .skip := fun isSkip => notSkip (congrArg _ isSkip)
      exact (Parser.explains_opening explains isOther parser.state).exists_messages read rfl
  | continuation rule left =>
      obtain ⟨answer, between, read, same⟩ := Parser.bind_eq_ok runs
      cases same
      have isPresent : left ≠ none := fun absent => hasLeft rule (congrArg _ absent)
      exact (Parser.explains_continuation explains rule left parser.state).exists_messages read
        ⟨rfl, isPresent⟩
  | expectNext kind =>
      obtain ⟨_, _, _, same⟩ := Parser.bind_eq_ok runs
      cases same
  | _ => cases runs

theorem eq_ok_of_toOption {ε α : Type} {result : Except ε α} {value : α}
    (isValue : result.toOption = some value) : result = .ok value := by
  cases result with
  | ok answer => exact congrArg Except.ok (Option.some.inj isValue)
  | error reason => cases isValue

/-- Without the rule of integers the value of a binding is missing, and that is reported. -/
theorem exists_messages_of_integer_removed :
    ∃ parser after : Parser,
      parser = (Parser.ofStream 100 (.ofString "let x = 5")).performAll [.removeOpening .int] ∧
      parser.perform (.opening .letStatement) = (.ok (.node none), after) ∧
      ∃ messages, messages ≠ [] ∧ after.state.errors = parser.state.errors ++ messages := by
  have neverSkips := Parser.Rules.neverSkips_standard.rulesAfter
    (fun kind => (nofun : Parser.Call.removeOpening .int ≠ .setOpening kind .skip))
  have answered : ((((Parser.ofStream 100 (.ofString "let x = 5")).performAll
      [.removeOpening .int]).perform (.opening .letStatement)).1).toOption =
        some (.node none) := by
    decide +kernel
  have ran := eq_ok_of_toOption answered
  exact ⟨_, _, rfl, Prod.ext ran rfl,
    exists_messages_of_perform _ (.opening .letStatement) neverSkips nofun nofun
      (Prod.ext ran rfl)⟩

end MonkeySyntax
