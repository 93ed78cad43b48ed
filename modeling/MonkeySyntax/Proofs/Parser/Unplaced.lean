import MonkeySyntax.Proofs.Parser.Completion
import MonkeySyntax.Proofs.Tree.Unplaced

/-!
Contract: a parse does not look at positions.

Owns:
- reports and states without positions;
- that leaving out the positions before a run or after it comes to the same, for single
  steps, sequences and loops, and from them for every rule of the language;
- that two texts whose tokens differ in their positions only have the same errors, and
  trees that differ in the positions only;
- that the layout of a text does not matter to its errors and to what is shown of its tree.

The runs that are compared start from different states and answer with different trees. So
the second one is not the first one again: it is the first one on tokens without positions.
-/

set_option autoImplicit false

namespace MonkeySyntax

/-- A report without the positions of the tokens in view. -/
def Report.unplaced (report : Report) : Report :=
  ⟨report.diagnostic, report.current.unplaced, report.next.unplaced⟩

namespace Parser

/-- A state without positions. -/
def State.unplaced (state : State) : State :=
  ⟨state.stream.unplaced, state.log.map Report.unplaced, state.depth⟩

theorem State.errors_unplaced (state : State) : state.unplaced.errors = state.errors := by
  unfold errors reports unplaced
  rw [← List.map_reverse, List.map_map]
  rfl

theorem State.advance_unplaced (state : State) :
    state.unplaced.advance = state.advance.unplaced := by
  unfold advance unplaced
  rw [TokenStream.advance_unplaced]

theorem State.told_unplaced (state : State) (diagnostic : Diagnostic) :
    state.unplaced.told diagnostic = (state.told diagnostic).unplaced := by
  unfold told unplaced
  rw [TokenStream.current_unplaced, TokenStream.next_unplaced]
  rfl

variable {α β γ δ : Type} {ofAnswer : α → β} {ofLater : γ → δ}

/-! ### Steps, sequences and loops -/

/-- The outcome of a run without positions, which are left out of its answer in a way of
its own. -/
def outcomeUnplaced (ofAnswer : α → β) :
    EStateM.Result Abort State α → EStateM.Result Abort State β
  | .ok answer after => .ok (ofAnswer answer) after.unplaced
  | .error reason after => .error reason after.unplaced

/-- A run that does not look at positions: where they are left out before it, it does what
the given run does when they are left out after it. -/
def Blind (ofAnswer : α → β) (step : ParseM α) (blind : ParseM β) : Prop :=
  ∀ state, blind state.unplaced = outcomeUnplaced ofAnswer (step state)

theorem blind_pure {value : α} {result : β} (same : result = ofAnswer value) :
    Blind ofAnswer (pure value) (pure result) := by
  intro state
  rw [same]
  rfl

theorem Blind.bind {step : ParseM α} {step' : ParseM β} {following : α → ParseM γ}
    {following' : β → ParseM δ} (blind : Blind ofAnswer step step')
    (blindLater : ∀ answer, Blind ofLater (following answer) (following' (ofAnswer answer))) :
    Blind ofLater (step >>= following) (step' >>= following') := by
  intro state
  have same := blind state
  cases ran : step state with
  | ok answer after =>
      rw [ran] at same
      rw [bind_of_ok ran, bind_of_ok same]
      exact blindLater answer after
  | error reason after =>
      rw [ran] at same
      rw [bind_of_error ran, bind_of_error same]
      rfl

theorem blind_ite {test : Prop} [Decidable test] {yes no : ParseM α} {yes' no' : ParseM β}
    (whenTrue : Blind ofAnswer yes yes') (whenFalse : Blind ofAnswer no no') :
    Blind ofAnswer (if test then yes else no) (if test then yes' else no') := by
  by_cases holds : test
  · rw [if_pos holds, if_pos holds]
    exact whenTrue
  · rw [if_neg holds, if_neg holds]
    exact whenFalse

theorem blind_current : Blind Token.unplaced current current := by
  intro state
  rw [current_run, current_run]
  change EStateM.Result.ok state.stream.unplaced.current _ = _
  rw [TokenStream.current_unplaced]
  rfl

theorem blind_next : Blind Token.unplaced next next := by
  intro state
  rw [next_run, next_run]
  change EStateM.Result.ok state.stream.unplaced.next _ = _
  rw [TokenStream.next_unplaced]
  rfl

theorem blind_advance : Blind id advance advance := by
  intro state
  rw [advance_run, advance_run, State.advance_unplaced]
  rfl

theorem blind_report (diagnostic : Diagnostic) :
    Blind id (report diagnostic) (report diagnostic) := by
  intro state
  rw [report_run, report_run, State.told_unplaced]
  rfl

theorem blind_abandon (reason : Abort) : Blind ofAnswer (abandon reason) (abandon reason) :=
  fun _ => rfl

theorem blind_unlessTooDeep {step : ParseM α} {step' : ParseM β}
    (blind : Blind ofAnswer step step') :
    Blind (Option.map ofAnswer) (unlessTooDeep step) (unlessTooDeep step') := by
  intro state
  unfold unlessTooDeep
  rw [blind state]
  cases step state with
  | ok answer after => rfl
  | error reason after => cases reason <;> rfl

/-- What a turn decides, without positions in what it carries on and in its result. -/
def Turn.map (ofCarried : α → β) (ofResult : γ → δ) : Turn α γ → Turn β δ
  | .again carried => .again (ofCarried carried)
  | .done result => .done (ofResult result)

theorem blind_turns {turn : α → ParseM (Turn α γ)} {turn' : β → ParseM (Turn β δ)}
    (blind : ∀ carried, Blind (Turn.map ofAnswer ofLater) (turn carried) (turn' (ofAnswer carried)))
    (bound : Nat) (carried : α) :
    Blind ofLater (turns turn bound carried) (turns turn' bound (ofAnswer carried)) := by
  induction bound generalizing carried with
  | zero => exact blind_abandon .stalled
  | succ bound inductionHypothesis =>
      apply (blind carried).bind
      intro decided
      cases decided with
      | again following => exact inductionHypothesis following
      | done result => exact blind_pure rfl

/-- As many tokens are left without their positions, so a loop has as many turns. -/
theorem blind_repeatTurns {turn : α → ParseM (Turn α γ)} {turn' : β → ParseM (Turn β δ)}
    (blind : ∀ carried, Blind (Turn.map ofAnswer ofLater) (turn carried) (turn' (ofAnswer carried)))
    (carried : α) :
    Blind ofLater (repeatTurns turn carried) (repeatTurns turn' (ofAnswer carried)) := by
  intro state
  have counted : state.unplaced.stream.remaining = state.stream.remaining :=
    state.stream.remaining_unplaced
  change turns turn' (state.unplaced.stream.remaining + 1) _ _ =
    outcomeUnplaced ofLater (turns turn (state.stream.remaining + 1) carried state)
  rw [counted]
  exact blind_turns blind _ carried state

/-! ### Statements -/

/-- The answer of a rule without positions. -/
abbrev answerUnplaced : Option Node → Option Node := Option.map Node.unplaced

theorem blind_reportUnexpected (kind : TokenKind) :
    Blind id (reportUnexpected kind) (reportUnexpected kind) :=
  blind_next.bind fun _ => blind_report _

theorem blind_expectNext (kind : TokenKind) : Blind id (expectNext kind) (expectNext kind) := by
  apply blind_next.bind
  intro ahead
  apply blind_ite
  · exact blind_advance.bind fun _ => blind_pure rfl
  · exact (blind_reportUnexpected kind).bind fun _ => blind_pure rfl

theorem blind_whenNext {kind : TokenKind} {found missed : ParseM α} {found' missed' : ParseM β}
    (whenFound : Blind ofAnswer found found') (whenMissed : Blind ofAnswer missed missed') :
    Blind ofAnswer (expectNext kind >>= fun isFound => if isFound = true then found else missed)
      (expectNext kind >>= fun isFound => if isFound = true then found' else missed') :=
  (blind_expectNext kind).bind fun _ => blind_ite whenFound whenMissed

theorem blind_advanceTo (kind : TokenKind) : Blind id (advanceTo kind) (advanceTo kind) :=
  blind_next.bind fun _ => blind_ite blind_advance (blind_pure rfl)

theorem blind_identifier : Blind Node.unplaced identifier identifier := by
  apply blind_current.bind
  intro token
  apply blind_pure
  rw [Node.unplaced]
  rfl

theorem blind_boolean : Blind Node.unplaced boolean boolean := by
  apply blind_current.bind
  intro token
  apply blind_pure
  rw [Node.unplaced]
  rfl

theorem blind_integer : Blind answerUnplaced integer integer := by
  apply blind_current.bind
  intro token
  rw [Token.literal_unplaced]
  cases readInteger token.literal with
  | value number =>
      apply blind_pure
      rw [answerUnplaced, Option.map_some, Node.unplaced]
  | outOfRange => exact (blind_report _).bind fun _ => blind_pure rfl
  | notANumeral => exact blind_abandon _

/-- A node that is put around an answer, if there is one. -/
theorem blind_pure_map {wrap wrap' : Node → Node} {answer : Option Node}
    (wraps : ∀ node, (wrap node).unplaced = wrap' node.unplaced) :
    Blind answerUnplaced (pure (answer.map wrap)) (pure ((answerUnplaced answer).map wrap')) := by
  apply blind_pure
  cases answer with
  | none => rfl
  | some node => exact congrArg some (wraps node).symm

section Statements

variable {reader : ExpressionReader}
  (blind : ∀ level, Blind answerUnplaced (reader level) (reader level))
include blind

theorem blind_closingExpression :
    Blind answerUnplaced (closingExpression reader) (closingExpression reader) :=
  (blind .lowest).bind fun _ => (blind_advanceTo .semicolon).bind fun _ => blind_pure rfl

theorem blind_letStatement : Blind answerUnplaced (letStatement reader) (letStatement reader) := by
  apply blind_current.bind
  intro token
  refine blind_whenNext ?_ (blind_pure rfl)
  apply blind_identifier.bind
  intro name
  refine blind_whenNext ?_ (blind_pure rfl)
  apply blind_advance.bind
  intro _
  apply (blind_closingExpression blind).bind
  intro value
  exact blind_pure_map fun node => by rw [Node.unplaced]

theorem blind_returnStatement :
    Blind answerUnplaced (returnStatement reader) (returnStatement reader) := by
  apply blind_current.bind
  intro token
  apply blind_advance.bind
  intro _
  apply (blind_closingExpression blind).bind
  intro value
  exact blind_pure_map fun node => by rw [Node.unplaced]

theorem blind_expressionStatement :
    Blind answerUnplaced (expressionStatement reader) (expressionStatement reader) := by
  apply blind_current.bind
  intro token
  apply (blind_closingExpression blind).bind
  intro value
  exact blind_pure_map fun node => by rw [Node.unplaced]

theorem blind_statement : Blind answerUnplaced (statement reader) (statement reader) := by
  apply blind_current.bind
  intro token
  rw [Token.kind_unplaced]
  split
  · exact blind_letStatement blind
  · exact blind_returnStatement blind
  · exact blind_expressionStatement blind

end Statements

/-! ### Lists -/

/-- Some names or arguments without positions, if they could be read. -/
abbrev answersUnplaced : Option (List Node) → Option (List Node) :=
  Option.map (List.map Node.unplaced)

theorem blind_parameterTurn (names : List Node) :
    Blind (Turn.map (List.map Node.unplaced) answersUnplaced) (parameterTurn names)
      (parameterTurn (names.map Node.unplaced)) := by
  apply blind_next.bind
  intro ahead
  apply blind_ite
  · apply blind_advance.bind
    intro _
    refine blind_whenNext ?_ (blind_pure rfl)
    exact blind_identifier.bind fun name => blind_pure rfl
  · refine blind_whenNext ?_ (blind_pure rfl)
    apply blind_pure
    rw [← List.map_reverse]
    rfl

theorem blind_parameters : Blind answersUnplaced parameters parameters := by
  apply blind_next.bind
  intro ahead
  apply blind_ite
  · exact blind_advance.bind fun _ => blind_pure rfl
  · refine blind_whenNext ?_ (blind_pure rfl)
    exact blind_identifier.bind fun name => blind_repeatTurns blind_parameterTurn [name]

theorem allPresent_map (answers : List (Option Node)) :
    allPresent (answers.map answerUnplaced) = answersUnplaced (allPresent answers) := by
  induction answers with
  | nil => rfl
  | cons answer answers inductionHypothesis =>
      cases answer with
      | none => rfl
      | some node =>
          rw [List.map_cons, answerUnplaced, Option.map_some, allPresent, inductionHypothesis,
            allPresent]
          cases allPresent answers <;> rfl

section Rules

variable {reader : ExpressionReader}
  (blind : ∀ level, Blind answerUnplaced (reader level) (reader level))
include blind

theorem blind_argumentTurn (collected : List (Option Node)) :
    Blind (Turn.map (List.map answerUnplaced) (List.map answerUnplaced))
      (argumentTurn reader collected) (argumentTurn reader (collected.map answerUnplaced)) := by
  apply blind_next.bind
  intro ahead
  apply blind_ite
  · apply blind_advance.bind
    intro _
    apply blind_advance.bind
    intro _
    exact (blind .lowest).bind fun argument => blind_pure rfl
  · apply blind_pure
    rw [← List.map_reverse]
    rfl

theorem blind_arguments : Blind answersUnplaced (arguments reader) (arguments reader) := by
  apply blind_next.bind
  intro ahead
  apply blind_ite
  · exact blind_advance.bind fun _ => blind_pure rfl
  · apply blind_advance.bind
    intro _
    apply (blind .lowest).bind
    intro first
    apply (blind_repeatTurns (blind_argumentTurn blind) [first]).bind
    intro all
    exact blind_whenNext (blind_pure (allPresent_map all)) (blind_pure rfl)

/-! ### Blocks -/

theorem blind_blockTurn (token : Token) (statements : List Node) :
    Blind (Turn.map (List.map Node.unplaced) answerUnplaced) (blockTurn reader token statements)
      (blockTurn reader token.unplaced (statements.map Node.unplaced)) := by
  apply blind_current.bind
  intro ahead
  apply blind_ite
  · apply blind_pure
    rw [Turn.map, answerUnplaced, Option.map_some, Node.unplaced, Node.unplacedAll_eq_map,
      List.map_reverse]
  apply blind_ite
  · exact (blind_report _).bind fun _ => blind_pure rfl
  · apply (blind_statement blind).bind
    intro read
    apply blind_advance.bind
    intro _
    apply blind_pure
    cases read <;> rfl

theorem blind_block : Blind answerUnplaced (block reader) (block reader) := by
  apply blind_current.bind
  intro token
  exact blind_advance.bind fun _ => blind_repeatTurns (blind_blockTurn blind token) []

/-! ### Expressions -/

theorem blind_unary : Blind answerUnplaced (unary reader) (unary reader) := by
  apply blind_current.bind
  intro token
  apply blind_advance.bind
  intro _
  apply (blind .unary).bind
  intro operand
  exact blind_pure_map fun node => by rw [Node.unplaced, Token.literal_unplaced]

theorem blind_binary (left : Option Node) :
    Blind answerUnplaced (binary reader left) (binary reader (answerUnplaced left)) := by
  apply blind_current.bind
  intro token
  apply blind_advance.bind
  intro _
  apply (blind token.kind.precedence).bind
  intro right
  cases left with
  | none => exact blind_pure rfl
  | some left =>
      cases right with
      | none => exact blind_pure rfl
      | some right =>
          apply blind_pure
          rw [answerUnplaced, Option.map_some, Node.unplaced, Token.literal_unplaced]

theorem blind_group : Blind answerUnplaced (group reader) (group reader) := by
  apply blind_advance.bind
  intro _
  apply (blind .lowest).bind
  intro inside
  exact blind_whenNext (blind_pure rfl) (blind_pure rfl)

theorem blind_call (callee : Option Node) :
    Blind answerUnplaced (call reader callee) (call reader (answerUnplaced callee)) := by
  apply blind_current.bind
  intro token
  apply (blind_arguments blind).bind
  intro read
  cases callee with
  | none => exact blind_pure rfl
  | some callee =>
      cases read with
      | none => exact blind_pure rfl
      | some arguments =>
          apply blind_pure
          rw [answerUnplaced, Option.map_some, Node.unplaced, Node.unplacedAll_eq_map]

theorem blind_alternative :
    Blind (Option.map answerUnplaced) (alternative reader) (alternative reader) := by
  apply blind_next.bind
  intro ahead
  apply blind_ite
  · apply blind_advance.bind
    intro _
    refine blind_whenNext ?_ (blind_pure rfl)
    apply (blind_block blind).bind
    intro read
    apply blind_pure
    cases read <;> rfl
  · exact blind_pure rfl

theorem blind_conditional : Blind answerUnplaced (conditional reader) (conditional reader) := by
  apply blind_current.bind
  intro token
  refine blind_whenNext ?_ (blind_pure rfl)
  apply blind_advance.bind
  intro _
  apply (blind .lowest).bind
  intro condition
  refine blind_whenNext ?_ (blind_pure rfl)
  refine blind_whenNext ?_ (blind_pure rfl)
  apply (blind_block blind).bind
  intro consequence
  apply (blind_alternative blind).bind
  intro otherwise
  cases condition with
  | none => exact blind_pure rfl
  | some condition =>
      cases consequence with
      | none => exact blind_pure rfl
      | some consequence =>
          cases otherwise with
          | none => exact blind_pure rfl
          | some otherwise =>
              apply blind_pure
              rw [answerUnplaced, Option.map_some, Node.unplaced_conditional]

theorem blind_function : Blind answerUnplaced (function reader) (function reader) := by
  apply blind_current.bind
  intro token
  refine blind_whenNext ?_ (blind_pure rfl)
  apply blind_parameters.bind
  intro names
  cases names with
  | none => exact blind_pure rfl
  | some names =>
      refine blind_whenNext ?_ (blind_pure rfl)
      apply (blind_block blind).bind
      intro body
      exact blind_pure_map fun node => by rw [Node.unplaced, Node.unplacedAll_eq_map]

theorem blind_openingRule {kind : TokenKind} {rule : OpeningRule}
    (opens : Rules.Opens kind rule) :
    Blind answerUnplaced (rule.read reader) (rule.read reader) := by
  cases opens with
  | identifier => exact blind_identifier.bind fun _ => blind_pure rfl
  | integer => exact blind_integer
  | boolean => exact blind_boolean.bind fun _ => blind_pure rfl
  | unary => exact blind_unary blind
  | group => exact blind_group blind
  | conditional => exact blind_conditional blind
  | function => exact blind_function blind

theorem blind_continuationRule (rule : ContinuationRule) (left : Option Node) :
    Blind answerUnplaced (rule.read reader left) (rule.read reader (answerUnplaced left)) := by
  cases rule with
  | binary => exact blind_binary blind left
  | call => exact blind_call blind left

theorem blind_continuationTurn (rules : Rules) (level : Precedence) (left : Option Node) :
    Blind (Turn.map answerUnplaced answerUnplaced) (rules.continuationTurn reader level left)
      (rules.continuationTurn reader level (answerUnplaced left)) := by
  apply blind_next.bind
  intro ahead
  apply blind_ite
  · rw [Token.kind_unplaced]
    cases rules.continuation ahead.kind with
    | none => exact blind_pure rfl
    | some rule =>
        apply blind_advance.bind
        intro _
        exact (blind_continuationRule blind rule left).bind fun _ => blind_pure rfl
  · exact blind_pure rfl

theorem blind_expressionBy (level : Precedence) :
    Blind answerUnplaced (Rules.standard.expressionBy reader level)
      (Rules.standard.expressionBy reader level) := by
  apply blind_current.bind
  intro token
  rw [Token.kind_unplaced]
  cases found : Rules.standard.opening token.kind with
  | none => exact (blind_report _).bind fun _ => blind_pure rfl
  | some rule =>
      apply (blind_openingRule blind (Rules.opens_of_opening found)).bind
      intro left
      exact blind_repeatTurns (blind_continuationTurn blind Rules.standard level) left

/-! ### Programs -/

theorem blind_programTurn (statements : List Node) :
    Blind (Turn.map (List.map Node.unplaced) (List.map Node.unplaced))
      (programTurn reader statements) (programTurn reader (statements.map Node.unplaced)) := by
  apply blind_current.bind
  intro ahead
  apply blind_ite
  · apply blind_pure
    rw [Turn.map, List.map_reverse]
  · apply (blind_unlessTooDeep (blind_statement blind)).bind
    intro decided
    cases decided with
    | none =>
        apply (blind_report _).bind
        intro _
        apply blind_pure
        rw [Turn.map, List.map_reverse]
    | some read =>
        apply blind_advance.bind
        intro _
        apply blind_pure
        cases read <;> rfl

theorem blind_program :
    Blind (List.map Node.unplaced) (program reader) (program reader) :=
  blind_repeatTurns (blind_programTurn blind) []

end Rules

/-- Reading an expression does not look at positions, whatever the number of levels. -/
theorem blind_expression (levels : Nat) (level : Precedence) :
    Blind answerUnplaced (Rules.standard.expression levels level)
      (Rules.standard.expression levels level) := by
  induction levels generalizing level with
  | zero => exact blind_abandon .nestedTooDeeply
  | succ levels inductionHypothesis => exact blind_expressionBy inductionHypothesis level

/-- Programs that are read from tokens which differ in their positions only differ in
positions only, and so do the reports. -/
theorem program_of_unplaced {levels : Nat} {first second after : State} {statements : List Node}
    (same : first.unplaced = second.unplaced)
    (ran : program (Rules.standard.expression levels) first = .ok statements after) :
    ∃ others behind, program (Rules.standard.expression levels) second = .ok others behind ∧
      others.map Node.unplaced = statements.map Node.unplaced ∧
      behind.errors = after.errors := by
  have ranFirst := blind_program (blind_expression levels) first
  have ranSecond := blind_program (blind_expression levels) second
  rw [ran] at ranFirst
  rw [← same, ranFirst] at ranSecond
  cases found : program (Rules.standard.expression levels) second with
  | ok others behind =>
      rw [found] at ranSecond
      injection ranSecond with sameStatements sameState
      refine ⟨others, behind, rfl, sameStatements.symm, ?_⟩
      rw [← behind.errors_unplaced, ← sameState, State.errors_unplaced]
  | error reason behind =>
      rw [found] at ranSecond
      cases ranSecond

end Parser

/-- Ahead of tokens that are those of a text, but for their positions, the program of the
text is read. -/
theorem exists_program_of_unplaced {source : String} {stream : TokenStream}
    (same : (TokenStream.ofString source).unplaced = stream.unplaced) :
    ∃ statements after,
      Parser.program (Parser.Rules.standard.expression nestingLimit) (.start stream) =
          .ok statements after ∧
        statements.map Node.unplaced = (parse source).statements.map Node.unplaced ∧
        after.errors = (parse source).errors := by
  obtain ⟨read, ended, ran, isParse⟩ := parseWith_eq nestingLimit source
  change parse source = _ at isParse
  have sameStart : (Parser.State.start (.ofString source)).unplaced =
      (Parser.State.start stream).unplaced := by
    unfold Parser.State.unplaced Parser.State.start
    exact congrArg (Parser.State.mk · [] 0) same
  rw [isParse]
  exact Parser.program_of_unplaced sameStart ran

/-- Behind another text the program of a text is read as it is alone, but for the positions
of its tokens. -/
theorem exists_program_behind (before : List Char) (source : String) :
    ∃ statements after,
      Parser.program (Parser.Rules.standard.expression nestingLimit)
          (.start (⟨source.toList, .behind before⟩ : Cursor).tokens) = .ok statements after ∧
        statements.map Node.unplaced = (parse source).statements.map Node.unplaced ∧
        after.errors = (parse source).errors :=
  exists_program_of_unplaced (Cursor.unplaced_tokens source.toList [] before)

/-! ### Texts with the same lexemes -/

section Lexemes

variable {first second : String}

theorem program_unplaced_of_lexeme
    (same : (tokenize first).map Token.lexeme = (tokenize second).map Token.lexeme) :
    (parse first).program.unplaced = (parse second).program.unplaced ∧
      (parse first).errors = (parse second).errors := by
  obtain ⟨others, behind, ranOthers, sameStatements, sameErrors⟩ :=
    exists_program_of_unplaced (TokenStream.unplaced_ofString_of_lexeme same)
  obtain ⟨read, ended, ran, isParse⟩ := parseWith_eq nestingLimit second
  change parse second = _ at isParse
  cases ranOthers.symm.trans ran
  rw [isParse]
  constructor
  · rw [Parsed.program, Parsed.program, Node.unplaced, Node.unplaced, Node.unplacedAll_eq_map,
      Node.unplacedAll_eq_map, ← sameStatements]
  · exact sameErrors.symm

end Lexemes

/-- Two texts with the same lexemes, however they are laid out and whatever is wrong with
them, have the same errors and the same JSON value and canonical text of their trees, and
the walks over the trees meet nodes of the same classes with the same lexemes. -/
theorem parse_of_same_lexemes (first second : String)
    (same : (tokenize first).map Token.lexeme = (tokenize second).map Token.lexeme) :
    (parse first).abandoned = none ∧ (parse second).abandoned = none ∧
      (parse first).errors = (parse second).errors ∧
      (parse first).program.record = (parse second).program.record ∧
      (parse first).program.render = (parse second).program.render ∧
      (parse first).program.preorder.map Node.label =
        (parse second).program.preorder.map Node.label := by
  obtain ⟨sameTree, sameErrors⟩ := program_unplaced_of_lexeme same
  have notAbandoned : ∀ source, (parse source).abandoned = none := by
    intro source
    obtain ⟨read, ended, -, isParse⟩ := parseWith_eq nestingLimit source
    exact congrArg Parsed.abandoned isParse
  refine ⟨notAbandoned first, notAbandoned second, sameErrors, ?_, ?_, ?_⟩
  · rw [← Node.record_unplaced, sameTree, Node.record_unplaced]
  · rw [← Node.render_unplaced, sameTree, Node.render_unplaced]
  · exact Node.labels_of_unplaced sameTree

/-- A conditional with neither a closing parenthesis nor a closing brace, in one line and
in three. -/
theorem parse_of_same_lexemes_conditional :
    (tokenize "if(x\x7b-y").map Token.lexeme = (tokenize " if ( x\n\x7b\t-\r\ny ").map Token.lexeme ∧
      (parse "if(x\x7b-y").errors = (parse " if ( x\n\x7b\t-\r\ny ").errors ∧
      (parse "if(x\x7b-y").program.render = (parse " if ( x\n\x7b\t-\r\ny ").program.render := by
  have same : (tokenize "if(x\x7b-y").map Token.lexeme =
      (tokenize " if ( x\n\x7b\t-\r\ny ").map Token.lexeme := by decide +kernel
  obtain ⟨-, -, sameErrors, -, sameTexts, -⟩ := parse_of_same_lexemes _ _ same
  exact ⟨same, sameErrors, sameTexts⟩

end MonkeySyntax
