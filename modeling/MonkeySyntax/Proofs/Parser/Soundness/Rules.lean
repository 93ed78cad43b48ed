import MonkeySyntax.Proofs.Parser.Completion

/-!
Contract: what each rule reads without a report is derived by the grammar.

Owns:
- what it means that a reader of expressions is sound: silent runs take the yield of a
  derivation and answer with its tree;
- the same for every rule of the language, when the reader it uses is sound.

Does not own: the loop over the operators behind an expression, and the one over a
program.
-/

set_option autoImplicit false

namespace MonkeySyntax

open Grammar

/-- The leaf of a derivation that a token of a kind is. -/
def Grammar.Terminal.ofKind {token : Token} {kind : TokenKind} (isKind : token.kind = kind) :
    Terminal [kind] :=
  ⟨token, List.mem_singleton.mpr isKind⟩

namespace Parser

variable {α : Type} {reader : ExpressionReader} {state after : State} {answer : Option Node}

/-! ### Silent runs -/

/-- Where a token is required, a silent run goes on behind it. -/
theorem whenNext_silent {kind : TokenKind} {found : ParseM α} {missed result : α}
    (ran : (expectNext kind >>= fun isFound => if isFound = true then found else pure missed)
      state = .ok result after)
    (silent : after.log.length ≤ state.log.length) :
    state.stream.next.kind = kind ∧ found state.advance = .ok result after := by
  obtain ⟨isFound, between, expected, ran⟩ := bind_eq_ok ran
  cases isFound with
  | true =>
      rcases expectNext_eq_ok expected with ⟨-, isKind, rfl⟩ | ⟨absent, -⟩
      · exact ⟨isKind, ran⟩
      · cases absent
  | false =>
      obtain ⟨-, rfl⟩ := pure_eq_ok ran
      obtain ⟨absent, -⟩ := expectNext_eq_true expected silent
      cases absent

/-- From one state to another the tokens of a derivation were taken, all but the last
one, and the answer is its tree. -/
structure Took {level : Precedence} (derivation : Expr level) (state : State)
    (answer : Option Node) (after : State) : Prop where
  answer_eq : answer = some derivation.tree
  upcoming_eq : state.stream.upcoming = derivation.yield ++ after.advance.stream.upcoming
  separated : derivation.Separated

/-- What a reader reads without a report is an expression, which ends where no tighter
operator follows. -/
def Sound (reader : ExpressionReader) : Prop :=
  ∀ {level : Precedence} {state : State} {answer : Option Node} {after : State},
    state.stream.Lexed → reader level state = .ok answer after →
    after.log.length ≤ state.log.length →
    ∃ derivation : Expr level.operand, Took derivation state answer after ∧
      ¬ level < after.stream.next.kind.precedence

theorem Sound.lowest (sound : Sound reader) (lexed : state.stream.Lexed)
    (ran : reader .lowest state = .ok answer after)
    (silent : after.log.length ≤ state.log.length) :
    ∃ derivation : Expr .equality, Took derivation state answer after ∧
      ¬ .lowest < after.stream.next.kind.precedence :=
  sound lexed ran silent

theorem Took.exists_looser {level looser : Precedence} {derivation : Expr level}
    (took : Took derivation state answer after) (isLevel : .lowest < looser)
    (atMost : looser.rank ≤ level.rank) :
    ∃ copy : Expr looser, Took copy state answer after := by
  obtain ⟨copy, same⟩ := derivation.exists_looser looser isLevel atMost
  refine ⟨copy, ?_, ?_, same.separated took.separated⟩
  · rw [same.tree]
    exact took.answer_eq
  · rw [same.yield]
    exact took.upcoming_eq

/-! ### Statements -/

section Statements

variable (sound : Sound reader)
include sound

theorem took_closingExpression (lexed : state.stream.Lexed)
    (ran : closingExpression reader state = .ok answer after)
    (silent : after.log.length ≤ state.log.length) :
    ∃ (value : Expr .equality) (ending : Option (Terminal [.semicolon])),
      answer = some value.tree ∧ value.Separated ∧
      state.stream.upcoming = value.yield ++ (yieldEnding ending ++ after.advance.stream.upcoming) ∧
      (ending = none → after.stream.next.kind ∉ continuing) := by
  unfold closingExpression at ran
  obtain ⟨value, between, read, ran⟩ := bind_eq_ok ran
  by_cases isClosed : between.stream.next.kind = .semicolon
  · rw [bind_of_ok (advanceTo_of_eq isClosed)] at ran
    obtain ⟨rfl, rfl⟩ := pure_eq_ok ran
    obtain ⟨derivation, took, -⟩ := sound.lowest lexed read silent
    refine ⟨derivation, some (.ofKind isClosed), took.answer_eq, took.separated, ?_, ?_⟩
    · rw [took.upcoming_eq, upcoming_of_next isClosed nofun]
      rfl
    · intro absent
      cases absent
  · rw [bind_of_ok (advanceTo_of_ne isClosed)] at ran
    obtain ⟨rfl, rfl⟩ := pure_eq_ok ran
    obtain ⟨derivation, took, stops⟩ := sound.lowest lexed read silent
    refine ⟨derivation, none, took.answer_eq, took.separated, took.upcoming_eq, ?_⟩
    intro _ goesOn
    exact stops ((TokenKind.lowest_lt_precedence_iff _).mpr goesOn)

/-- From one state to another the tokens of a statement were taken, all but the last
one, and the answer is its tree. -/
structure TookStatement (derivation : Statement) (state : State) (answer : Option Node)
    (after : State) : Prop where
  answer_eq : answer = some derivation.tree
  upcoming_eq : state.stream.upcoming = derivation.yield ++ after.advance.stream.upcoming
  separated : derivation.Separated
  follows : derivation.ending = none → after.stream.next.kind ∉ continuing

theorem took_letStatement (isWord : state.stream.current.kind = .letWord)
    (lexed : state.stream.Lexed) (ran : letStatement reader state = .ok answer after)
    (silent : after.log.length ≤ state.log.length) :
    ∃ derivation, TookStatement derivation state answer after := by
  unfold letStatement at ran
  rw [bind_of_ok (current_run state)] at ran
  obtain ⟨isName, ran⟩ := whenNext_silent ran silent
  rw [bind_of_ok (identifier_run state.advance)] at ran
  obtain ⟨isSign, ran⟩ := whenNext_silent ran silent
  rw [bind_of_ok (advance_run state.advance.advance)] at ran
  obtain ⟨value, between, read, ran⟩ := bind_eq_ok ran
  obtain ⟨rfl, rfl⟩ := pure_eq_ok ran
  obtain ⟨derivation, ending, rfl, separated, upcoming, follows⟩ :=
    took_closingExpression sound (lexed_advance (lexed_advance (lexed_advance lexed))) read silent
  refine ⟨.letStatement (.ofKind isWord) (.ofKind isName) (.ofKind isSign) derivation ending,
    rfl, ?_, separated, follows⟩
  rw [upcoming_of_current isWord nofun, upcoming_of_next isName nofun,
    upcoming_of_next isSign nofun, upcoming, Statement.yield]
  simp only [Terminal.ofKind, List.cons_append, List.append_assoc]

theorem took_returnStatement (isWord : state.stream.current.kind = .returnWord)
    (lexed : state.stream.Lexed) (ran : returnStatement reader state = .ok answer after)
    (silent : after.log.length ≤ state.log.length) :
    ∃ derivation, TookStatement derivation state answer after := by
  unfold returnStatement at ran
  rw [bind_of_ok (current_run state), bind_of_ok (advance_run state)] at ran
  obtain ⟨value, between, read, ran⟩ := bind_eq_ok ran
  obtain ⟨rfl, rfl⟩ := pure_eq_ok ran
  obtain ⟨derivation, ending, rfl, separated, upcoming, follows⟩ :=
    took_closingExpression sound (lexed_advance lexed) read silent
  refine ⟨.returnStatement (.ofKind isWord) derivation ending, rfl, ?_, separated, follows⟩
  rw [upcoming_of_current isWord nofun, upcoming, Statement.yield]
  simp only [Terminal.ofKind, List.cons_append, List.append_assoc]

theorem took_expressionStatement (lexed : state.stream.Lexed)
    (ran : expressionStatement reader state = .ok answer after)
    (silent : after.log.length ≤ state.log.length) :
    ∃ derivation, TookStatement derivation state answer after := by
  unfold expressionStatement at ran
  rw [bind_of_ok (current_run state)] at ran
  obtain ⟨value, between, read, ran⟩ := bind_eq_ok ran
  obtain ⟨rfl, rfl⟩ := pure_eq_ok ran
  obtain ⟨derivation, ending, rfl, separated, upcoming, follows⟩ :=
    took_closingExpression sound lexed read silent
  obtain ⟨others, yields⟩ := derivation.yield_eq_cons
  have isFirst : state.stream.current = derivation.first := by
    rw [TokenStream.current, upcoming, yields]
    rfl
  refine ⟨.expressionStatement derivation ending, ?_, ?_, separated, follows⟩
  · rw [isFirst]
    rfl
  · rw [upcoming, Statement.yield, List.append_assoc]

theorem took_statement (lexed : state.stream.Lexed)
    (ran : statement reader state = .ok answer after)
    (silent : after.log.length ≤ state.log.length) :
    ∃ derivation, TookStatement derivation state answer after := by
  rw [statement_run] at ran
  by_cases isLet : state.stream.current.kind = .letWord
  · rw [if_pos isLet] at ran
    exact took_letStatement sound isLet lexed ran silent
  by_cases isReturn : state.stream.current.kind = .returnWord
  · rw [if_neg isLet, if_pos isReturn] at ran
    exact took_returnStatement sound isReturn lexed ran silent
  · rw [if_neg isLet, if_neg isReturn] at ran
    exact took_expressionStatement sound lexed ran silent

end Statements

/-! ### Parameters -/

/-- A silent parameter list ends with a parenthesis. -/
theorem closing_of_parameterTurn {names : List Node} {result : Option (List Node)}
    (ran : parameterTurn names state = .ok (.done result) after)
    (silent : after.log.length ≤ state.log.length) :
    state.stream.next.kind = .rightParen ∧ result = some names.reverse ∧ after = state.advance := by
  unfold parameterTurn at ran
  rw [bind_of_ok (next_run state)] at ran
  by_cases comma : state.stream.next.kind = .comma
  · rw [if_pos comma, bind_of_ok (advance_run state)] at ran
    obtain ⟨-, ran⟩ := whenNext_silent ran silent
    obtain ⟨_, _, _, ran⟩ := bind_eq_ok ran
    cases ran
  · rw [if_neg comma] at ran
    obtain ⟨isClosing, ran⟩ := whenNext_silent ran silent
    cases ran
    exact ⟨isClosing, rfl, rfl⟩

/-- What a silent run of the loop over parameters takes and answers. -/
def TakesParameters (names : List Node) (state : State)
    (ended : EStateM.Result Abort State (Option (List Node))) : Prop :=
  ∀ {answer : Option (List Node)} {after : State}, ended = .ok answer after →
    after.log.length ≤ state.log.length →
    ∃ (others : List (Terminal [.comma] × Terminal [.ident])) (closing : Terminal [.rightParen]),
      answer = some (names.reverse ++ others.map fun (_, name) => name.identifier) ∧
      state.advance.stream.upcoming =
        others.flatMap (fun (comma, name) => [comma.token, name.token]) ++
          closing.token :: after.advance.stream.upcoming

theorem takesParameters (names : List Node) (state : State) :
    TakesParameters names state (repeatTurns parameterTurn names state) := by
  apply repeatTurns_recursion taking_parameterTurn
  case again =>
    intro names state following between turned takesLater answer after ran silent
    obtain ⟨comma, isName⟩ := comma_of_parameterTurn turned
    rw [parameterTurn_of_comma comma isName] at turned
    cases turned
    obtain ⟨others, closing, rfl, upcoming⟩ := takesLater ran silent
    refine ⟨(.ofKind comma, .ofKind isName) :: others, closing, ?_, ?_⟩
    · rw [List.reverse_cons, List.append_assoc, List.map_cons]
      rfl
    · rw [upcoming_of_next comma nofun, upcoming_of_next isName nofun, upcoming]
      rfl
  case done =>
    intro names state result between turned answer after same silent
    cases same
    obtain ⟨isClosing, rfl, rfl⟩ := closing_of_parameterTurn turned silent
    refine ⟨[], .ofKind isClosing, ?_, upcoming_of_next isClosing nofun⟩
    rw [List.map_nil, List.append_nil]
  case error =>
    intro names state reason between turned _ _ same
    cases same

theorem took_parameters {answer : Option (List Node)} (ran : parameters state = .ok answer after)
    (silent : after.log.length ≤ state.log.length) :
    ∃ (derivation : Parameters) (closing : Terminal [.rightParen]),
      answer = some derivation.trees ∧
      state.advance.stream.upcoming =
        derivation.yield ++ closing.token :: after.advance.stream.upcoming := by
  unfold parameters at ran
  rw [bind_of_ok (next_run state)] at ran
  by_cases empty : state.stream.next.kind = .rightParen
  · rw [if_pos empty, bind_of_ok (advance_run state)] at ran
    obtain ⟨rfl, rfl⟩ := pure_eq_ok ran
    exact ⟨.none, .ofKind empty, rfl, upcoming_of_next empty nofun⟩
  · rw [if_neg empty] at ran
    obtain ⟨isName, ran⟩ := whenNext_silent ran silent
    rw [bind_of_ok (identifier_run state.advance)] at ran
    obtain ⟨others, closing, rfl, upcoming⟩ := takesParameters _ _ ran silent
    refine ⟨.names (.ofKind isName) others, closing, rfl, ?_⟩
    rw [upcoming_of_next isName nofun, upcoming]
    rfl

/-! ### What loops take -/

/-- What a silent run of the loop over arguments takes and answers. -/
def TakesArguments (collected : List (Option Node)) (state : State)
    (ended : EStateM.Result Abort State (List (Option Node))) : Prop :=
  ∀ {all : List (Option Node)} {after : State}, state.stream.Lexed → ended = .ok all after →
    after.log.length ≤ state.log.length →
    ∃ others, all = collected.reverse ++ (treesOthers others).map some ∧ SeparatedOthers others ∧
      state.advance.stream.upcoming = yieldOthers others ++ after.advance.stream.upcoming

/-- What a silent run of the loop over the statements of a block takes and answers. -/
def TakesStatements (token : Token) (read : List Node) (state : State)
    (ended : EStateM.Result Abort State (Option Node)) : Prop :=
  ∀ {answer : Option Node} {after : State}, state.stream.Lexed → ended = .ok answer after →
    after.log.length ≤ state.log.length →
    ∃ (statements : List Statement) (closing : Terminal [.rightBrace]),
      answer = some (.block token (read.reverse ++ treesAll statements)) ∧
      SeparatedAll statements ∧
      state.stream.upcoming =
        yieldAll statements ++ closing.token :: after.advance.stream.upcoming

/-- The token behind a statement is the first one of the statements that follow. -/
theorem head_not_continuing {yield others : List Token}
    (follows : state.stream.next.kind ∉ continuing)
    (upcoming : state.advance.stream.upcoming = yield ++ others) :
    ∀ token ∈ yield.head?, token.kind ∉ continuing := by
  intro token isHead
  obtain ⟨behind, rfl⟩ := List.head?_eq_some_iff.mp isHead
  have isNext : state.advance.stream.current = token := by
    rw [TokenStream.current, upcoming]
    rfl
  rw [← isNext]
  exact follows

/-! ### Operators and groups -/

section Expressions

theorem took_integer (isInt : state.stream.current.kind = .int) (lexed : state.stream.Lexed)
    (ran : integer state = .ok answer after) (silent : after.log.length ≤ state.log.length) :
    ∃ derivation : Expr .call, Took derivation state answer after := by
  have spelled := lexed _ (current_mem (by simp [isInt]))
  rw [isInt] at spelled
  rw [integer_of_isDigit spelled.isDigit_of_int] at ran
  by_cases inRange : decimal state.stream.current.literal.toList ≤ 2 ^ 63 - 1
  · rw [if_pos inRange] at ran
    cases ran
    exact ⟨.integer ⟨state.stream.current, isInt, spelled.isDigit_of_int, inRange⟩, rfl,
      upcoming_of_current isInt nofun, trivial⟩
  · rw [if_neg inRange] at ran
    cases ran
    exact absurd silent (Nat.not_succ_le_self _)

variable (sound : Sound reader) (proceeds : ∀ level state, Proceeds (reader level) state)
include sound

theorem took_unary (isOperator : state.stream.current.kind ∈ [.bang, .minus])
    (lexed : state.stream.Lexed) (ran : unary reader state = .ok answer after)
    (silent : after.log.length ≤ state.log.length) :
    ∃ derivation : Expr .unary, Took derivation state answer after ∧
      ¬ .unary < after.stream.next.kind.precedence := by
  unfold unary at ran
  rw [bind_of_ok (current_run state), bind_of_ok (advance_run state)] at ran
  obtain ⟨operand, between, read, ran⟩ := bind_eq_ok ran
  obtain ⟨rfl, rfl⟩ := pure_eq_ok ran
  obtain ⟨derivation, ⟨rfl, upcoming, separated⟩, stops⟩ := sound (lexed_advance lexed) read silent
  refine ⟨.unary ⟨state.stream.current, isOperator⟩ derivation, ⟨rfl, ?_, separated⟩, stops⟩
  have unfinished : state.stream.current.kind ≠ .endOfInput :=
    ne_of_mem_of_not_mem isOperator (by simp)
  rw [upcoming_of_current rfl unfinished, upcoming]
  rfl

include proceeds

theorem took_group (isOpening : state.stream.current.kind = .leftParen)
    (lexed : state.stream.Lexed) (ran : group reader state = .ok answer after)
    (silent : after.log.length ≤ state.log.length) :
    ∃ derivation : Expr .call, Took derivation state answer after := by
  unfold group at ran
  rw [bind_of_ok (advance_run state)] at ran
  obtain ⟨inside, between, read, ran⟩ := bind_eq_ok ran
  have grown : state.log.length ≤ between.log.length := ((proceeds _ _).leads read).log_length_le
  obtain ⟨isClosing, ran⟩ := whenNext_silent ran (Nat.le_trans silent grown)
  obtain ⟨rfl, rfl⟩ := pure_eq_ok ran
  obtain ⟨derivation, ⟨rfl, upcoming, separated⟩, -⟩ :=
    sound.lowest (lexed_advance lexed) read silent
  refine ⟨.group (.ofKind isOpening) derivation (.ofKind isClosing), rfl, ?_, separated⟩
  rw [upcoming_of_current isOpening nofun, upcoming, upcoming_of_next isClosing nofun,
    Expr.yield]
  simp only [Terminal.ofKind, List.cons_append, List.append_assoc, List.nil_append]

/-! ### Calls -/

theorem takesArguments (collected : List (Option Node)) (state : State) :
    TakesArguments collected state (repeatTurns (argumentTurn reader) collected state) := by
  apply repeatTurns_recursion (taking_argumentTurn proceeds)
  case again =>
    intro collected state following between turned takesLater all after lexed ran silent
    obtain ⟨comma, argument, read, rfl⟩ := exists_argument_of_again turned
    have leads : State.Leads Diagnostic.Ordinary state.advance.advance between :=
      (proceeds _ _).leads read
    have grown : state.log.length ≤ between.log.length := leads.log_length_le
    have proceedsOthers : Proceeds (repeatTurns (argumentTurn reader) (argument :: collected))
        between :=
      compatible_proceeds.otherArguments (related_self proceeds) proceeds _ between
    have grownLater := (proceedsOthers.leads ran).log_length_le
    have lexedBehind := lexed_advance (lexed_advance lexed)
    obtain ⟨derivation, ⟨rfl, upcoming, separated⟩, -⟩ :=
      sound.lowest lexedBehind read (Nat.le_trans grownLater silent)
    obtain ⟨others, rfl, alsoSeparated, upcomingLater⟩ :=
      takesLater (lexedBehind.of_suffix leads.upcoming_suffix) ran (Nat.le_trans silent grown)
    refine ⟨(.ofKind comma, derivation) :: others, ?_, ⟨separated, alsoSeparated⟩, ?_⟩
    · rw [List.reverse_cons, List.append_assoc, treesOthers, List.map_cons]
      rfl
    · rw [upcoming_of_next comma nofun, upcoming, upcomingLater, yieldOthers,
        List.cons_append, List.append_assoc]
      rfl
  case done =>
    intro collected state result between turned all after lexed same silent
    cases same
    obtain ⟨rfl, rfl⟩ := result_of_argumentTurn turned
    exact ⟨[], (List.append_nil _).symm, trivial, rfl⟩
  case error =>
    intro collected state reason between turned all after lexed same
    cases same

theorem took_arguments {answer : Option (List Node)} (lexed : state.stream.Lexed)
    (ran : arguments reader state = .ok answer after)
    (silent : after.log.length ≤ state.log.length) :
    ∃ (derivation : Arguments) (closing : Terminal [.rightParen]),
      answer = some derivation.trees ∧ derivation.Separated ∧
      state.advance.stream.upcoming =
        derivation.yield ++ closing.token :: after.advance.stream.upcoming := by
  unfold arguments at ran
  rw [bind_of_ok (next_run state)] at ran
  by_cases empty : state.stream.next.kind = .rightParen
  · rw [if_pos empty, bind_of_ok (advance_run state)] at ran
    obtain ⟨rfl, rfl⟩ := pure_eq_ok ran
    exact ⟨.none, .ofKind empty, rfl, trivial, upcoming_of_next empty nofun⟩
  · rw [if_neg empty, bind_of_ok (advance_run state)] at ran
    obtain ⟨first, between, read, ran⟩ := bind_eq_ok ran
    obtain ⟨all, behind, readOthers, ran⟩ := bind_eq_ok ran
    have leads : State.Leads Diagnostic.Ordinary state.advance between := (proceeds _ _).leads read
    have proceedsOthers : Proceeds (repeatTurns (argumentTurn reader) [first]) between :=
      compatible_proceeds.otherArguments (related_self proceeds) proceeds [first] between
    have grown : state.log.length ≤ between.log.length := leads.log_length_le
    have grownLater := (proceedsOthers.leads readOthers).log_length_le
    obtain ⟨isClosing, ran⟩ := whenNext_silent ran (by omega)
    obtain ⟨rfl, rfl⟩ := pure_eq_ok ran
    have silentLater : behind.log.length ≤ state.log.length := silent
    obtain ⟨derivation, ⟨rfl, upcoming, separated⟩, -⟩ :=
      sound.lowest (lexed_advance lexed) read (Nat.le_trans grownLater silentLater)
    obtain ⟨others, rfl, alsoSeparated, upcomingLater⟩ :=
      takesArguments sound proceeds _ _ ((lexed_advance lexed).of_suffix leads.upcoming_suffix)
        readOthers (by omega)
    refine ⟨.expressions derivation others, .ofKind isClosing, ?_, ⟨separated, alsoSeparated⟩, ?_⟩
    · exact allPresent_map_some (derivation.tree :: treesOthers others)
    · rw [upcoming, upcomingLater, upcoming_of_next isClosing nofun, Arguments.yield,
        List.append_assoc]
      rfl

theorem took_call {callee : Node} (isOpening : state.stream.current.kind = .leftParen)
    (lexed : state.stream.Lexed) (ran : call reader (some callee) state = .ok answer after)
    (silent : after.log.length ≤ state.log.length) :
    ∃ (derivation : Arguments) (closing : Terminal [.rightParen]),
      answer = some (.call state.stream.current callee derivation.trees) ∧ derivation.Separated ∧
      state.stream.upcoming = state.stream.current ::
        (derivation.yield ++ closing.token :: after.advance.stream.upcoming) := by
  unfold call at ran
  rw [bind_of_ok (current_run state)] at ran
  obtain ⟨read, between, readArguments, ran⟩ := bind_eq_ok ran
  cases read with
  | none =>
      obtain ⟨-, rfl⟩ := pure_eq_ok ran
      obtain ⟨derivation, closing, missing, -⟩ :=
        took_arguments sound proceeds lexed readArguments silent
      cases missing
  | some trees =>
      obtain ⟨rfl, rfl⟩ := pure_eq_ok ran
      obtain ⟨derivation, closing, isTrees, separated, upcoming⟩ :=
        took_arguments sound proceeds lexed readArguments silent
      cases isTrees
      refine ⟨derivation, closing, rfl, separated, ?_⟩
      rw [upcoming_of_current isOpening nofun, upcoming]

/-! ### Blocks -/

theorem takesStatements (token : Token) (read : List Node) (state : State) :
    TakesStatements token read state (repeatTurns (blockTurn reader token) read state) := by
  apply repeatTurns_recursion (taking_blockTurn proceeds token)
  case again =>
    intro read state following between turned takesLater answer after lexed ran silent
    obtain ⟨-, node, behind, readStatement, rfl, rfl⟩ := exists_statement_of_blockTurn turned
    have proceedsStatement : Proceeds (statement reader) state :=
      compatible_proceeds.statement (related_self proceeds) state
    have leads := proceedsStatement.leads readStatement
    have proceedsOthers : Proceeds (repeatTurns (blockTurn reader token) (node.toList ++ read))
        behind.advance :=
      compatible_proceeds.statements (related_self proceeds) proceeds token _ _
    have grown := leads.log_length_le
    have grownLater : behind.log.length ≤ after.log.length :=
      (proceedsOthers.leads ran).log_length_le
    obtain ⟨derivation, rfl, upcoming, separated, follows⟩ :=
      took_statement sound lexed readStatement (Nat.le_trans grownLater silent)
    obtain ⟨statements, closing, rfl, alsoSeparated, upcomingLater⟩ :=
      takesLater (lexed_advance (lexed.of_suffix leads.upcoming_suffix)) ran
        (Nat.le_trans silent grown)
    refine ⟨derivation :: statements, closing, ?_, ⟨separated, ?_, alsoSeparated⟩, ?_⟩
    · rw [List.reverse_append, List.append_assoc, treesAll]
      rfl
    · intro isOpen
      exact head_not_continuing (follows isOpen) upcomingLater
    · rw [upcoming, upcomingLater, yieldAll, List.append_assoc]
  case done =>
    intro read state result between turned answer after lexed same silent
    cases same
    obtain ⟨isBrace, rfl, rfl⟩ | ⟨-, rfl⟩ := brace_or_ended_of_blockTurn turned
    · refine ⟨[], .ofKind isBrace, ?_, trivial, upcoming_of_current isBrace (by decide)⟩
      rw [treesAll, List.append_nil]
    · exact absurd silent (Nat.not_succ_le_self _)
  case error =>
    intro read state reason between turned answer after lexed same
    cases same

theorem took_block (isOpening : state.stream.next.kind = .leftBrace)
    (lexed : state.stream.Lexed) (ran : block reader state.advance = .ok answer after)
    (silent : after.log.length ≤ state.log.length) :
    ∃ derivation : Block, answer = some derivation.tree ∧ derivation.Separated ∧
      state.advance.stream.upcoming = derivation.yield ++ after.advance.stream.upcoming := by
  unfold block at ran
  rw [bind_of_ok (current_run state.advance), bind_of_ok (advance_run state.advance)] at ran
  obtain ⟨statements, closing, rfl, separated, upcoming⟩ :=
    takesStatements sound proceeds _ _ _ (lexed_advance (lexed_advance lexed)) ran silent
  refine ⟨.braces (.ofKind isOpening) statements closing, rfl, separated, ?_⟩
  rw [upcoming_of_next isOpening nofun, upcoming, Block.yield, List.cons_append,
    List.append_assoc]
  rfl

/-! ### Conditionals and functions -/

theorem took_alternative {answer : Option (Option Node)} (lexed : state.stream.Lexed)
    (ran : alternative reader state = .ok answer after)
    (silent : after.log.length ≤ state.log.length) :
    ∃ derivation : Alternative, answer = some derivation.tree ∧ derivation.Separated ∧
      state.advance.stream.upcoming = derivation.yield ++ after.advance.stream.upcoming := by
  unfold alternative at ran
  rw [bind_of_ok (next_run state)] at ran
  by_cases isWord : state.stream.next.kind = .elseWord
  · rw [if_pos isWord, bind_of_ok (advance_run state)] at ran
    obtain ⟨isOpening, ran⟩ := whenNext_silent ran silent
    obtain ⟨read, between, readBlock, ran⟩ := bind_eq_ok ran
    obtain ⟨rfl, rfl⟩ := pure_eq_ok ran
    obtain ⟨derivation, rfl, separated, upcoming⟩ :=
      took_block sound proceeds isOpening (lexed_advance lexed) readBlock silent
    refine ⟨.block (.ofKind isWord) derivation, rfl, separated, ?_⟩
    rw [upcoming_of_next isWord nofun, upcoming]
    rfl
  · rw [if_neg isWord] at ran
    obtain ⟨rfl, rfl⟩ := pure_eq_ok ran
    exact ⟨.none, rfl, trivial, rfl⟩

theorem took_conditional (isWord : state.stream.current.kind = .ifWord)
    (lexed : state.stream.Lexed) (ran : conditional reader state = .ok answer after)
    (silent : after.log.length ≤ state.log.length) :
    ∃ derivation : Expr .call, Took derivation state answer after := by
  unfold conditional at ran
  rw [bind_of_ok (current_run state)] at ran
  obtain ⟨isOpening, ran⟩ := whenNext_silent ran silent
  rw [bind_of_ok (advance_run state.advance)] at ran
  obtain ⟨condition, first, readCondition, ran⟩ := bind_eq_ok ran
  have lexedInside := lexed_advance (lexed_advance lexed)
  have leads : State.Leads Diagnostic.Ordinary state.advance.advance first :=
    (proceeds _ _).leads readCondition
  have grown : state.log.length ≤ first.log.length := leads.log_length_le
  have silentLater := Nat.le_trans silent grown
  obtain ⟨isClosing, ran⟩ := whenNext_silent ran silentLater
  obtain ⟨isBrace, ran⟩ := whenNext_silent ran silentLater
  obtain ⟨consequence, second, readConsequence, ran⟩ := bind_eq_ok ran
  obtain ⟨otherwise, third, readOtherwise, ran⟩ := bind_eq_ok ran
  -- All the parts are read before one of them is looked at.
  have isLast : third = after := by
    split at ran
    · exact (pure_eq_ok ran).2
    · exact (pure_eq_ok ran).2
  subst isLast
  have lexedBlock := lexed_advance (lexedInside.of_suffix leads.upcoming_suffix)
  have proceedsBlock : Proceeds (block reader) first.advance.advance :=
    compatible_proceeds.block (related_self proceeds) proceeds _
  have leadsBlock := proceedsBlock.leads readConsequence
  have proceedsOtherwise : Proceeds (alternative reader) second :=
    compatible_proceeds.alternative (related_self proceeds) proceeds second
  have grownBlock : first.log.length ≤ second.log.length := leadsBlock.log_length_le
  have grownOtherwise := (proceedsOtherwise.leads readOtherwise).log_length_le
  obtain ⟨test, ⟨rfl, upcomingTest, separatedTest⟩, -⟩ :=
    sound.lowest lexedInside readCondition (show first.log.length ≤ state.log.length by omega)
  obtain ⟨yes, rfl, separatedYes, upcomingYes⟩ :=
    took_block sound proceeds isBrace lexedBlock readConsequence
      (show second.log.length ≤ first.log.length by omega)
  obtain ⟨no, rfl, separatedNo, upcomingNo⟩ :=
    took_alternative sound proceeds
      ((lexed_advance lexedBlock).of_suffix leadsBlock.upcoming_suffix) readOtherwise (by omega)
  obtain ⟨rfl, -⟩ := pure_eq_ok ran
  refine ⟨.conditional (.ofKind isWord) (.ofKind isOpening) test (.ofKind isClosing) yes no,
    rfl, ?_, separatedTest, separatedYes, separatedNo⟩
  rw [upcoming_of_current isWord nofun, upcoming_of_next isOpening nofun, upcomingTest,
    upcoming_of_next isClosing nofun, upcomingYes, upcomingNo, Expr.yield]
  simp only [Terminal.ofKind, List.cons_append, List.append_assoc]

theorem took_function (isWord : state.stream.current.kind = .functionWord)
    (lexed : state.stream.Lexed) (ran : function reader state = .ok answer after)
    (silent : after.log.length ≤ state.log.length) :
    ∃ derivation : Expr .call, Took derivation state answer after := by
  unfold function at ran
  rw [bind_of_ok (current_run state)] at ran
  obtain ⟨isOpening, ran⟩ := whenNext_silent ran silent
  obtain ⟨names, first, readNames, ran⟩ := bind_eq_ok ran
  have proceedsNames : Proceeds parameters state.advance :=
    compatible_proceeds.parameters state.advance
  have leads := proceedsNames.leads readNames
  have grown : state.log.length ≤ first.log.length := leads.log_length_le
  cases names with
  | none =>
      obtain ⟨-, rfl⟩ := pure_eq_ok ran
      obtain ⟨_, _, missing, -⟩ := took_parameters readNames silent
      cases missing
  | some nodes =>
      obtain ⟨isBrace, ran⟩ := whenNext_silent ran (Nat.le_trans silent grown)
      obtain ⟨body, second, readBody, ran⟩ := bind_eq_ok ran
      obtain ⟨rfl, rfl⟩ := pure_eq_ok ran
      have proceedsBody : Proceeds (block reader) first.advance :=
        compatible_proceeds.block (related_self proceeds) proceeds _
      have grownBody : first.log.length ≤ second.log.length :=
        (proceedsBody.leads readBody).log_length_le
      have lexedBody := (lexed_advance lexed).of_suffix leads.upcoming_suffix
      obtain ⟨parameters, closing, isTrees, upcomingNames⟩ :=
        took_parameters readNames (Nat.le_trans grownBody silent)
      cases isTrees
      obtain ⟨derivation, rfl, separated, upcoming⟩ :=
        took_block sound proceeds isBrace lexedBody readBody (Nat.le_trans silent grown)
      refine ⟨.function (.ofKind isWord) (.ofKind isOpening) parameters closing derivation,
        rfl, ?_, separated⟩
      rw [upcoming_of_current isWord nofun, upcoming_of_next isOpening nofun,
        upcomingNames, upcoming, Expr.yield]
      simp only [Terminal.ofKind, List.cons_append, List.append_assoc]

/-! ### Operators behind an expression -/

omit proceeds in
theorem took_binary {level : Precedence} {left : Node}
    (isOperator : state.stream.current.kind ∈ operatorsAt level) (lexed : state.stream.Lexed)
    (ran : binary reader (some left) state = .ok answer after)
    (silent : after.log.length ≤ state.log.length) :
    ∃ right : Expr level.tighter,
      answer = some (.binary state.stream.current left state.stream.current.literal right.tree) ∧
      right.Separated ∧
      state.stream.upcoming =
        state.stream.current :: (right.yield ++ after.advance.stream.upcoming) ∧
      ¬ level < after.stream.next.kind.precedence := by
  have isLevel := TokenKind.precedence_of_mem_operatorsAt isOperator
  obtain ⟨isAbove, isBinary⟩ := operatorsAt_le_product isOperator
  have unfinished : state.stream.current.kind ≠ .endOfInput := by
    intro ended
    rw [← isLevel, ended] at isAbove
    exact Precedence.not_lt_lowest _ isAbove
  unfold binary at ran
  rw [bind_of_ok (current_run state), bind_of_ok (advance_run state), isLevel] at ran
  obtain ⟨read, between, readRight, ran⟩ := bind_eq_ok ran
  have isLast : between = after := by
    cases read with
    | none => exact (pure_eq_ok ran).2
    | some right => exact (pure_eq_ok ran).2
  subst isLast
  have tookRight : ∃ right : Expr level.tighter, Took right state.advance read between ∧
      ¬ level < between.stream.next.kind.precedence := by
    rw [← Precedence.operand_of_binary isAbove isBinary]
    exact sound (lexed_advance lexed) readRight silent
  obtain ⟨right, ⟨rfl, upcoming, separated⟩, stops⟩ := tookRight
  obtain ⟨rfl, -⟩ := pure_eq_ok ran
  refine ⟨right, rfl, separated, ?_, stops⟩
  rw [upcoming_of_current rfl unfinished, upcoming]

/-- What starts an expression binds at least as tightly as an operator in front of its
operand. -/
theorem took_opening {kind : TokenKind} {rule : OpeningRule} (opens : Rules.Opens kind rule)
    (isKind : state.stream.current.kind = kind) (lexed : state.stream.Lexed)
    (ran : rule.read reader state = .ok answer after)
    (silent : after.log.length ≤ state.log.length) :
    ∃ (level : Precedence) (derivation : Expr level), Took derivation state answer after ∧
      Precedence.unary.rank ≤ level.rank ∧
      after.stream.next.kind.precedence.rank ≤ level.rank := by
  have atCall : (∃ derivation : Expr .call, Took derivation state answer after) →
      ∃ (level : Precedence) (derivation : Expr level), Took derivation state answer after ∧
        Precedence.unary.rank ≤ level.rank ∧
        after.stream.next.kind.precedence.rank ≤ level.rank := by
    intro ⟨derivation, took⟩
    exact ⟨.call, derivation, took, Precedence.rank_le_call _, Precedence.rank_le_call _⟩
  cases opens with
  | identifier =>
      cases ran
      apply atCall
      exact ⟨.identifier (.ofKind isKind), rfl, upcoming_of_current isKind nofun, trivial⟩
  | integer => exact atCall (took_integer isKind lexed ran silent)
  | boolean listed =>
      cases ran
      apply atCall
      rw [← isKind] at listed
      have unfinished : state.stream.current.kind ≠ .endOfInput :=
        ne_of_mem_of_not_mem listed (by simp)
      exact ⟨.boolean ⟨state.stream.current, listed⟩, rfl, upcoming_of_current rfl unfinished,
        trivial⟩
  | unary listed =>
      rw [← isKind] at listed
      obtain ⟨derivation, took, stops⟩ := took_unary sound listed lexed ran silent
      exact ⟨.unary, derivation, took, Nat.le_refl _, Nat.le_of_not_lt stops⟩
  | group => exact atCall (took_group sound proceeds isKind lexed ran silent)
  | conditional => exact atCall (took_conditional sound proceeds isKind lexed ran silent)
  | function => exact atCall (took_function sound proceeds isKind lexed ran silent)

end Expressions

end Parser

end MonkeySyntax
