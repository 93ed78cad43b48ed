import MonkeySyntax.Proofs.Parser.Completion
import MonkeySyntax.Proofs.Parser.Completeness.Rules

/-!
Contract: every derivation is parsed to its tree, up to exactly the nesting limit.

Owns:
- the induction over derivations: an expression is read up to its own level, and the
  loop over operators goes on from there with its tree;
- the loop over a program, which stops in front of the first statement that needs more
  levels than there are;
- the completeness of a parse.
-/

set_option autoImplicit false

namespace MonkeySyntax

open Grammar

namespace Parser

variable {reader : ExpressionReader} {levels : Nat} {state after : State}

/-! ### The loop over operators -/

theorem limited_expressionBy {enough : Prop} {log : List Report} {level : Precedence}
    {token : Token} {others : List Token} {left : Option Node} (rule : OpeningRule)
    (opens : Rules.Opens token.kind rule)
    (limited : Limited enough log (rule.read reader (state.facing (token :: others)))
      (.ok left after)) :
    Limited enough log
      (Rules.standard.expressionBy reader level (state.facing (token :: others)))
      (repeatTurns (Rules.standard.continuationTurn reader level) left after) := by
  have found : Rules.standard.opening (state.facing (token :: others)).stream.current.kind =
      some rule := Rules.opening_of_opens opens
  unfold Rules.expressionBy
  rw [bind_of_ok (current_run _), found]
  exact limited.bind rfl

theorem limited_continuation {enough : Prop} {log : List Report} {level : Precedence}
    {token : Token} {others : List Token} {left read : Option Node} (last : Token)
    (rule : ContinuationRule) (proceeds : ∀ level state, Proceeds (reader level) state)
    (tighter : level < token.kind.precedence)
    (found : Rules.standard.continuation token.kind = some rule)
    (limited : Limited enough log (rule.read reader left (state.facing (token :: others)))
      (.ok read after)) :
    Limited enough log
      (repeatTurns (Rules.standard.continuationTurn reader level) left
        (state.facing (last :: token :: others)))
      (repeatTurns (Rules.standard.continuationTurn reader level) read after) := by
  apply Limited.repeatTurns (taking_continuationTurn proceeds Rules.standard level)
  have isTighter : level < (state.facing (last :: token :: others)).stream.next.kind.precedence :=
    tighter
  rw [continuationTurn_of_some isTighter found]
  exact limited.bind rfl

/-- Within some levels and one more, an expression is read up to its last token, and
the loop over operators goes on from there. The expressions inside it have one level
less. -/
def Continues {own : Precedence} (derivation : Expr own) : Prop :=
  ∀ (levels : Nat) (level : Precedence) (state : State) (rest : List Token), level < .call →
    level.operand.rank ≤ own.rank → (ahead rest).precedence.rank ≤ own.rank →
    ahead rest ≠ .elseWord →
    ∃ last, Limited (derivation.need ≤ levels + 1) state.log
      (Rules.standard.expressionBy (Rules.standard.expression levels) level
        (state.facing (derivation.yield ++ rest)))
      (repeatTurns (Rules.standard.continuationTurn (Rules.standard.expression levels) level)
        (some derivation.tree) (state.facing (last :: rest)))

theorem reads_of_continues {own : Precedence} {derivation : Expr own}
    (continues : Continues derivation) (level : Precedence) (below : level < .call)
    (atMost : level.operand.rank ≤ own.rank) (levels : Nat) :
    Reads (Rules.standard.expression levels) levels derivation level := by
  intro state rest closes
  cases levels with
  | zero =>
      have needed := derivation.need_pos
      refine ⟨state.stream.current, fun enough => ?_, fun _ => ⟨_, rfl, rfl⟩⟩
      omega
  | succ levels =>
      have stops : (ahead rest).precedence.rank ≤ level.rank := Nat.le_of_not_lt closes.stops
      obtain ⟨last, limited⟩ := continues levels level state rest below atMost
        (Nat.le_trans stops (Nat.le_trans (Precedence.rank_le_operand below) atMost)) closes.notElse
      refine ⟨last, ?_⟩
      have ended : repeatTurns
          (Rules.standard.continuationTurn (Rules.standard.expression levels) level)
          (some derivation.tree) (state.facing (last :: rest)) =
            .ok (some derivation.tree) (state.facing (last :: rest)) := by
        apply repeatTurns_done
        apply continuationTurn_of_not_lt
        rw [next_facing]
        exact closes.stops
      rw [ended] at limited
      exact limited

/-! ### The cases of an expression -/

theorem reads_of_continues_equality {derivation : Expr .equality}
    (continues : Continues derivation) (levels : Nat) :
    Reads (Rules.standard.expression levels) levels derivation .lowest :=
  reads_of_continues continues .lowest (by decide) (by decide) levels

theorem continues_identifier (name : Terminal [.ident]) : Continues (.identifier name) := by
  intro levels level state rest below atMost stops notElse
  refine ⟨name.token, limited_expressionBy .identifier ?_ ?_⟩
  · rw [name.kind_eq]
    exact .identifier
  · exact Limited.of_eq (Nat.le_add_left 1 levels) rfl

theorem continues_integer (numeral : IntegerLiteral) : Continues (.integer numeral) := by
  intro levels level state rest below atMost stops notElse
  refine ⟨numeral.token, limited_expressionBy .integer ?_ ?_⟩
  · rw [numeral.kind_eq]
    exact .integer
  · exact Limited.of_eq (Nat.le_add_left 1 levels) (integer_facing state numeral rest)

theorem continues_boolean (word : Terminal [.trueWord, .falseWord]) :
    Continues (.boolean word) := by
  intro levels level state rest below atMost stops notElse
  refine ⟨word.token, limited_expressionBy .boolean (.boolean word.kind_mem) ?_⟩
  exact Limited.of_eq (Nat.le_add_left 1 levels) rfl

theorem continues_group (opening : Terminal [.leftParen]) {inside : Expr .equality}
    (closing : Terminal [.rightParen]) (continues : Continues inside) :
    Continues (.group opening inside closing) := by
  intro levels level state rest below atMost stops notElse
  refine ⟨closing.token, ?_⟩
  rw [Expr.yield, List.cons_append, List.append_assoc]
  refine limited_expressionBy .group ?_ ?_
  · rw [opening.kind_eq]
    exact .group
  · have reads := reads_of_continues_equality continues levels
    apply (limited_group state rest opening closing reads).of_iff
    rw [Expr.need]
    omega

theorem continues_unary (operator : Terminal [.bang, .minus]) {operand : Expr .unary}
    (continues : Continues operand) : Continues (.unary operator operand) := by
  intro levels level state rest below atMost stops notElse
  have reads := reads_of_continues continues .unary (by decide) (Nat.le_refl _) levels
  obtain ⟨last, limited⟩ := limited_unary state rest operator reads
    ⟨Nat.not_lt_of_le stops, notElse⟩
  refine ⟨last, ?_⟩
  rw [Expr.yield, List.cons_append]
  apply (limited_expressionBy .unary (.unary operator.kind_mem) limited).of_iff
  rw [Expr.need]
  omega

theorem continues_conditional (word : Terminal [.ifWord]) (opening : Terminal [.leftParen])
    {condition : Expr .equality} (closing : Terminal [.rightParen]) {consequence : Block}
    {otherwise : Alternative} (continues : Continues condition)
    (readsConsequence : ∀ levels, ReadsBlock (Rules.standard.expression levels) levels consequence)
    (readsOtherwise : ∀ levels,
      ReadsAlternative (Rules.standard.expression levels) levels otherwise) :
    Continues (.conditional word opening condition closing consequence otherwise) := by
  intro levels level state rest below atMost stops notElse
  obtain ⟨last, limited⟩ := limited_conditional state rest word opening closing
    (reads_of_continues_equality continues levels) (readsConsequence levels)
    (readsOtherwise levels) notElse
  refine ⟨last, ?_⟩
  have opens : Rules.Opens word.token.kind .conditional := by
    rw [word.kind_eq]
    exact .conditional
  simp only [Expr.yield, List.cons_append, List.append_assoc]
  apply (limited_expressionBy .conditional opens limited).of_iff
  rw [Expr.need]
  omega

theorem continues_function (word : Terminal [.functionWord]) (opening : Terminal [.leftParen])
    (names : Parameters) (closing : Terminal [.rightParen]) {body : Block}
    (reads : ∀ levels, ReadsBlock (Rules.standard.expression levels) levels body) :
    Continues (.function word opening names closing body) := by
  intro levels level state rest below atMost stops notElse
  obtain ⟨last, limited⟩ := limited_function state rest word opening names closing (reads levels)
  refine ⟨last, ?_⟩
  have opens : Rules.Opens word.token.kind .function := by
    rw [word.kind_eq]
    exact .function
  simp only [Expr.yield, List.cons_append, List.append_assoc]
  apply (limited_expressionBy .function opens limited).of_iff
  rw [Expr.need]
  omega

/-- A call goes on behind its callee, whatever level is read up to. -/
theorem continues_call {callee : Expr .call} (opening : Terminal [.leftParen])
    {arguments : Arguments} (closing : Terminal [.rightParen]) (continues : Continues callee)
    (reads : ∀ levels, ReadsArguments (Rules.standard.expression levels) levels arguments) :
    Continues (.call callee opening arguments closing) := by
  intro levels level state rest below atMost stops notElse
  obtain ⟨last, limited⟩ := continues levels level state
    (opening.token :: (arguments.yield ++ closing.token :: rest)) below atMost
    (Precedence.rank_le_call _) (by rw [ahead_cons, opening.kind_eq]; decide)
  refine ⟨closing.token, ?_⟩
  have limitedCall := limited_call state rest callee.tree opening closing (reads levels)
  have tighter : level < opening.token.kind.precedence := by
    rw [opening.kind_eq]
    exact below
  have found : Rules.standard.continuation opening.token.kind = some .call := by
    rw [opening.kind_eq]
    exact Rules.continuation_leftParen
  have later := limited_continuation last .call (proceeds_expression levels) tighter
    found limitedCall
  simp only [Expr.yield, List.append_assoc, List.cons_append, List.nil_append]
  apply (limited.trans later).of_iff
  rw [Expr.need, Nat.max_le]

/-- An operator goes on behind its left part when it binds tighter than the level that
is read up to. -/
theorem continues_binary {own : Precedence} {left : Expr own}
    (operator : Terminal (operatorsAt own)) {right : Expr own.tighter}
    (continues : Continues left) (continuesRight : Continues right) :
    Continues (.binary left operator right) := by
  intro levels level state rest below atMost stops notElse
  have isLevel := TokenKind.precedence_of_mem_operatorsAt operator.kind_mem
  obtain ⟨isAbove, isBinary⟩ := operatorsAt_le_product operator.kind_mem
  have belowCall : own < .call := Nat.lt_trans isBinary (by decide)
  have notCall : operator.token.kind ≠ .leftParen := by
    intro isCall
    rw [isCall] at isLevel
    rw [← isLevel] at belowCall
    exact absurd belowCall (by decide)
  have notElseAhead : operator.token.kind ≠ .elseWord := by
    intro isElse
    rw [isElse] at isLevel
    rw [← isLevel] at isAbove
    exact absurd isAbove (by decide)
  obtain ⟨between, limited⟩ := continues levels level state
    (operator.token :: (right.yield ++ rest)) below atMost (Nat.le_of_eq (congrArg _ isLevel))
    notElseAhead
  have isTighter := congrArg Precedence.rank (Precedence.operand_of_binary isAbove isBinary)
  have reads := reads_of_continues continuesRight own belowCall (Nat.le_of_eq isTighter) levels
  obtain ⟨last, limitedBinary⟩ := limited_binary state rest left.tree operator reads
    ⟨Nat.not_lt_of_le stops, notElse⟩
  refine ⟨last, ?_⟩
  have tighter : level < operator.token.kind.precedence := by
    rw [isLevel]
    exact Precedence.lt_of_operand_le isBinary atMost
  have found : Rules.standard.continuation operator.token.kind = some .binary :=
    Rules.continuation_of_operator (by rw [isLevel]; exact isAbove) notCall
  have later := limited_continuation between .binary
    (proceeds_expression levels) tighter found limitedBinary
  rw [Expr.yield, List.append_assoc, List.cons_append]
  apply (limited.trans later).of_iff
  rw [Expr.need, Nat.max_le]
  omega

theorem continues_pass {own : Precedence} (isLevel : .lowest < own) (isLooser : own < .call)
    {inside : Expr own.tighter} (continues : Continues inside) :
    Continues (.pass isLevel isLooser inside) := by
  intro levels level state rest below atMost stops notElse
  have tighter := Precedence.rank_le_tighter own
  exact continues levels level state rest below (Nat.le_trans atMost tighter)
    (Nat.le_trans stops tighter) notElse

/-! ### The induction over derivations -/

mutual

theorem Expr.continues : {own : Precedence} → (derivation : Expr own) → derivation.Separated →
    Continues derivation
  | _, .identifier name, _ => continues_identifier name
  | _, .integer numeral, _ => continues_integer numeral
  | _, .boolean word, _ => continues_boolean word
  | _, .group opening inside closing, separated =>
      continues_group opening closing (Expr.continues inside separated)
  | _, .conditional word opening condition closing consequence otherwise,
      ⟨separated, separatedConsequence, separatedOtherwise⟩ =>
      continues_conditional word opening closing (Expr.continues condition separated)
        (Block.reads consequence separatedConsequence)
        (Alternative.reads otherwise separatedOtherwise)
  | _, .function word opening names closing body, separated =>
      continues_function word opening names closing (Block.reads body separated)
  | _, .call callee opening arguments closing, ⟨separated, separatedArguments⟩ =>
      continues_call opening closing (Expr.continues callee separated)
        (Arguments.reads arguments separatedArguments)
  | _, .unary operator operand, separated =>
      continues_unary operator (Expr.continues operand separated)
  | _, .binary left operator right, separated =>
      continues_binary operator (Expr.continues left (Expr.separated_binary.mp separated).1)
        (Expr.continues right (Expr.separated_binary.mp separated).2)
  | _, .pass isLevel isLooser inside, separated =>
      continues_pass isLevel isLooser (Expr.continues inside separated)

theorem Arguments.reads : (derivation : Arguments) → derivation.Separated → ∀ levels,
    ReadsArguments (Rules.standard.expression levels) levels derivation
  | .none, _, _ => readsArguments_none
  | .expressions first others, ⟨separated, separatedOthers⟩, levels =>
      readsArguments_expressions
        (reads_of_continues_equality (Expr.continues first separated) levels)
        (readsOthers others separatedOthers levels)

theorem readsOthers : (others : List (Terminal [.comma] × Expr .equality)) →
    SeparatedOthers others → ∀ levels,
    ReadsOthers (Rules.standard.expression levels) levels others
  | [], _, _ => readsOthers_nil
  | (_, argument) :: others, ⟨separated, separatedOthers⟩, levels =>
      readsOthers_cons (proceeds_expression levels)
        (reads_of_continues_equality (Expr.continues argument separated) levels)
        (readsOthers others separatedOthers levels)

theorem Alternative.reads : (derivation : Alternative) → derivation.Separated → ∀ levels,
    ReadsAlternative (Rules.standard.expression levels) levels derivation
  | .none, _, _ => readsAlternative_none
  | .block _ block, separated, levels => readsAlternative_block (Block.reads block separated levels)

theorem Block.reads : (derivation : Block) → derivation.Separated → ∀ levels,
    ReadsBlock (Rules.standard.expression levels) levels derivation
  | .braces _ statements _, separated, levels => readsBlock (readsAll statements separated levels)

theorem readsAll : (statements : List Statement) → SeparatedAll statements → ∀ levels,
    ReadsStatements (Rules.standard.expression levels) levels statements
  | [], _, _ => readsStatements_nil
  | first :: statements, ⟨separated, separatedNext, separatedAll⟩, levels =>
      readsStatements_cons (proceeds_expression levels) (Statement.reads first separated levels)
        (readsAll statements separatedAll levels) separatedNext

theorem Statement.reads : (derivation : Statement) → derivation.Separated → ∀ levels,
    ReadsStatement (Rules.standard.expression levels) levels derivation
  | .letStatement word name sign value ending, separated, levels =>
      reads_letStatement word name sign ending
        (reads_of_continues_equality (Expr.continues value separated) levels)
  | .returnStatement word value ending, separated, levels =>
      reads_returnStatement word ending
        (reads_of_continues_equality (Expr.continues value separated) levels)
  | .expressionStatement value ending, separated, levels =>
      reads_expressionStatement ending
        (reads_of_continues_equality (Expr.continues value separated) levels)

end

/-! ### Programs -/

theorem ends_nil : Ends (ahead []) := ⟨by decide, by decide, by decide⟩

/-- Where a program ends, nothing goes on with its last statement. -/
theorem ends_program {statements : List Statement}
    (separated : ∀ token ∈ (yieldAll statements).head?, token.kind ∉ continuing) :
    Ends (ahead (yieldAll statements)) := by
  have ends := ends_yieldAll [] separated fun _ => ends_nil
  rwa [List.append_nil] at ends

theorem unfinished_yieldAll (state : State) (first : Statement) (statements : List Statement)
    (rest : List Token) :
    (state.facing (yieldAll (first :: statements) ++ rest)).stream.current.kind ≠
      .endOfInput := by
  obtain ⟨start, others, yields, listed⟩ := first.yield_eq_cons
  rw [current_facing, yieldAll, yields, List.cons_append, List.cons_append, ahead_cons]
  exact ne_of_mem_of_not_mem listed (by simp [starting])

/-- The loop over a program reads statements that need no more levels than there are, and
goes on behind the last of them. -/
theorem program_append (levels : Nat) {statements : List Statement}
    (separated : SeparatedAll statements)
    (enough : ∀ statement ∈ statements, statement.need ≤ levels) (rest : List Token)
    (follows : ∀ last ∈ statements.getLast?, last.ending = none → Ends (ahead rest))
    (read : List Node) (state : State) :
    repeatTurns (programTurn (Rules.standard.expression levels)) read
        (state.facing (yieldAll statements ++ rest)) =
      repeatTurns (programTurn (Rules.standard.expression levels))
        ((treesAll statements).reverse ++ read) (state.facing rest) := by
  induction statements generalizing read with
  | nil => rfl
  | cons first statements inductionHypothesis =>
      obtain ⟨separatedFirst, separatedNext, separatedLater⟩ := separated
      have followsFirst : first.ending = none → Ends (ahead (yieldAll statements ++ rest)) := by
        intro isOpen
        apply ends_yieldAll rest (separatedNext isOpen)
        rintro rfl
        exact follows first rfl isOpen
      have followsLater : ∀ last ∈ statements.getLast?, last.ending = none →
          Ends (ahead rest) := by
        intro last isLast
        apply follows last
        rw [List.getLast?_cons, Option.mem_def.mp isLast]
        rfl
      obtain ⟨last, limited⟩ := Statement.reads first separatedFirst levels state
        (yieldAll statements ++ rest) followsFirst
      have readFirst := limited.eq_of_enough (enough first List.mem_cons_self)
      rw [← List.append_assoc] at readFirst
      have later := inductionHypothesis separatedLater
        (fun statement listed => enough statement (List.mem_cons_of_mem _ listed)) followsLater
        (first.tree :: read)
      rw [treesAll, List.reverse_cons, List.append_assoc,
        repeatTurns_again (taking_programTurn (proceeds_expression levels))
          (programTurn_of_ok (unfinished_yieldAll state first statements rest) readFirst)]
      exact later

/-- The loop over a program that needs no more levels than there are. -/
theorem program_of_enough (levels : Nat) {statements : List Statement}
    (separated : SeparatedAll statements)
    (enough : ∀ statement ∈ statements, statement.need ≤ levels) (read : List Node)
    (state : State) :
    repeatTurns (programTurn (Rules.standard.expression levels)) read
        (state.facing (yieldAll statements)) =
      .ok (read.reverse ++ treesAll statements) (state.facing []) := by
  have passed := program_append levels separated enough [] (fun _ _ _ => ends_nil) read state
  have ended : repeatTurns (programTurn (Rules.standard.expression levels))
      ((treesAll statements).reverse ++ read) (state.facing []) =
        .ok ((treesAll statements).reverse ++ read).reverse (state.facing []) :=
    repeatTurns_done (programTurn_of_ended rfl)
  rw [List.append_nil, ended, List.reverse_append, List.reverse_reverse] at passed
  exact passed

/-- The loop over a program ends in front of the first statement that needs more levels
than there are. -/
theorem program_of_not_enough (levels : Nat) {statements : List Statement}
    (separated : SeparatedAll statements)
    (exceeds : ∃ statement ∈ statements, levels < statement.need) (read : List Node)
    (state : State) :
    ∃ cut : State, cut.log = state.log ∧
      repeatTurns (programTurn (Rules.standard.expression levels)) read
          (state.facing (yieldAll statements)) =
        .ok (read.reverse ++ treesAll (statements.takeWhile fun statement =>
          statement.need ≤ levels)) (cut.told .nestedTooDeeply) := by
  induction statements generalizing read with
  | nil =>
      obtain ⟨statement, absent, -⟩ := exceeds
      exact absurd absent List.not_mem_nil
  | cons first statements inductionHypothesis =>
      obtain ⟨separatedFirst, separatedNext, separatedLater⟩ := separated
      obtain ⟨last, limited⟩ := Statement.reads first separatedFirst levels state
        (yieldAll statements) fun isOpen => ends_program (separatedNext isOpen)
      have unfinished := unfinished_yieldAll state first statements []
      rw [List.append_nil] at unfinished
      by_cases fits : first.need ≤ levels
      · obtain ⟨statement, listed, tooMuch⟩ := exceeds
        have exceedsLater : ∃ statement ∈ statements, levels < statement.need := by
          rcases List.mem_cons.mp listed with rfl | later
          · exact absurd fits (Nat.not_le_of_lt tooMuch)
          · exact ⟨statement, later, tooMuch⟩
        obtain ⟨cut, logged, later⟩ :=
          inductionHypothesis separatedLater exceedsLater (first.tree :: read)
        refine ⟨cut, logged, ?_⟩
        rw [List.reverse_cons, List.append_assoc] at later
        rw [List.takeWhile_cons_of_pos (by simpa using fits),
          repeatTurns_again (taking_programTurn (proceeds_expression levels))
            (programTurn_of_ok unfinished (limited.eq_of_enough fits))]
        exact later
      · obtain ⟨cut, failed, logged⟩ := limited.cut_of_not fits
        refine ⟨cut, logged, ?_⟩
        rw [List.takeWhile_cons_of_neg (by simpa using fits), treesAll, List.append_nil]
        exact repeatTurns_done (programTurn_of_tooDeep unfinished failed)

end Parser

section Texts

variable {source : String} {statements : List Statement}

theorem start_facing (yields : (tokenize source).dropLast = yieldAll statements) :
    (Parser.State.start (.ofString source)).facing (yieldAll statements) =
      .start (.ofString source) := by
  rw [← yields, tokenize_dropLast]
  rfl

theorem parse_eq_of_need_le (separated : SeparatedAll statements)
    (yields : (tokenize source).dropLast = yieldAll statements)
    (enough : ∀ statement ∈ statements, statement.need ≤ 100) :
    parse source = ⟨treesAll statements, [], none⟩ := by
  obtain ⟨read, after, ran, isParse⟩ := parseWith_eq nestingLimit source
  have ended := Parser.program_of_enough nestingLimit separated enough []
    (.start (.ofString source))
  rw [start_facing yields] at ended
  cases ended.symm.trans ran
  exact isParse

theorem parse_of_lt_need (separated : SeparatedAll statements)
    (yields : (tokenize source).dropLast = yieldAll statements)
    (exceeds : ∃ statement ∈ statements, 100 < statement.need) :
    (parse source).errors = ["expression nested too deeply"] ∧
      (parse source).statements =
        treesAll (statements.takeWhile fun statement => statement.need ≤ 100) := by
  obtain ⟨read, after, ran, isParse⟩ := parseWith_eq nestingLimit source
  change parse source = _ at isParse
  rw [isParse]
  obtain ⟨cut, logged, ended⟩ := Parser.program_of_not_enough nestingLimit separated exceeds []
    (.start (.ofString source))
  rw [start_facing yields] at ended
  cases ended.symm.trans ran
  have noneBefore : cut.errors = [] := by
    unfold Parser.State.errors Parser.State.reports
    rw [logged]
    rfl
  constructor
  · change (cut.told .nestedTooDeeply).errors = _
    rw [Parser.errors_told, noneBefore]
    rfl
  · rfl

end Texts

/-- A text whose tokens are the yield of a derivation is parsed without errors to the
tree of the derivation, if no statement needs more than a hundred levels of nesting.
Otherwise the nesting is the only error, and the statements are those before the first
one that needs more. -/
theorem parse_of_derivation (source : String) (statements : List Statement)
    (separated : SeparatedAll statements)
    (yields : (tokenize source).dropLast = yieldAll statements) :
    (parse source).abandoned = none ∧
      ((∀ statement ∈ statements, statement.need ≤ 100) →
        (parse source).errors = [] ∧
          (parse source).program = .program (treesAll statements)) ∧
      ((∃ statement ∈ statements, 100 < statement.need) →
        (parse source).errors = ["expression nested too deeply"] ∧
          (parse source).program = .program (treesAll (statements.takeWhile fun statement =>
            statement.need ≤ 100))) := by
  refine ⟨?_, ?_, ?_⟩
  · obtain ⟨read, after, -, isParse⟩ := parseWith_eq nestingLimit source
    exact congrArg Parsed.abandoned isParse
  · intro enough
    rw [parse_eq_of_need_le separated yields enough]
    exact ⟨rfl, rfl⟩
  · intro exceeds
    obtain ⟨isError, isTree⟩ := parse_of_lt_need separated yields exceeds
    exact ⟨isError, congrArg Node.program isTree⟩

/-- The derivation of a name in parentheses behind an operator. -/
def negatedGroup : List Statement :=
  let name : Expr .call := .identifier ⟨⟨.ident, "a", 1, 3⟩, by decide⟩
  let inside : Expr .equality :=
    .pass (by decide) (by decide) (.pass (by decide) (by decide) (.pass (by decide) (by decide)
      (.pass (by decide) (by decide) (.pass (by decide) (by decide) name))))
  let group : Expr .call :=
    .group ⟨⟨.leftParen, "(", 1, 2⟩, by decide⟩ inside ⟨⟨.rightParen, ")", 1, 4⟩, by decide⟩
  let negated : Expr .unary :=
    .unary ⟨⟨.minus, "-", 1, 1⟩, by decide⟩ (.pass (by decide) (by decide) group)
  [.expressionStatement
    (.pass (by decide) (by decide) (.pass (by decide) (by decide) (.pass (by decide) (by decide)
      (.pass (by decide) (by decide) negated)))) (some ⟨⟨.semicolon, ";", 1, 5⟩, by decide⟩)]

theorem parse_negatedGroup :
    (parse "-(a);").errors = [] ∧
      (parse "-(a);").program = .program (treesAll negatedGroup) := by
  have separated : SeparatedAll negatedGroup := by
    refine ⟨trivial, ?_, trivial⟩
    intro isOpen
    cases isOpen
  have yields : (tokenize "-(a);").dropLast = yieldAll negatedGroup := by decide +kernel
  have enough : ∀ statement ∈ negatedGroup, statement.need ≤ 100 := by
    intro statement listed
    rw [List.mem_singleton.mp listed]
    decide
  exact (parse_of_derivation "-(a);" negatedGroup separated yields).2.1 enough

end MonkeySyntax
