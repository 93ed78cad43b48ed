import MonkeySyntax.Proofs.Parser.Congruence
import MonkeySyntax.Proofs.Parser.Literals

/-!
Contract: what each rule makes of the tokens of a derivation.

Owns:
- results that depend on whether there are enough levels of nesting;
- what it means that a reader reads a derivation within some levels;
- for every rule of the language, what it reads when the reader it uses reads the
  derivations inside.

Does not own: the induction over derivations.

Nothing is reported in a derivation. Where a level is missing the run is abandoned,
and the reports are those of before.
-/

set_option autoImplicit false

namespace MonkeySyntax

open Grammar

namespace Grammar

/-- The kind of the first of some tokens, which is the end of the input when there is
none. -/
def ahead (tokens : List Token) : TokenKind := (tokens.head?.map Token.kind).getD .endOfInput

theorem ahead_cons (token : Token) (others : List Token) : ahead (token :: others) = token.kind :=
  rfl

end Grammar

namespace Parser

/-- The state with other tokens ahead. -/
def State.facing (state : State) (tokens : List Token) : State :=
  { state with stream := { state.stream with upcoming := tokens } }

variable {α β : Type} {reader : ExpressionReader} {levels : Nat}

theorem current_facing (state : State) (tokens : List Token) :
    (state.facing tokens).stream.current.kind = ahead tokens := by
  cases tokens <;> rfl

theorem next_facing (state : State) (token : Token) (others : List Token) :
    (state.facing (token :: others)).stream.next.kind = ahead others := by
  cases others <;> rfl

theorem next_run_facing (state : State) (token ahead : Token) (others : List Token) :
    next (state.facing (token :: ahead :: others)) =
      .ok ahead (state.facing (token :: ahead :: others)) := rfl

theorem expectNext_facing {state : State} {token ahead : Token} {others : List Token}
    {kind : TokenKind} (isKind : ahead.kind = kind) :
    expectNext kind (state.facing (token :: ahead :: others)) =
      .ok true (state.facing (ahead :: others)) := by
  apply expectNext_of_eq
  exact isKind

theorem advanceTo_facing {state : State} {token ahead : Token} {others : List Token}
    {kind : TokenKind} (isKind : ahead.kind = kind) :
    advanceTo kind (state.facing (token :: ahead :: others)) =
      .ok () (state.facing (ahead :: others)) := by
  apply advanceTo_of_eq
  exact isKind

theorem advanceTo_facing_of_ne {state : State} {token : Token} {others : List Token}
    {kind : TokenKind} (notKind : ahead others ≠ kind) :
    advanceTo kind (state.facing (token :: others)) = .ok () (state.facing (token :: others)) := by
  apply advanceTo_of_ne
  rw [next_facing]
  exact notKind

theorem integer_facing (state : State) (numeral : IntegerLiteral) (others : List Token) :
    integer (state.facing (numeral.token :: others)) =
      .ok (some (.integer numeral.token (decimal numeral.token.literal.toList)))
        (state.facing (numeral.token :: others)) :=
  Eq.trans (integer_of_isDigit numeral.isDigit) (if_pos numeral.inRange)

/-! ### Results within some levels -/

/-- A result that is another one when there are enough levels, and otherwise is the
abandonment for nesting, with some reports unchanged. -/
structure Limited (enough : Prop) (log : List Report) (ended goal : EStateM.Result Abort State α) :
    Prop where
  eq_of_enough : enough → ended = goal
  cut_of_not : ¬ enough → ∃ cut, ended = .error .nestedTooDeeply cut ∧ cut.log = log

namespace Limited

variable {enough alsoEnough : Prop} {log : List Report}
  {ended between goal : EStateM.Result Abort State α}

theorem of_eq (isEnough : enough) (same : ended = goal) : Limited enough log ended goal :=
  ⟨fun _ => same, fun notEnough => absurd isEnough notEnough⟩

theorem of_iff (limited : Limited enough log ended goal) (same : alsoEnough ↔ enough) :
    Limited alsoEnough log ended goal :=
  ⟨fun isEnough => limited.eq_of_enough (same.mp isEnough),
    fun notEnough => limited.cut_of_not fun isEnough => notEnough (same.mpr isEnough)⟩

theorem trans (first : Limited enough log ended between)
    (second : Limited alsoEnough log between goal) :
    Limited (enough ∧ alsoEnough) log ended goal := by
  constructor
  · intro ⟨isEnough, isAlsoEnough⟩
    rw [first.eq_of_enough isEnough, second.eq_of_enough isAlsoEnough]
  · intro notBoth
    by_cases isEnough : enough
    · rw [first.eq_of_enough isEnough]
      exact second.cut_of_not fun isAlsoEnough => notBoth ⟨isEnough, isAlsoEnough⟩
    · exact first.cut_of_not isEnough

/-- A sequence is limited by its first step when the others go on from there. -/
theorem bind {step : ParseM α} {following : α → ParseM β} {state after : State} {answer : α}
    {goal : EStateM.Result Abort State β}
    (limited : Limited enough log (step state) (.ok answer after))
    (goesOn : following answer after = goal) :
    Limited enough log ((step >>= following) state) goal := by
  constructor
  · intro isEnough
    rw [bind_of_ok (limited.eq_of_enough isEnough), goesOn]
  · intro notEnough
    obtain ⟨cut, failed, logged⟩ := limited.cut_of_not notEnough
    exact ⟨cut, bind_of_error failed, logged⟩

theorem bind_limited {step : ParseM α} {following : α → ParseM β} {state after : State}
    {answer : α} {goal : EStateM.Result Abort State β}
    (limited : Limited enough log (step state) (.ok answer after))
    (limitedLater : Limited alsoEnough log (following answer after) goal) :
    Limited (enough ∧ alsoEnough) log ((step >>= following) state) goal :=
  (limited.bind rfl).trans limitedLater

theorem repeatTurns {turn : β → ParseM (Turn β α)} (taking : Taking turn) {carried following : β}
    {state after : State}
    (limited : Limited enough log (turn carried state) (.ok (.again following) after)) :
    Limited enough log (Parser.repeatTurns turn carried state)
      (Parser.repeatTurns turn following after) := by
  constructor
  · intro isEnough
    exact repeatTurns_again taking (limited.eq_of_enough isEnough)
  · intro notEnough
    obtain ⟨cut, failed, logged⟩ := limited.cut_of_not notEnough
    exact ⟨cut, repeatTurns_error failed, logged⟩

end Limited

/-! ### Readers and what follows an expression -/

/-- What can stand behind an expression that is read up to a level. -/
structure Closes (level : Precedence) (kind : TokenKind) : Prop where
  stops : ¬ level < kind.precedence
  notElse : kind ≠ .elseWord

/-- Nothing goes on with an expression in front of what separates or closes. -/
theorem closes_cons {kind : TokenKind} (terminal : Terminal [kind]) (rest : List Token)
    (level : Precedence) (listed : kind ∈ [.comma, .semicolon, .rightParen, .rightBrace]) :
    Closes level (ahead (terminal.token :: rest)) := by
  have all : ∀ kind ∈ [TokenKind.comma, .semicolon, .rightParen, .rightBrace],
      kind.precedence = .lowest ∧ kind ≠ .elseWord := by decide
  obtain ⟨isLowest, notElse⟩ := all kind listed
  rw [ahead_cons, terminal.kind_eq]
  refine ⟨?_, notElse⟩
  rw [isLowest]
  exact Precedence.not_lt_lowest level

/-- A reader reads an expression up to a level when it needs no more than some levels of
nesting, and stops on its last token. -/
def Reads (reader : ExpressionReader) (levels : Nat) {own : Precedence} (derivation : Expr own)
    (level : Precedence) : Prop :=
  ∀ (state : State) (rest : List Token), Closes level (ahead rest) →
    ∃ last, Limited (derivation.need ≤ levels) state.log
      (reader level (state.facing (derivation.yield ++ rest)))
      (.ok (some derivation.tree) (state.facing (last :: rest)))

/-! ### Operators and groups -/

section Rules

variable (state : State) (rest : List Token)

theorem limited_unary (operator : Terminal [.bang, .minus]) {operand : Expr .unary}
    (reads : Reads reader levels operand .unary) (closes : Closes .unary (ahead rest)) :
    ∃ last, Limited (operand.need ≤ levels) state.log
      (unary reader (state.facing (operator.token :: (operand.yield ++ rest))))
      (.ok (some (.unary operator.token operator.token.literal operand.tree))
        (state.facing (last :: rest))) := by
  obtain ⟨last, limited⟩ := reads state rest closes
  refine ⟨last, ?_⟩
  unfold unary
  rw [bind_of_ok (current_run _), bind_of_ok (advance_run _)]
  exact limited.bind rfl

theorem limited_group (opening : Terminal [.leftParen]) {inside : Expr .equality}
    (closing : Terminal [.rightParen]) (reads : Reads reader levels inside .lowest) :
    Limited (inside.need ≤ levels) state.log
      (group reader (state.facing (opening.token :: (inside.yield ++ closing.token :: rest))))
      (.ok (some inside.tree) (state.facing (closing.token :: rest))) := by
  obtain ⟨last, limited⟩ := reads state (closing.token :: rest)
    (closes_cons closing rest .lowest (by simp))
  unfold group
  rw [bind_of_ok (advance_run _)]
  apply limited.bind
  rw [bind_of_ok (expectNext_facing closing.kind_eq)]
  rfl

/-- An operator and its right operand, behind a left one. -/
theorem limited_binary {level : Precedence} (left : Node) (operator : Terminal (operatorsAt level))
    {right : Expr level.tighter} (reads : Reads reader levels right level)
    (closes : Closes level (ahead rest)) :
    ∃ last, Limited (right.need ≤ levels) state.log
      (binary reader (some left) (state.facing (operator.token :: (right.yield ++ rest))))
      (.ok (some (.binary operator.token left operator.token.literal right.tree))
        (state.facing (last :: rest))) := by
  have isLevel := TokenKind.precedence_of_mem_operatorsAt operator.kind_mem
  obtain ⟨last, limited⟩ := reads state rest closes
  refine ⟨last, ?_⟩
  unfold binary
  rw [bind_of_ok (current_run _), bind_of_ok (advance_run _)]
  change Limited _ _ ((reader operator.token.kind.precedence >>= _) _) _
  rw [isLevel]
  exact limited.bind rfl

/-! ### Statements -/

/-- What can stand behind a statement without a semicolon. -/
structure Ends (kind : TokenKind) : Prop where
  notContinuing : kind ∉ continuing
  notSemicolon : kind ≠ .semicolon
  notElse : kind ≠ .elseWord

theorem Ends.closes {kind : TokenKind} (ends : Ends kind) : Closes .lowest kind :=
  ⟨fun goesOn => ends.notContinuing ((TokenKind.lowest_lt_precedence_iff kind).mp goesOn),
    ends.notElse⟩

theorem limited_closingExpression {value : Expr .equality}
    (reads : Reads reader levels value .lowest) (ending : Option (Terminal [.semicolon]))
    (ends : ending = none → Ends (ahead rest)) :
    ∃ last, Limited (value.need ≤ levels) state.log
      (closingExpression reader (state.facing (value.yield ++ (yieldEnding ending ++ rest))))
      (.ok (some value.tree) (state.facing (last :: rest))) := by
  unfold closingExpression
  cases ending with
  | none =>
      have ends := ends rfl
      obtain ⟨last, limited⟩ := reads state rest ends.closes
      refine ⟨last, limited.bind ?_⟩
      rw [bind_of_ok (advanceTo_facing_of_ne ends.notSemicolon)]
      rfl
  | some semicolon =>
      obtain ⟨last, limited⟩ := reads state (semicolon.token :: rest)
        (closes_cons semicolon rest .lowest (by simp))
      refine ⟨semicolon.token, limited.bind ?_⟩
      rw [bind_of_ok (advanceTo_facing semicolon.kind_eq)]
      rfl

/-- A reader reads a statement within some levels, and stops on its last token. -/
def ReadsStatement (reader : ExpressionReader) (levels : Nat) (derivation : Statement) : Prop :=
  ∀ (state : State) (rest : List Token), (derivation.ending = none → Ends (ahead rest)) →
    ∃ last, Limited (derivation.need ≤ levels) state.log
      (statement reader (state.facing (derivation.yield ++ rest)))
      (.ok (some derivation.tree) (state.facing (last :: rest)))

theorem statement_of_let {token : Token} {others : List Token} (isLet : token.kind = .letWord) :
    statement reader (state.facing (token :: others)) =
      letStatement reader (state.facing (token :: others)) :=
  (statement_run reader (state.facing (token :: others))).trans (if_pos isLet)

theorem statement_of_return {token : Token} {others : List Token}
    (isReturn : token.kind = .returnWord) :
    statement reader (state.facing (token :: others)) =
      returnStatement reader (state.facing (token :: others)) := by
  have notLet : token.kind ≠ .letWord := by simp [isReturn]
  exact (statement_run reader (state.facing (token :: others))).trans
    ((if_neg notLet).trans (if_pos isReturn))

theorem statement_of_starting {token : Token} {others : List Token}
    (starts : token.kind ∈ starting) :
    statement reader (state.facing (token :: others)) =
      expressionStatement reader (state.facing (token :: others)) := by
  have notLet : token.kind ≠ .letWord := ne_of_mem_of_not_mem starts (by simp [starting])
  have notReturn : token.kind ≠ .returnWord := ne_of_mem_of_not_mem starts (by simp [starting])
  exact (statement_run reader (state.facing (token :: others))).trans
    ((if_neg notLet).trans (if_neg notReturn))

theorem reads_letStatement {value : Expr .equality} (word : Terminal [.letWord])
    (name : Terminal [.ident]) (sign : Terminal [.assign]) (ending : Option (Terminal [.semicolon]))
    (reads : Reads reader levels value .lowest) :
    ReadsStatement reader levels (.letStatement word name sign value ending) := by
  intro state rest ends
  obtain ⟨last, limited⟩ := limited_closingExpression state rest reads ending ends
  refine ⟨last, ?_⟩
  rw [Statement.yield, List.cons_append, List.cons_append, List.cons_append, List.append_assoc,
    statement_of_let state word.kind_eq]
  unfold letStatement
  rw [bind_of_ok (current_run _), bind_of_ok (expectNext_facing name.kind_eq)]
  change Limited _ _ ((identifier >>= _) _) _
  rw [bind_of_ok (identifier_run _), bind_of_ok (expectNext_facing sign.kind_eq)]
  change Limited _ _ ((advance >>= _) _) _
  rw [bind_of_ok (advance_run _)]
  exact limited.bind rfl

theorem reads_returnStatement {value : Expr .equality} (word : Terminal [.returnWord])
    (ending : Option (Terminal [.semicolon])) (reads : Reads reader levels value .lowest) :
    ReadsStatement reader levels (.returnStatement word value ending) := by
  intro state rest ends
  obtain ⟨last, limited⟩ := limited_closingExpression state rest reads ending ends
  refine ⟨last, ?_⟩
  rw [Statement.yield, List.cons_append, List.append_assoc, statement_of_return state word.kind_eq]
  unfold returnStatement
  rw [bind_of_ok (current_run _), bind_of_ok (advance_run _)]
  exact limited.bind rfl

theorem reads_expressionStatement {value : Expr .equality}
    (ending : Option (Terminal [.semicolon])) (reads : Reads reader levels value .lowest) :
    ReadsStatement reader levels (.expressionStatement value ending) := by
  intro state rest ends
  obtain ⟨last, limited⟩ := limited_closingExpression state rest reads ending ends
  refine ⟨last, ?_⟩
  obtain ⟨others, yields⟩ := value.yield_eq_cons
  rw [yields] at limited
  rw [Statement.yield, List.append_assoc, yields, List.cons_append,
    statement_of_starting state value.first_mem_starting]
  unfold expressionStatement
  rw [bind_of_ok (current_run _)]
  exact limited.bind rfl

/-! ### Blocks -/

/-- The loop over a block reads some statements within some levels. -/
def ReadsStatements (reader : ExpressionReader) (levels : Nat) (statements : List Statement) :
    Prop :=
  ∀ (state : State) (token : Token) (read : List Node) (closing : Terminal [.rightBrace])
    (rest : List Token),
    Limited (needAll statements ≤ levels) state.log
      (repeatTurns (blockTurn reader token) read
        (state.facing (yieldAll statements ++ closing.token :: rest)))
      (.ok (some (.block token (read.reverse ++ treesAll statements)))
        (state.facing (closing.token :: rest)))

theorem readsStatements_nil : ReadsStatements reader levels [] := by
  intro state token read closing rest
  apply Limited.of_eq (Nat.zero_le levels)
  rw [yieldAll, treesAll, List.append_nil]
  exact repeatTurns_done (blockTurn_of_brace closing.kind_eq)

/-- Behind a statement without a semicolon stands what can stand there, when it does
not go on with the expression. -/
theorem ends_yieldAll {statements : List Statement} (others : List Token)
    (separated : ∀ token ∈ (yieldAll statements).head?, token.kind ∉ continuing)
    (ends : statements = [] → Ends (ahead others)) :
    Ends (ahead (yieldAll statements ++ others)) := by
  cases statements with
  | nil => exact ends rfl
  | cons statement statements =>
      obtain ⟨first, behind, yields, listed⟩ := statement.yield_eq_cons
      rw [yieldAll, yields, List.cons_append] at separated ⊢
      rw [List.cons_append, ahead_cons]
      exact ⟨separated first rfl, ne_of_mem_of_not_mem listed (by simp [starting]),
        ne_of_mem_of_not_mem listed (by simp [starting])⟩

theorem readsStatements_cons (proceeds : ∀ level state, Proceeds (reader level) state)
    {first : Statement} {statements : List Statement} (reads : ReadsStatement reader levels first)
    (readsLater : ReadsStatements reader levels statements)
    (separated : first.ending = none →
      ∀ token ∈ (yieldAll statements).head?, token.kind ∉ continuing) :
    ReadsStatements reader levels (first :: statements) := by
  intro state token read closing rest
  have endsBlock : Ends (ahead (closing.token :: rest)) := by
    rw [ahead_cons, closing.kind_eq]
    exact ⟨by decide, by decide, by decide⟩
  obtain ⟨last, limited⟩ := reads state (yieldAll statements ++ closing.token :: rest)
    fun isOpen => ends_yieldAll _ (separated isOpen) fun _ => endsBlock
  obtain ⟨start, behind, yields, listed⟩ := first.yield_eq_cons
  have isStart : (state.facing (first.yield ++ (yieldAll statements ++ closing.token :: rest))
      ).stream.current.kind = start.kind := by
    rw [yields]
    rfl
  have turned : Limited (first.need ≤ levels) state.log
      (blockTurn reader token read
        (state.facing (first.yield ++ (yieldAll statements ++ closing.token :: rest))))
      (.ok (.again (first.tree :: read))
        (state.facing (yieldAll statements ++ closing.token :: rest))) := by
    rw [blockTurn_of_statement]
    · exact limited.bind rfl
    · rw [isStart]
      exact ne_of_mem_of_not_mem listed (by simp [starting])
    · rw [isStart]
      exact ne_of_mem_of_not_mem listed (by simp [starting])
  have later := readsLater state token (first.tree :: read) closing rest
  rw [List.reverse_cons, List.append_assoc] at later
  rw [yieldAll, treesAll, List.append_assoc]
  apply ((turned.repeatTurns (taking_blockTurn proceeds token)).trans later).of_iff
  rw [needAll, Nat.max_le]

/-- A reader reads a block within some levels. -/
def ReadsBlock (reader : ExpressionReader) (levels : Nat) (derivation : Block) : Prop :=
  ∀ (state : State) (rest : List Token), ∃ last,
    Limited (derivation.need ≤ levels) state.log
      (block reader (state.facing (derivation.yield ++ rest)))
      (.ok (some derivation.tree) (state.facing (last :: rest)))

theorem readsBlock {opening : Terminal [.leftBrace]} {statements : List Statement}
    {closing : Terminal [.rightBrace]} (reads : ReadsStatements reader levels statements) :
    ReadsBlock reader levels (.braces opening statements closing) := by
  intro state rest
  refine ⟨closing.token, ?_⟩
  rw [Block.yield, List.cons_append, List.append_assoc]
  unfold block
  rw [bind_of_ok (current_run _), bind_of_ok (advance_run _)]
  exact reads state opening.token [] closing rest

/-! ### Calls -/

/-- The loop over arguments reads some of them, each within some levels. -/
def ReadsOthers (reader : ExpressionReader) (levels : Nat)
    (others : List (Terminal [.comma] × Expr .equality)) : Prop :=
  ∀ (state : State) (token : Token) (collected : List (Option Node))
    (closing : Terminal [.rightParen]) (rest : List Token), ∃ last,
    Limited (needOthers others ≤ levels + 1) state.log
      (repeatTurns (argumentTurn reader) collected
        (state.facing (token :: (yieldOthers others ++ closing.token :: rest))))
      (.ok (collected.reverse ++ (treesOthers others).map some)
        (state.facing (last :: closing.token :: rest)))

theorem closes_yieldOthers (others : List (Terminal [.comma] × Expr .equality))
    (closing : Terminal [.rightParen]) (rest : List Token) :
    Closes .lowest (ahead (yieldOthers others ++ closing.token :: rest)) := by
  cases others with
  | nil => exact closes_cons closing rest .lowest (by simp)
  | cons argument others => exact closes_cons argument.1 _ .lowest (by simp)

theorem readsOthers_nil : ReadsOthers reader levels [] := by
  intro state token collected closing rest
  refine ⟨token, Limited.of_eq (Nat.zero_le _) ?_⟩
  have notComma : (state.facing (token :: closing.token :: rest)).stream.next.kind ≠ .comma := by
    simp [next_facing, ahead_cons, closing.kind_eq]
  rw [treesOthers, List.map_nil, List.append_nil]
  exact repeatTurns_done (argumentTurn_of_ne notComma)

theorem readsOthers_cons (proceeds : ∀ level state, Proceeds (reader level) state)
    {comma : Terminal [.comma]} {argument : Expr .equality}
    {others : List (Terminal [.comma] × Expr .equality)}
    (reads : Reads reader levels argument .lowest) (readsLater : ReadsOthers reader levels others) :
    ReadsOthers reader levels ((comma, argument) :: others) := by
  intro state token collected closing rest
  obtain ⟨between, limited⟩ := reads state (yieldOthers others ++ closing.token :: rest)
    (closes_yieldOthers others closing rest)
  obtain ⟨last, later⟩ := readsLater state between (some argument.tree :: collected) closing rest
  refine ⟨last, ?_⟩
  rw [yieldOthers, treesOthers, List.cons_append, List.append_assoc]
  have turned : Limited (argument.need ≤ levels) state.log
      (argumentTurn reader collected (state.facing
        (token :: comma.token :: (argument.yield ++ (yieldOthers others ++ closing.token :: rest)))))
      (.ok (.again (some argument.tree :: collected))
        (state.facing (between :: (yieldOthers others ++ closing.token :: rest)))) := by
    have isComma : (state.facing (token :: comma.token ::
        (argument.yield ++ (yieldOthers others ++ closing.token :: rest)))).stream.next.kind =
          .comma := comma.kind_eq
    rw [argumentTurn_of_comma isComma]
    exact limited.bind rfl
  rw [List.reverse_cons, List.append_assoc] at later
  apply ((turned.repeatTurns (taking_argumentTurn proceeds)).trans later).of_iff
  rw [needOthers]
  omega

/-- A reader reads the arguments of a call, each within some levels. -/
def ReadsArguments (reader : ExpressionReader) (levels : Nat) (derivation : Arguments) : Prop :=
  ∀ (state : State) (opening : Token) (closing : Terminal [.rightParen]) (rest : List Token),
    Limited (derivation.need ≤ levels + 1) state.log
      (arguments reader (state.facing (opening :: (derivation.yield ++ closing.token :: rest))))
      (.ok (some derivation.trees) (state.facing (closing.token :: rest)))

theorem readsArguments_none : ReadsArguments reader levels .none := by
  intro state opening closing rest
  apply Limited.of_eq (Nat.zero_le _)
  unfold arguments
  rw [Arguments.yield, List.nil_append, bind_of_ok (next_run_facing _ _ _ _),
    if_pos closing.kind_eq]
  rfl

theorem readsArguments_expressions {first : Expr .equality}
    {others : List (Terminal [.comma] × Expr .equality)}
    (reads : Reads reader levels first .lowest) (readsLater : ReadsOthers reader levels others) :
    ReadsArguments reader levels (.expressions first others) := by
  intro state opening closing rest
  obtain ⟨between, limited⟩ := reads state (yieldOthers others ++ closing.token :: rest)
    (closes_yieldOthers others closing rest)
  obtain ⟨last, later⟩ := readsLater state between [some first.tree] closing rest
  obtain ⟨behind, yields⟩ := first.yield_eq_cons
  have notClosing : first.first.kind ≠ .rightParen :=
    ne_of_mem_of_not_mem first.first_mem_starting (by simp [starting])
  have ended : Limited (needOthers others ≤ levels + 1) state.log
      ((repeatTurns (argumentTurn reader) [some first.tree] >>= fun all =>
        expectNext .rightParen >>= fun isFound =>
          if isFound = true then pure (allPresent all) else pure none)
        (state.facing (between :: (yieldOthers others ++ closing.token :: rest))))
      (.ok (some (first.tree :: treesOthers others)) (state.facing (closing.token :: rest))) := by
    apply later.bind
    rw [bind_of_ok (expectNext_facing closing.kind_eq), ← allPresent_map_some]
    rfl
  rw [yields] at limited
  rw [Arguments.yield, List.append_assoc, yields, List.cons_append]
  unfold arguments
  rw [bind_of_ok (next_run_facing _ _ _ _), if_neg notClosing, bind_of_ok (advance_run _)]
  apply (limited.bind_limited ended).of_iff
  rw [Arguments.need]
  omega

theorem limited_call (callee : Node) (opening : Terminal [.leftParen]) {derivation : Arguments}
    (closing : Terminal [.rightParen]) (reads : ReadsArguments reader levels derivation) :
    Limited (derivation.need ≤ levels + 1) state.log
      (call reader (some callee)
        (state.facing (opening.token :: (derivation.yield ++ closing.token :: rest))))
      (.ok (some (.call opening.token callee derivation.trees))
        (state.facing (closing.token :: rest))) := by
  unfold call
  rw [bind_of_ok (current_run _)]
  exact (reads state opening.token closing rest).bind rfl

/-! ### Parameters -/

theorem otherParameters_facing (others : List (Terminal [.comma] × Terminal [.ident]))
    (token : Token) (names : List Node) (closing : Terminal [.rightParen]) :
    repeatTurns parameterTurn names
        (state.facing (token :: (others.flatMap (fun (comma, name) => [comma.token, name.token]) ++
          closing.token :: rest))) =
      .ok (some (names.reverse ++ others.map fun (_, name) => name.identifier))
        (state.facing (closing.token :: rest)) := by
  induction others generalizing token names with
  | nil =>
      rw [List.map_nil, List.append_nil]
      exact repeatTurns_done (parameterTurn_of_closing closing.kind_eq)
  | cons other others inductionHypothesis =>
      obtain ⟨comma, name⟩ := other
      have later := inductionHypothesis name.token (name.identifier :: names)
      rw [List.reverse_cons, List.append_assoc] at later
      have isComma : (state.facing (token :: comma.token :: name.token ::
          (others.flatMap (fun (comma, name) => [comma.token, name.token]) ++
            closing.token :: rest))).stream.next.kind = .comma := comma.kind_eq
      refine (repeatTurns_again taking_parameterTurn ?_).trans later
      exact parameterTurn_of_comma isComma name.kind_eq

theorem parameters_facing (opening : Token) (derivation : Parameters)
    (closing : Terminal [.rightParen]) :
    parameters (state.facing (opening :: (derivation.yield ++ closing.token :: rest))) =
      .ok (some derivation.trees) (state.facing (closing.token :: rest)) := by
  unfold parameters
  cases derivation with
  | none =>
      rw [Parameters.yield, List.nil_append, bind_of_ok (next_run_facing _ _ _ _),
        if_pos closing.kind_eq]
      rfl
  | names first others =>
      have notClosing : first.token.kind ≠ .rightParen := by simp [first.kind_eq]
      rw [Parameters.yield, List.cons_append, bind_of_ok (next_run_facing _ _ _ _),
        if_neg notClosing, bind_of_ok (expectNext_facing first.kind_eq)]
      exact otherParameters_facing state rest others first.token [first.identifier] closing

/-! ### Conditionals and functions -/

/-- A reader reads what may follow the first block of a conditional. -/
def ReadsAlternative (reader : ExpressionReader) (levels : Nat) (derivation : Alternative) : Prop :=
  ∀ (state : State) (token : Token) (rest : List Token), ahead rest ≠ .elseWord →
    ∃ last, Limited (derivation.need ≤ levels) state.log
      (alternative reader (state.facing (token :: (derivation.yield ++ rest))))
      (.ok (some derivation.tree) (state.facing (last :: rest)))

theorem readsAlternative_none : ReadsAlternative reader levels .none := by
  intro state token rest notElse
  refine ⟨token, Limited.of_eq (Nat.zero_le levels) ?_⟩
  have notWord : (state.facing (token :: rest)).stream.next.kind ≠ .elseWord := by
    rw [next_facing]
    exact notElse
  unfold alternative
  rw [Alternative.yield, List.nil_append, bind_of_ok (next_run _), if_neg notWord]
  rfl

theorem readsAlternative_block {word : Terminal [.elseWord]} {derivation : Block}
    (reads : ReadsBlock reader levels derivation) :
    ReadsAlternative reader levels (.block word derivation) := by
  intro state token rest _
  obtain ⟨last, limited⟩ := reads state rest
  refine ⟨last, ?_⟩
  cases derivation with
  | braces opening statements closing =>
      unfold alternative
      rw [Alternative.yield, List.cons_append, bind_of_ok (next_run_facing _ _ _ _),
        if_pos word.kind_eq, bind_of_ok (advance_run _)]
      change Limited _ _ ((expectNext .leftBrace >>= _) (state.facing (word.token :: _))) _
      rw [Block.yield, List.cons_append, bind_of_ok (expectNext_facing opening.kind_eq)]
      exact limited.bind rfl

theorem limited_conditional (word : Terminal [.ifWord]) (opening : Terminal [.leftParen])
    {condition : Expr .equality} (closing : Terminal [.rightParen]) {consequence : Block}
    {otherwise : Alternative} (reads : Reads reader levels condition .lowest)
    (readsConsequence : ReadsBlock reader levels consequence)
    (readsOtherwise : ReadsAlternative reader levels otherwise) (notElse : ahead rest ≠ .elseWord) :
    ∃ last, Limited (condition.need ≤ levels ∧ consequence.need ≤ levels ∧ otherwise.need ≤ levels)
      state.log
      (conditional reader (state.facing (word.token :: opening.token :: (condition.yield ++
        closing.token :: (consequence.yield ++ (otherwise.yield ++ rest))))))
      (.ok (some (.conditional word.token condition.tree consequence.tree otherwise.tree))
        (state.facing (last :: rest))) := by
  obtain ⟨first, limited⟩ :=
    reads state (closing.token :: (consequence.yield ++ (otherwise.yield ++ rest)))
      (closes_cons closing _ .lowest (by simp))
  obtain ⟨second, limitedConsequence⟩ := readsConsequence state (otherwise.yield ++ rest)
  obtain ⟨last, limitedOtherwise⟩ := readsOtherwise state second rest notElse
  refine ⟨last, ?_⟩
  unfold conditional
  rw [bind_of_ok (current_run _), bind_of_ok (expectNext_facing opening.kind_eq)]
  apply limited.bind_limited
  cases consequence with
  | braces brace statements closingBrace =>
      rw [bind_of_ok (expectNext_facing closing.kind_eq)]
      change Limited _ _ ((expectNext .leftBrace >>= _) (state.facing (closing.token :: _))) _
      rw [Block.yield, List.cons_append, bind_of_ok (expectNext_facing brace.kind_eq)]
      exact limitedConsequence.bind_limited (limitedOtherwise.bind rfl)

theorem limited_function (word : Terminal [.functionWord]) (opening : Terminal [.leftParen])
    (names : Parameters) (closing : Terminal [.rightParen]) {body : Block}
    (reads : ReadsBlock reader levels body) :
    ∃ last, Limited (body.need ≤ levels) state.log
      (function reader (state.facing (word.token :: opening.token :: (names.yield ++
        closing.token :: (body.yield ++ rest)))))
      (.ok (some (.function word.token names.trees body.tree)) (state.facing (last :: rest))) := by
  obtain ⟨last, limited⟩ := reads state rest
  refine ⟨last, ?_⟩
  unfold function
  rw [bind_of_ok (current_run _), bind_of_ok (expectNext_facing opening.kind_eq)]
  change Limited _ _ ((parameters >>= _) (state.facing (opening.token :: _))) _
  rw [bind_of_ok (parameters_facing state _ opening.token names closing)]
  cases body with
  | braces brace statements closingBrace =>
      change Limited _ _ ((expectNext .leftBrace >>= _) (state.facing (closing.token :: _))) _
      rw [Block.yield, List.cons_append, bind_of_ok (expectNext_facing brace.kind_eq)]
      exact limited.bind rfl

end Rules

end Parser

end MonkeySyntax
