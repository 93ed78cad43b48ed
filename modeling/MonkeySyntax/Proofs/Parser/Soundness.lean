import MonkeySyntax.Program
import MonkeySyntax.Proofs.Parser.Soundness.Rules

/-!
Contract: what is parsed without a report is derived by the grammar.

Owns:
- the loop over the operators behind an expression, which groups as the grammar does;
- the soundness of the reader of expressions, within every number of levels;
- the soundness of a parse: the tokens of a text without errors are the yield of a
  derivation, and the program is its tree.

The loop over operators keeps the level of what it has read so far, which is the level
of the operator that it met last. An operator that comes next never binds tighter.
-/

set_option autoImplicit false

namespace MonkeySyntax

open Grammar

namespace Parser

variable {reader : ExpressionReader} {state after : State} {answer : Option Node}

/-! ### Operators -/

/-- What a silent run of the loop over operators makes of an expression that was taken
from a state on, of a level that no operator behind it is tighter than. -/
def TakesContinuations (start : State) (level : Precedence) (left : Option Node) (state : State)
    (ended : EStateM.Result Abort State (Option Node)) : Prop :=
  ∀ {answer : Option Node} {after : State} {reached : Precedence} {derivation : Expr reached},
    state.stream.Lexed → ended = .ok answer after → after.log.length ≤ state.log.length →
    Took derivation start left state → level.operand.rank ≤ reached.rank →
    state.stream.next.kind.precedence.rank ≤ reached.rank →
    ∃ whole : Expr level.operand, Took whole start answer after ∧
      ¬ level < after.stream.next.kind.precedence

/-- The loop over operators ends where no tighter one follows. -/
theorem not_lt_of_continuationTurn {level : Precedence} {left result : Option Node}
    (turned : Rules.standard.continuationTurn reader level left state = .ok (.done result) after) :
    ¬ level < state.stream.next.kind.precedence ∧ result = left ∧ after = state := by
  by_cases tighter : level < state.stream.next.kind.precedence
  · obtain ⟨rule, found⟩ := Rules.exists_continuation (Precedence.lowest_lt_of_lt tighter)
    rw [continuationTurn_of_some tighter found] at turned
    obtain ⟨read, between, -, turned⟩ := bind_eq_ok turned
    cases turned
  · rw [continuationTurn_of_not_lt tighter] at turned
    cases turned
    exact ⟨tighter, rfl, rfl⟩

section Operators

variable (sound : Sound reader) (proceeds : ∀ level state, Proceeds (reader level) state)
include sound proceeds

/-- A turn of the loop extends what was taken so far by an operator and its operand or
by the arguments of a call. -/
theorem took_continuation {start : State} {level reached : Precedence}
    {left following : Option Node} {derivation : Expr reached} (lexed : state.stream.Lexed)
    (turned : Rules.standard.continuationTurn reader level left state =
      .ok (.again following) after)
    (silent : after.log.length ≤ state.log.length) (took : Took derivation start left state)
    (atMost : state.stream.next.kind.precedence.rank ≤ reached.rank) :
    ∃ (extended : Precedence) (whole : Expr extended), Took whole start following after ∧
      level.operand.rank ≤ extended.rank ∧
      after.stream.next.kind.precedence.rank ≤ extended.rank := by
  obtain ⟨isTree, upcoming, separated⟩ := took
  subst isTree
  obtain ⟨tighter, rule, found, readRule⟩ := exists_rule_of_again turned
  by_cases isCall : state.stream.next.kind = .leftParen
  · rw [isCall, Rules.continuation_leftParen] at found
    cases found
    obtain rfl : reached = .call := by
      rw [isCall] at atMost
      exact Precedence.eq_of_rank_eq (Nat.le_antisymm (Precedence.rank_le_call reached) atMost)
    have isOpening : state.advance.stream.current.kind = .leftParen := isCall
    obtain ⟨arguments, closing, rfl, alsoSeparated, upcomingCall⟩ :=
      took_call sound proceeds isOpening (lexed_advance lexed) readRule silent
    refine ⟨.call, .call derivation (.ofKind isCall) arguments closing,
      ⟨rfl, ?_, separated, alsoSeparated⟩, Precedence.rank_le_call _, Precedence.rank_le_call _⟩
    rw [upcoming, upcomingCall, Expr.yield]
    simp only [Terminal.ofKind, List.cons_append, List.append_assoc, List.nil_append]
    rfl
  · have isAbove := Precedence.lowest_lt_of_lt tighter
    rw [Rules.continuation_of_operator isAbove isCall] at found
    cases found
    have isOperator : state.advance.stream.current.kind ∈
        operatorsAt state.stream.next.kind.precedence :=
      TokenKind.mem_operatorsAt_precedence isAbove isCall
    obtain ⟨right, rfl, alsoSeparated, upcomingRight, stops⟩ :=
      took_binary sound isOperator (lexed_advance lexed) readRule silent
    obtain ⟨copy, same⟩ := derivation.exists_looser _ isAbove atMost
    refine ⟨_, .binary copy ⟨state.stream.next, isOperator⟩ right,
      ⟨?_, ?_, same.separated separated, alsoSeparated⟩, Precedence.rank_operand_le tighter,
      Nat.le_of_not_lt stops⟩
    · rw [Expr.tree, same.tree]
      rfl
    · rw [upcoming, upcomingRight, Expr.yield, same.yield, List.append_assoc]
      rfl

theorem takesContinuations (start : State) (level : Precedence) (left : Option Node)
    (state : State) :
    TakesContinuations start level left state
      (repeatTurns (Rules.standard.continuationTurn reader level) left state) := by
  have taking := taking_continuationTurn proceeds Rules.standard level
  apply repeatTurns_recursion taking
  case again =>
    intro left state following between turned takesLater answer after _ _ lexed ran silent took _
      atMost
    have proceedsTurn : Proceeds (Rules.standard.continuationTurn reader level left) state :=
      compatible_proceeds.continuationTurn (related_self proceeds) proceeds _ level left state
    have proceedsLater :=
      compatible_proceeds.continuations (related_self proceeds) proceeds Rules.standard level
        following between
    have leads := proceedsTurn.leads turned
    have grown := leads.log_length_le
    have grownLater := (Advances.leads proceedsLater ran).log_length_le
    obtain ⟨extended, whole, tookWhole, isTight, alsoAtMost⟩ :=
      took_continuation sound proceeds lexed turned (Nat.le_trans grownLater silent) took atMost
    exact takesLater (lexed.of_suffix leads.upcoming_suffix) ran (Nat.le_trans silent grown)
      tookWhole isTight alsoAtMost
  case done =>
    intro left state result between turned answer after reached derivation lexed same silent took
      isTight atMost
    cases same
    obtain ⟨stops, rfl, rfl⟩ := not_lt_of_continuationTurn turned
    obtain ⟨whole, tookWhole⟩ := took.exists_looser (Precedence.lowest_lt_operand level) isTight
    exact ⟨whole, tookWhole, stops⟩
  case error =>
    intro left state reason between turned answer after _ _ _ same
    cases same

/-- Reading an expression by the standard rules is sound when reading the expressions
inside it is. -/
theorem sound_expressionBy : Sound (Rules.standard.expressionBy reader) := by
  intro level state answer after lexed ran silent
  unfold Rules.expressionBy at ran
  rw [bind_of_ok (current_run state)] at ran
  cases found : Rules.standard.opening state.stream.current.kind with
  | none =>
      rw [found] at ran
      cases ran
      exact absurd silent (Nat.not_succ_le_self _)
  | some rule =>
      rw [found] at ran
      obtain ⟨left, between, readLeft, ran⟩ := bind_eq_ok ran
      have opens := Rules.opens_of_opening found
      have proceedsLeft : Proceeds (rule.read reader) state :=
        compatible_proceeds.openingRule (related_self proceeds) proceeds opens state rfl
      have leads := proceedsLeft.leads readLeft
      have proceedsLater :=
        compatible_proceeds.continuations (related_self proceeds) proceeds Rules.standard level
          left between
      have grown := leads.log_length_le
      have grownLater := (Advances.leads proceedsLater ran).log_length_le
      obtain ⟨reached, derivation, took, isTight, atMost⟩ :=
        took_opening sound proceeds opens rfl lexed readLeft (Nat.le_trans grownLater silent)
      exact takesContinuations sound proceeds state level left between
        (lexed.of_suffix leads.upcoming_suffix) ran (Nat.le_trans silent grown) took
        (Nat.le_trans (by cases level <;> decide) isTight) atMost

end Operators

theorem sound_expression (levels : Nat) : Sound (Rules.standard.expression levels) := by
  induction levels with
  | zero =>
      intro level state answer after _ ran
      cases ran
  | succ levels inductionHypothesis =>
      exact sound_expressionBy inductionHypothesis (proceeds_expression levels)

/-! ### Programs -/

/-- What a silent run of the loop over a program takes and answers. -/
def TakesProgram (read : List Node) (state : State)
    (ended : EStateM.Result Abort State (List Node)) : Prop :=
  ∀ {result : List Node} {after : State}, state.stream.Lexed → ended = .ok result after →
    after.log.length ≤ state.log.length →
    ∃ statements : List Statement, result = read.reverse ++ treesAll statements ∧
      SeparatedAll statements ∧ state.stream.upcoming = yieldAll statements

theorem takesProgram (levels : Nat) (read : List Node) (state : State) :
    TakesProgram read state
      (repeatTurns (programTurn (Rules.standard.expression levels)) read state) := by
  have taking := taking_programTurn (proceeds_expression levels)
  apply repeatTurns_recursion taking
  case again =>
    intro read state following between turned takesLater result after lexed ran silent
    obtain ⟨-, node, behind, readStatement, rfl, rfl⟩ := exists_statement_of_again turned
    have leads := (proceeds_statement levels state).leads readStatement
    have grown := leads.log_length_le
    have grownLater : behind.log.length ≤ after.log.length :=
      (prefix_of_program ran).2.length_le
    obtain ⟨derivation, rfl, upcoming, separated, follows⟩ :=
      took_statement (sound_expression levels) lexed readStatement (Nat.le_trans grownLater silent)
    obtain ⟨statements, rfl, alsoSeparated, upcomingLater⟩ :=
      takesLater (lexed_advance (lexed.of_suffix leads.upcoming_suffix)) ran
        (Nat.le_trans silent grown)
    refine ⟨derivation :: statements, ?_, ⟨separated, ?_, alsoSeparated⟩, ?_⟩
    · rw [List.reverse_append, List.append_assoc, treesAll]
      rfl
    · intro isOpen
      have ahead : behind.advance.stream.upcoming = yieldAll statements ++ [] := by
        rw [upcomingLater, List.append_nil]
      exact head_not_continuing (follows isOpen) ahead
    · rw [upcoming, upcomingLater, yieldAll]
  case done =>
    intro read state result between turned answer after lexed same silent
    cases same
    obtain ⟨rfl, ⟨ended, rfl⟩ | ⟨-, behind, failed, rfl⟩⟩ := ended_or_tooDeep_of_done turned
    · exact ⟨[], (List.append_nil _).symm, trivial, upcoming_eq_nil lexed ended⟩
    · have grown := ((proceeds_statement levels state).leads_error failed).log_length_le
      exact absurd (Nat.le_trans silent grown) (Nat.not_succ_le_self _)
  case error =>
    intro read state reason between turned result after lexed same
    cases same

end Parser

/-- The tokens ahead at the start of a text without errors are the yield of a derivation
of its statements. -/
theorem exists_statements_of_errors_eq_nil {source : String}
    (noErrors : (parse source).errors = []) :
    ∃ statements : List Statement, (parse source).statements = treesAll statements ∧
      SeparatedAll statements ∧ (TokenStream.ofString source).upcoming = yieldAll statements := by
  obtain ⟨result, state, ran, isParse⟩ := parseWith_eq nestingLimit source
  change parse source = _ at isParse
  rw [isParse] at noErrors ⊢
  have silent : state.log.length ≤ 0 := by
    have noReports := List.map_eq_nil_iff.mp noErrors
    rw [List.reverse_eq_nil_iff.mp noReports]
    exact Nat.le_refl 0
  exact Parser.takesProgram nestingLimit [] (.start (.ofString source))
    (TokenStream.lexed_ofString source) ran silent

/-- The tokens of a text without errors are the yield of a derivation by the grammar, in
which no statement without a semicolon is followed by a token that would go on with its
expression, and the program is the tree of that derivation. -/
theorem exists_derivation_of_errors_eq_nil (source : String)
    (noErrors : (parse source).errors = []) :
    ∃ statements : List Statement, (tokenize source).dropLast = yieldAll statements ∧
      SeparatedAll statements ∧ (parse source).program = .program (treesAll statements) := by
  obtain ⟨statements, isTree, separated, upcoming⟩ := exists_statements_of_errors_eq_nil noErrors
  refine ⟨statements, ?_, separated, congrArg Node.program isTree⟩
  rw [tokenize_dropLast, upcoming]

/-- A binding without a semicolon in front of a call, which are two statements. -/
theorem exists_derivation_of_binding :
    (parse "let x = -a * 2 f(x + 1, true)").errors = [] ∧
      ∃ statements : List Statement,
        (tokenize "let x = -a * 2 f(x + 1, true)").dropLast = yieldAll statements ∧
        SeparatedAll statements ∧
        (parse "let x = -a * 2 f(x + 1, true)").program = .program (treesAll statements) := by
  have noErrors : (parse "let x = -a * 2 f(x + 1, true)").errors = [] := by decide +kernel
  exact ⟨noErrors, exists_derivation_of_errors_eq_nil _ noErrors⟩

end MonkeySyntax
