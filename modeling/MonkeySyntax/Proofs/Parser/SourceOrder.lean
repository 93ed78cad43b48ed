import MonkeySyntax.Proofs.Parser.Answers
import MonkeySyntax.Proofs.Parser.Completion
import MonkeySyntax.Proofs.Parser.Soundness
import MonkeySyntax.Proofs.Token.Layout
import MonkeySyntax.Proofs.Tree.SourceOrder

/-!
Contract: the tree of a text, with errors or without, keeps tokens in their order.

Owns:
- that every rule answers with tokens which it took, each at most once and in their order,
  whatever it reports;
- the same for a whole parse, and that a parse without errors loses no token that leaves
  a node.

A rule may take tokens that its answer does not keep. So what it keeps together with what
is left is compared with what there was.
-/

set_option autoImplicit false

namespace MonkeySyntax

open Grammar
open Node (tokensButCalls)
open scoped List

namespace Parser

variable {α : Type} {reader : ExpressionReader} {state after : State} {answer : Option Node}

/-! ### Kept tokens -/

/-- The tokens of an answer, of which there are none when there is no node. -/
def answerTokens (answer : Option Node) : List Token := answer.toList.flatMap Node.sourceTokens

@[simp] theorem answerTokens_none : answerTokens none = [] := rfl

@[simp] theorem answerTokens_some (node : Node) : answerTokens (some node) = node.sourceTokens :=
  List.append_nil _

/-- A run keeps tokens from the current one on, in front of what is left behind its last
one. -/
def Keeps (step : ParseM (Option Node)) (state : State) : Prop :=
  ∀ {answer : Option Node} {after : State}, step state = .ok answer after →
    answerTokens answer ++ after.advance.stream.upcoming <+ state.stream.upcoming

theorem upcoming_advance_sublist (state : State) :
    state.advance.stream.upcoming <+ state.stream.upcoming :=
  (upcoming_advance_suffix state).sublist

theorem State.Leads.advance_sublist {allowed : Diagnostic → Prop}
    (leads : State.Leads allowed state after) :
    after.advance.stream.upcoming <+ state.stream.upcoming :=
  (upcoming_advance_sublist after).trans leads.upcoming_suffix.sublist

/-- A run without an answer keeps nothing, so only its answers matter. -/
theorem Keeps.of_some {step : ParseM (Option Node)} (proceeds : Proceeds step state)
    (keeps : ∀ {node : Node} {after : State}, step state = .ok (some node) after →
      node.sourceTokens ++ after.advance.stream.upcoming <+ state.stream.upcoming) :
    Keeps step state := by
  intro answer after ran
  cases answer with
  | none => exact (proceeds.leads ran).advance_sublist
  | some node =>
      rw [answerTokens_some]
      exact keeps ran

/-! ### Statements -/

section Statements

variable (keeps : ∀ level state, Keeps (reader level) state)
include keeps

theorem keeps_closingExpression (state : State) : Keeps (closingExpression reader) state := by
  intro answer after ran
  obtain ⟨between, read, isAfter⟩ := closingExpression_eq_ok ran
  have kept := keeps _ _ read
  rcases isAfter with rfl | rfl
  · exact kept
  · exact (List.Sublist.append_left (upcoming_advance_sublist _) _).trans kept

theorem kept_letStatement {node : Node} (isWord : state.stream.current.kind = .letWord)
    (ran : letStatement reader state = .ok (some node) after) :
    node.sourceTokens ++ after.advance.stream.upcoming <+ state.stream.upcoming := by
  obtain ⟨isName, -, value, read, rfl⟩ := letStatement_eq_some ran
  have kept := keeps_closingExpression keeps _ read
  rw [answerTokens_some] at kept
  rw [Node.sourceTokens_letStatement, Node.sourceTokens_identifier, upcoming_of_current isWord nofun,
    upcoming_of_next isName nofun]
  exact ((kept.trans (upcoming_advance_sublist _)).cons_cons _).cons_cons _

theorem kept_returnStatement {node : Node} (isWord : state.stream.current.kind = .returnWord)
    (ran : returnStatement reader state = .ok (some node) after) :
    node.sourceTokens ++ after.advance.stream.upcoming <+ state.stream.upcoming := by
  obtain ⟨value, read, rfl⟩ := returnStatement_eq_some ran
  have kept := keeps_closingExpression keeps _ read
  rw [answerTokens_some] at kept
  rw [Node.sourceTokens_returnStatement, upcoming_of_current isWord nofun]
  exact kept.cons_cons _

theorem kept_expressionStatement {node : Node}
    (ran : expressionStatement reader state = .ok (some node) after) :
    node.sourceTokens ++ after.advance.stream.upcoming <+ state.stream.upcoming := by
  obtain ⟨value, read, rfl⟩ := expressionStatement_eq_some ran
  have kept := keeps_closingExpression keeps _ read
  rw [answerTokens_some] at kept
  rw [Node.sourceTokens_expressionStatement]
  exact kept

theorem keeps_statement (proceeds : ∀ level state, Proceeds (reader level) state)
    (state : State) : Keeps (statement reader) state := by
  apply Keeps.of_some (compatible_proceeds.statement (related_self proceeds) state)
  intro node after ran
  rw [statement_run] at ran
  by_cases isLet : state.stream.current.kind = .letWord
  · rw [if_pos isLet] at ran
    exact kept_letStatement keeps isLet ran
  by_cases isReturn : state.stream.current.kind = .returnWord
  · rw [if_neg isLet, if_pos isReturn] at ran
    exact kept_returnStatement keeps isReturn ran
  · rw [if_neg isLet, if_neg isReturn] at ran
    exact kept_expressionStatement keeps ran

end Statements

/-- A statement that was read is kept behind those before it. -/
theorem sourceTokens_read (read : Option Node) (statements : List Node) :
    (read.toList ++ statements).reverse.flatMap Node.sourceTokens =
      statements.reverse.flatMap Node.sourceTokens ++ answerTokens read := by
  cases read <;> simp

/-! ### Lists -/

/-- The tokens of some answers. -/
def answersTokens (answers : List (Option Node)) : List Token := answers.flatMap answerTokens

theorem answersTokens_map_some (nodes : List Node) :
    answersTokens (nodes.map some) = nodes.flatMap Node.sourceTokens := by
  unfold answersTokens
  rw [List.flatMap_map]
  exact congrArg (fun ofNode => nodes.flatMap ofNode) (funext answerTokens_some)

/-- The loop over parameters keeps its names in front of what is left. -/
theorem kept_otherParameters {names all : List Node} {start : List Token}
    (ran : repeatTurns parameterTurn names state = .ok (some all) after)
    (kept : names.reverse.flatMap Node.sourceTokens ++ state.advance.stream.upcoming <+ start) :
    all.flatMap Node.sourceTokens ++ after.advance.stream.upcoming <+ start := by
  apply repeatTurns_ok_induction taking_parameterTurn
    (fun names state =>
      names.reverse.flatMap Node.sourceTokens ++ state.advance.stream.upcoming <+ start)
    (fun result after => ∀ all, result = some all →
      all.flatMap Node.sourceTokens ++ after.advance.stream.upcoming <+ start)
    ?again ?done kept ran all rfl
  case again =>
    intro names state following between kept turned
    obtain ⟨comma, isName⟩ := comma_of_parameterTurn turned
    rw [parameterTurn_of_comma comma isName] at turned
    cases turned
    rw [upcoming_of_next comma nofun, upcoming_of_next isName nofun] at kept
    refine List.Sublist.trans ?_ kept
    rw [List.reverse_cons, List.flatMap_append, List.append_assoc]
    exact List.Sublist.append_left ((List.Sublist.refl _).cons _) _
  case done =>
    rintro names state _ between kept turned all rfl
    obtain ⟨-, rfl, rfl⟩ := names_of_parameterTurn turned
    exact (List.Sublist.append_left (upcoming_advance_sublist _) _).trans kept

theorem kept_parameters {all : List Node} (ran : parameters state = .ok (some all) after) :
    all.flatMap Node.sourceTokens ++ after.advance.stream.upcoming <+
      state.advance.stream.upcoming := by
  rcases parameters_eq_some ran with ⟨rfl, rfl⟩ | ⟨isName, readOthers⟩
  · exact upcoming_advance_sublist _
  · apply kept_otherParameters readOthers
    rw [upcoming_of_next isName nofun]
    exact List.Sublist.refl _

section Rules

variable (keeps : ∀ level state, Keeps (reader level) state)
  (proceeds : ∀ level state, Proceeds (reader level) state)
include keeps proceeds

/-- The loop over arguments keeps those that were read in front of what is left. -/
theorem kept_otherArguments {collected all : List (Option Node)} {start : List Token}
    (ran : repeatTurns (argumentTurn reader) collected state = .ok all after)
    (kept : answersTokens collected.reverse ++ state.advance.stream.upcoming <+ start) :
    answersTokens all ++ after.advance.stream.upcoming <+ start := by
  apply repeatTurns_ok_induction (taking_argumentTurn proceeds)
    (fun collected state =>
      answersTokens collected.reverse ++ state.advance.stream.upcoming <+ start)
    (fun all after => answersTokens all ++ after.advance.stream.upcoming <+ start)
    ?again ?done kept ran
  case again =>
    intro collected state following between kept turned
    obtain ⟨comma, argument, read, rfl⟩ := exists_argument_of_again turned
    have keptArgument := keeps _ _ read
    rw [upcoming_of_next comma nofun] at kept
    refine List.Sublist.trans ?_ kept
    unfold answersTokens
    rw [List.reverse_cons, List.flatMap_append, List.append_assoc, List.flatMap_singleton]
    exact List.Sublist.append_left (keptArgument.cons _) _
  case done =>
    intro collected state result between kept turned
    obtain ⟨rfl, rfl⟩ := result_of_argumentTurn turned
    exact kept

theorem kept_arguments {all : List Node} (ran : arguments reader state = .ok (some all) after) :
    all.flatMap Node.sourceTokens ++ after.advance.stream.upcoming <+
      state.advance.stream.upcoming := by
  rcases arguments_eq_some ran with ⟨rfl, rfl⟩ | ⟨first, between, behind, read, readOthers, rfl⟩
  · exact upcoming_advance_sublist _
  · have keptFirst : answersTokens [first].reverse ++ between.advance.stream.upcoming <+
        state.advance.stream.upcoming := by
      rw [List.reverse_singleton, answersTokens, List.flatMap_singleton]
      exact keeps _ _ read
    have kept := kept_otherArguments keeps proceeds readOthers keptFirst
    rw [answersTokens_map_some] at kept
    exact (List.Sublist.append_left (upcoming_advance_sublist _) _).trans kept

/-! ### Blocks -/

/-- The loop over a block keeps its statements in front of what is left. -/
theorem kept_statements {token : Token} {statements : List Node} {start : List Token}
    {node : Node} (ran : repeatTurns (blockTurn reader token) statements state =
      .ok (some node) after)
    (kept : statements.reverse.flatMap Node.sourceTokens ++ state.stream.upcoming <+ start) :
    node.sourceTokens ++ after.advance.stream.upcoming <+ token :: start := by
  apply repeatTurns_ok_induction (taking_blockTurn proceeds token)
    (fun statements state =>
      statements.reverse.flatMap Node.sourceTokens ++ state.stream.upcoming <+ start)
    (fun result after => ∀ node, result = some node →
      node.sourceTokens ++ after.advance.stream.upcoming <+ token :: start)
    ?again ?done kept ran node rfl
  case again =>
    intro statements state following between kept turned
    obtain ⟨-, read, behind, readStatement, rfl, rfl⟩ := exists_statement_of_blockTurn turned
    have keptStatement := keeps_statement keeps proceeds state readStatement
    rw [sourceTokens_read, List.append_assoc]
    exact (List.Sublist.append_left keptStatement _).trans kept
  case done =>
    rintro statements state _ between kept turned node rfl
    obtain ⟨-, isBlock, rfl⟩ | ⟨isNone, -⟩ := brace_or_ended_of_blockTurn turned
    · cases isBlock
      rw [Node.sourceTokens_block]
      refine List.Sublist.cons_cons token (List.Sublist.trans ?_ kept)
      exact List.Sublist.append_left (upcoming_advance_sublist _) _
    · cases isNone

theorem kept_block {node : Node} (isOpening : state.stream.next.kind = .leftBrace)
    (ran : block reader state.advance = .ok (some node) after) :
    node.sourceTokens ++ after.advance.stream.upcoming <+ state.advance.stream.upcoming := by
  unfold block at ran
  rw [bind_of_ok (current_run state.advance), bind_of_ok (advance_run state.advance)] at ran
  rw [upcoming_of_next isOpening nofun]
  exact kept_statements keeps proceeds ran (List.Sublist.refl _)

/-! ### Expressions -/

omit proceeds in
theorem kept_unary {node : Node} (isOperator : state.stream.current.kind ∈ [.bang, .minus])
    (ran : unary reader state = .ok (some node) after) :
    node.sourceTokens ++ after.advance.stream.upcoming <+ state.stream.upcoming := by
  obtain ⟨operand, read, rfl⟩ := unary_eq_some ran
  have unfinished : state.stream.current.kind ≠ .endOfInput :=
    ne_of_mem_of_not_mem isOperator (by simp)
  have kept := keeps _ _ read
  rw [answerTokens_some] at kept
  rw [Node.sourceTokens_unary, upcoming_of_current rfl unfinished]
  exact kept.cons_cons _

omit proceeds in
theorem kept_group {node : Node} (ran : group reader state = .ok (some node) after) :
    node.sourceTokens ++ after.advance.stream.upcoming <+ state.stream.upcoming := by
  obtain ⟨between, read, rfl⟩ := group_eq_some ran
  have kept := keeps _ _ read
  rw [answerTokens_some] at kept
  exact ((List.Sublist.append_left (upcoming_advance_sublist _) _).trans kept).trans
    (upcoming_advance_sublist state)

theorem kept_alternative {otherwise : Option Node}
    (ran : alternative reader state = .ok (some otherwise) after) :
    otherwise.toList.flatMap Node.sourceTokens ++ after.advance.stream.upcoming <+
      state.advance.stream.upcoming := by
  rcases alternative_eq_some ran with ⟨rfl, rfl⟩ | ⟨isOpening, body, read, rfl⟩
  · exact List.Sublist.refl _
  · have kept := kept_block keeps proceeds isOpening read
    rw [Option.toList_some, List.flatMap_singleton]
    exact kept.trans (upcoming_advance_sublist _)

theorem kept_conditional {node : Node} (isWord : state.stream.current.kind = .ifWord)
    (ran : conditional reader state = .ok (some node) after) :
    node.sourceTokens ++ after.advance.stream.upcoming <+ state.stream.upcoming := by
  obtain ⟨condition, consequence, otherwise, first, second, isOpening, readCondition, isClosing,
    isBrace, readConsequence, readOtherwise, rfl⟩ := conditional_eq_some ran
  have keptTest := keeps _ _ readCondition
  have keptYes := kept_block keeps proceeds isBrace readConsequence
  have keptNo := kept_alternative keeps proceeds readOtherwise
  rw [answerTokens_some, upcoming_of_next isClosing nofun] at keptTest
  rw [Node.sourceTokens_conditional, upcoming_of_current isWord nofun,
    upcoming_of_next isOpening nofun, List.cons_append, List.append_assoc, List.append_assoc]
  -- Both parentheses are passed over: the first one here, the second one behind the test.
  refine List.Sublist.cons_cons _ (List.Sublist.cons _ (List.Sublist.trans ?_ keptTest))
  refine List.Sublist.append_left (List.Sublist.cons _ (List.Sublist.trans ?_ keptYes)) _
  exact List.Sublist.append_left keptNo _

theorem kept_function {node : Node} (isWord : state.stream.current.kind = .functionWord)
    (ran : function reader state = .ok (some node) after) :
    node.sourceTokens ++ after.advance.stream.upcoming <+ state.stream.upcoming := by
  obtain ⟨names, body, first, -, readNames, isBrace, readBody, rfl⟩ := function_eq_some ran
  have keptNames := kept_parameters readNames
  have keptBody := kept_block keeps proceeds isBrace readBody
  rw [Node.sourceTokens_function, upcoming_of_current isWord nofun, List.cons_append,
    List.append_assoc]
  refine List.Sublist.cons_cons _ (List.Sublist.trans ?_ (upcoming_advance_sublist _))
  exact (List.Sublist.append_left keptBody _).trans keptNames

/-- What starts an expression keeps its tokens. -/
theorem keeps_opening {kind : TokenKind} {rule : OpeningRule} (opens : Rules.Opens kind rule)
    (isKind : state.stream.current.kind = kind) : Keeps (rule.read reader) state := by
  have unfinished : state.stream.current.kind ≠ .endOfInput := by
    rw [isKind]
    cases opens with
    | boolean listed => exact ne_of_mem_of_not_mem listed (by simp)
    | unary listed => exact ne_of_mem_of_not_mem listed (by simp)
    | _ => nofun
  have leaf : ∀ others, others <+ state.advance.stream.upcoming →
      [state.stream.current] ++ others <+ state.stream.upcoming := by
    intro others left
    rw [upcoming_of_current rfl unfinished]
    exact left.cons_cons _
  apply Keeps.of_some
    (compatible_proceeds.openingRule (related_self proceeds) proceeds opens state isKind)
  intro node after ran
  cases opens with
  | identifier =>
      cases ran
      exact leaf _ (List.Sublist.refl _)
  | integer =>
      obtain ⟨number, -, rfl, rfl⟩ := integer_eq_some ran
      exact leaf _ (List.Sublist.refl _)
  | boolean =>
      cases ran
      exact leaf _ (List.Sublist.refl _)
  | unary listed => exact kept_unary keeps (isKind ▸ listed) ran
  | group => exact kept_group keeps ran
  | conditional => exact kept_conditional keeps proceeds isKind ran
  | function => exact kept_function keeps proceeds isKind ran

/-- What continues an expression keeps its tokens behind those of the expression. -/
theorem kept_continuation {rule : ContinuationRule} {left : Option Node}
    (unfinished : state.stream.current.kind ≠ .endOfInput)
    (ran : rule.read reader left state = .ok answer after) :
    answerTokens answer ++ after.advance.stream.upcoming <+
      answerTokens left ++ state.stream.upcoming := by
  have proceedsRule : Proceeds (rule.read reader left) state :=
    compatible_proceeds.continuationRule (related_self proceeds) proceeds rule left state
  cases answer with
  | none => exact (proceedsRule.leads ran).advance_sublist.trans (List.sublist_append_right _ _)
  | some node =>
      rw [answerTokens_some]
      cases rule with
      | binary =>
          obtain ⟨leftNode, right, rfl, read, rfl⟩ := binary_eq_some ran
          have kept := keeps _ _ read
          rw [answerTokens_some] at kept
          rw [answerTokens_some, Node.sourceTokens_binary, upcoming_of_current rfl unfinished,
            List.append_assoc]
          exact List.Sublist.append_left (kept.cons_cons _) _
      | call =>
          obtain ⟨callee, nodes, rfl, read, rfl⟩ := call_eq_some ran
          have kept := kept_arguments keeps proceeds read
          rw [answerTokens_some, Node.sourceTokens_call, upcoming_of_current rfl unfinished,
            List.append_assoc]
          exact List.Sublist.append_left (kept.cons_cons _) _

/-- The loop over operators keeps what was read in front of what is left. -/
theorem kept_continuations {level : Precedence} {left : Option Node} {start : List Token}
    (ran : repeatTurns (Rules.standard.continuationTurn reader level) left state =
      .ok answer after)
    (kept : answerTokens left ++ state.advance.stream.upcoming <+ start) :
    answerTokens answer ++ after.advance.stream.upcoming <+ start := by
  apply repeatTurns_ok_induction (taking_continuationTurn proceeds Rules.standard level)
    (fun left state => answerTokens left ++ state.advance.stream.upcoming <+ start)
    (fun answer after => answerTokens answer ++ after.advance.stream.upcoming <+ start)
    ?again ?done kept ran
  case again =>
    intro left state following between kept turned
    obtain ⟨tighter, rule, -, readRule⟩ := exists_rule_of_again turned
    have unfinished : state.advance.stream.current.kind ≠ .endOfInput :=
      next_ne_endOfInput_of_lt tighter
    exact (kept_continuation keeps proceeds unfinished readRule).trans kept
  case done =>
    intro left state result between kept turned
    obtain ⟨-, rfl, rfl⟩ := not_lt_of_continuationTurn turned
    exact kept

theorem keeps_expressionBy (level : Precedence) (state : State) :
    Keeps (Rules.standard.expressionBy reader level) state := by
  apply Keeps.of_some (compatible_proceeds.expressionBy (related_self proceeds) proceeds
    Rules.regular_standard level state)
  intro node after ran
  obtain ⟨rule, left, between, found, readLeft, ran⟩ := Rules.expressionBy_eq_some ran
  have kept := keeps_opening keeps proceeds (Rules.opens_of_opening found) rfl readLeft
  rw [← answerTokens_some]
  exact kept_continuations keeps proceeds ran kept

end Rules

theorem keeps_expression (levels : Nat) (level : Precedence) (state : State) :
    Keeps (Rules.standard.expression levels level) state := by
  induction levels generalizing level state with
  | zero =>
      intro answer after ran
      cases ran
  | succ levels inductionHypothesis =>
      exact keeps_expressionBy inductionHypothesis (proceeds_expression levels) level state

/-! ### Programs -/

/-- The loop over a program keeps the tokens of its statements. -/
theorem kept_program {levels : Nat} {statements result : List Node} {start : List Token}
    (ran : repeatTurns (programTurn (Rules.standard.expression levels)) statements state =
      .ok result after)
    (kept : statements.reverse.flatMap Node.sourceTokens ++ state.stream.upcoming <+ start) :
    result.flatMap Node.sourceTokens <+ start := by
  apply repeatTurns_ok_induction (taking_programTurn (proceeds_expression levels))
    (fun statements state =>
      statements.reverse.flatMap Node.sourceTokens ++ state.stream.upcoming <+ start)
    (fun result _ => result.flatMap Node.sourceTokens <+ start) ?again ?done kept ran
  case again =>
    intro statements state following between kept turned
    obtain ⟨-, read, behind, readStatement, rfl, rfl⟩ := exists_statement_of_again turned
    have keptStatement := keeps_statement (keeps_expression levels)
      (proceeds_expression levels) state readStatement
    rw [sourceTokens_read, List.append_assoc]
    exact (List.Sublist.append_left keptStatement _).trans kept
  case done =>
    intro statements state result between kept turned
    obtain ⟨rfl, -⟩ := ended_or_tooDeep_of_done turned
    exact (List.sublist_append_left _ _).trans kept

end Parser

/-- The tokens of a tree are tokens of the text. -/
theorem sourceTokens_sublist_upcoming (source : String) :
    (parse source).program.sourceTokens <+ (TokenStream.ofString source).upcoming := by
  obtain ⟨result, state, ran, isParse⟩ := parseWith_eq nestingLimit source
  change parse source = _ at isParse
  rw [isParse, Parsed.program, Node.sourceTokens_program]
  exact Parser.kept_program ran (List.Sublist.refl _)

/-- The tokens of the tree of a text, with errors or without, are tokens of the text in
their order, none of them twice. Without errors they are all that leave a node, once the
parentheses of calls are left out. -/
theorem sourceTokens_sublist_tokenize (source : String) :
    (parse source).program.sourceTokens <+ tokenize source ∧
      (parse source).program.sourceTokens.Pairwise Token.Precedes ∧
      ((parse source).errors = [] →
        tokensButCalls (parse source).program.inOrder = significant (tokenize source)) := by
  have isSublist : (parse source).program.sourceTokens <+ tokenize source :=
    (sourceTokens_sublist_upcoming source).trans (List.sublist_append_left _ _)
  refine ⟨isSublist, (pairwise_tokenize source).sublist isSublist, fun noErrors => ?_⟩
  obtain ⟨statements, isTree, -, upcoming⟩ := exists_statements_of_errors_eq_nil noErrors
  rw [Parsed.program, isTree, Node.inOrder, ← significant_yieldAll, tokenize,
    TokenStream.toList, upcoming, significant_append]
  exact (List.append_nil _).symm

/-- A function whose body holds a call in a call. -/
theorem sourceTokens_of_twice :
    (parse "let twice = fn(f, x) { f(f(x)); };").errors = [] ∧
      tokensButCalls (parse "let twice = fn(f, x) { f(f(x)); };").program.inOrder =
        significant (tokenize "let twice = fn(f, x) { f(f(x)); };") := by
  have noErrors : (parse "let twice = fn(f, x) { f(f(x)); };").errors = [] := by decide +kernel
  exact ⟨noErrors, (sourceTokens_sublist_tokenize _).2.2 noErrors⟩

end MonkeySyntax
