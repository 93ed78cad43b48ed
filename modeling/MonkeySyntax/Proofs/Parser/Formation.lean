import MonkeySyntax.Proofs.Parser.Answers
import MonkeySyntax.Proofs.Parser.Soundness
import MonkeySyntax.Proofs.Token.Layout
import MonkeySyntax.Proofs.Tree.Formation

/-!
Contract: every node that a parse answers with is formed by the rules of the language.

Owns:
- that every rule answers with nodes formed out of the tokens ahead of it, whatever it
  reports and wherever it starts;
- the same for the statements of a text, within every nesting limit;
- that every node of the tree of a text is well formed.

Does not own: which nodes are answered with.
-/

set_option autoImplicit false

namespace MonkeySyntax

open Grammar
open scoped List

namespace Parser

variable {reader : ExpressionReader} {levels : Nat} {state after : State}

/-! ### Answers -/

/-- A run answers only with what is formed out of the tokens ahead. -/
def Forms (role : Role) (levels : Nat) (step : ParseM (Option Node)) (state : State) : Prop :=
  ∀ {node : Node} {after : State}, step state = .ok (some node) after →
    Formed role state.stream.upcoming levels node

/-- A reader of expressions answers only at a token that an expression can start with, and
with what is formed as an expression. -/
structure FormsExpressions (reader : ExpressionReader) (levels : Nat) : Prop where
  forms : ∀ level state, Forms .expression levels (reader level) state
  starts : ∀ {level state node after}, reader level state = .ok (some node) after →
    state.stream.current.kind ∈ starting

theorem current_mem_of_kind {kind : TokenKind} (isKind : state.stream.current.kind = kind)
    (isToken : kind ≠ .endOfInput) : state.stream.current ∈ state.stream.upcoming :=
  current_mem (isKind ▸ isToken)

/-! ### Statements -/

section Statements

variable (formsExpressions : FormsExpressions reader levels)
include formsExpressions

theorem forms_closingExpression (state : State) :
    Forms .expression levels (closingExpression reader) state := by
  intro node after ran
  obtain ⟨between, read, -⟩ := closingExpression_eq_ok ran
  exact formsExpressions.forms _ _ read

theorem forms_letStatement (isWord : state.stream.current.kind = .letWord) :
    Forms .statement levels (letStatement reader) state := by
  intro node after ran
  obtain ⟨isName, -, value, read, rfl⟩ := letStatement_eq_some ran
  have toName := upcoming_advance_suffix state
  have toValue := (upcoming_advance_suffix state.advance.advance).trans
    ((upcoming_advance_suffix state.advance).trans toName)
  have isNameAhead := toName.subset (current_mem_of_kind isName nofun)
  exact .letStatement (.ofKind isWord) (current_mem_of_kind isWord nofun)
    (.name (.ofKind isName) isNameAhead)
    ((forms_closingExpression formsExpressions _ read).mono toValue)

theorem forms_returnStatement (isWord : state.stream.current.kind = .returnWord) :
    Forms .statement levels (returnStatement reader) state := by
  intro node after ran
  obtain ⟨value, read, rfl⟩ := returnStatement_eq_some ran
  exact .returnStatement (.ofKind isWord) (current_mem_of_kind isWord nofun)
    ((forms_closingExpression formsExpressions _ read).mono (upcoming_advance_suffix state))

theorem forms_expressionStatement (state : State) :
    Forms .statement levels (expressionStatement reader) state := by
  intro node after ran
  obtain ⟨value, read, rfl⟩ := expressionStatement_eq_some ran
  have formed := forms_closingExpression formsExpressions state read
  obtain ⟨between, readValue, -⟩ := closingExpression_eq_ok read
  have isStart := formsExpressions.starts readValue
  have unfinished : state.stream.current.kind ≠ .endOfInput :=
    ne_of_mem_of_not_mem isStart (by decide)
  rw [TokenStream.upcoming_eq_cons unfinished] at formed ⊢
  exact .expressionStatement ⟨state.stream.current, isStart⟩ (List.suffix_refl _) formed

theorem forms_statement (state : State) : Forms .statement levels (statement reader) state := by
  intro node after ran
  rw [statement_run] at ran
  by_cases isLet : state.stream.current.kind = .letWord
  · rw [if_pos isLet] at ran
    exact forms_letStatement formsExpressions isLet ran
  by_cases isReturn : state.stream.current.kind = .returnWord
  · rw [if_neg isLet, if_pos isReturn] at ran
    exact forms_returnStatement formsExpressions isReturn ran
  · rw [if_neg isLet, if_neg isReturn] at ran
    exact forms_expressionStatement formsExpressions state ran

end Statements

/-- The loops over statements carry what was formed so far. -/
theorem forall_mem_read {property : Node → Prop} {read : Option Node} {statements : List Node}
    (ofRead : ∀ node, read = some node → property node)
    (ofStatements : ∀ statement ∈ statements, property statement) :
    ∀ statement ∈ read.toList ++ statements, property statement :=
  List.forall_mem_append.mpr
    ⟨fun node listed => ofRead node (Option.mem_toList.mp listed), ofStatements⟩

/-! ### Lists -/

/-- The loop over parameters carries what was formed so far. -/
theorem formed_otherParameters {start : List Token} {names all : List Node}
    (ran : repeatTurns parameterTurn names state = .ok (some all) after)
    (isSuffix : state.stream.upcoming <:+ start)
    (formed : ∀ name ∈ names, Formed .name start levels name) :
    ∀ name ∈ all, Formed .name start levels name := by
  apply repeatTurns_ok_induction taking_parameterTurn
    (fun names state => state.stream.upcoming <:+ start ∧
      ∀ name ∈ names, Formed .name start levels name)
    (fun result _ => ∀ all, result = some all → ∀ name ∈ all, Formed .name start levels name)
    ?again ?done ⟨isSuffix, formed⟩ ran all rfl
  case again =>
    rintro names state following after ⟨isSuffix, formed⟩ turned
    obtain ⟨comma, isName⟩ := comma_of_parameterTurn turned
    rw [parameterTurn_of_comma comma isName] at turned
    cases turned
    have behind : state.advance.advance.stream.upcoming <:+ start :=
      (upcoming_advance_suffix _).trans ((upcoming_advance_suffix _).trans isSuffix)
    have isAhead : state.advance.stream.next ∈ start :=
      behind.subset (current_mem_of_kind isName nofun)
    exact ⟨behind, List.forall_mem_cons.mpr ⟨.name (.ofKind isName) isAhead, formed⟩⟩
  case done =>
    rintro names state _ after ⟨-, formed⟩ turned all rfl name listed
    obtain ⟨-, rfl, -⟩ := names_of_parameterTurn turned
    exact formed name (List.mem_reverse.mp listed)

theorem formed_parameters {all : List Node} (ran : parameters state = .ok (some all) after) :
    ∀ name ∈ all, Formed .name state.stream.upcoming levels name := by
  rcases parameters_eq_some ran with ⟨rfl, -⟩ | ⟨isName, readOthers⟩
  · exact List.forall_mem_nil _
  · have behind := upcoming_advance_suffix state
    have isAhead := behind.subset (current_mem_of_kind isName nofun)
    exact formed_otherParameters readOthers behind
      (List.forall_mem_singleton.mpr (.name (.ofKind isName) isAhead))

section Rules

variable (formsExpressions : FormsExpressions reader levels)
  (proceeds : ∀ level state, Proceeds (reader level) state)
include formsExpressions proceeds

/-- The loop over arguments carries what was formed so far. -/
theorem formed_otherArguments {start : List Token} {collected all : List (Option Node)}
    (ran : repeatTurns (argumentTurn reader) collected state = .ok all after)
    (isSuffix : state.stream.upcoming <:+ start)
    (formed : ∀ argument, some argument ∈ collected → Formed .expression start levels argument) :
    ∀ argument, some argument ∈ all → Formed .expression start levels argument := by
  apply repeatTurns_ok_induction (taking_argumentTurn proceeds)
    (fun collected state => state.stream.upcoming <:+ start ∧
      ∀ argument, some argument ∈ collected → Formed .expression start levels argument)
    (fun all _ => ∀ argument, some argument ∈ all → Formed .expression start levels argument)
    ?again ?done ⟨isSuffix, formed⟩ ran
  case again =>
    rintro collected state following after ⟨isSuffix, formed⟩ turned
    obtain ⟨-, argument, read, rfl⟩ := exists_argument_of_again turned
    have behind : state.advance.advance.stream.upcoming <:+ start :=
      (upcoming_advance_suffix _).trans ((upcoming_advance_suffix _).trans isSuffix)
    refine ⟨((proceeds _ _).leads read).upcoming_suffix.trans behind, fun node listed => ?_⟩
    rcases List.mem_cons.mp listed with rfl | earlier
    · exact (formsExpressions.forms _ _ read).mono behind
    · exact formed node earlier
  case done =>
    rintro collected state result after ⟨-, formed⟩ turned argument listed
    obtain ⟨rfl, -⟩ := result_of_argumentTurn turned
    exact formed argument (List.mem_reverse.mp listed)

theorem formed_arguments {all : List Node} (ran : arguments reader state = .ok (some all) after) :
    ∀ argument ∈ all, Formed .expression state.stream.upcoming levels argument := by
  rcases arguments_eq_some ran with ⟨rfl, -⟩ | ⟨first, between, behind, read, readOthers, -⟩
  · exact List.forall_mem_nil _
  · have toFirst := upcoming_advance_suffix state
    have isSuffix := ((proceeds _ _).leads read).upcoming_suffix.trans toFirst
    have formed := formed_otherArguments formsExpressions proceeds readOthers isSuffix
      fun argument listed => by
        obtain rfl := List.mem_singleton.mp listed
        exact (formsExpressions.forms _ _ read).mono toFirst
    exact fun argument listed => formed argument (List.mem_map_of_mem listed)

/-! ### Blocks -/

theorem forms_block (isOpening : state.stream.next.kind = .leftBrace) :
    Forms .block levels (block reader) state.advance := by
  intro node after ran
  unfold block at ran
  rw [bind_of_ok (current_run state.advance), bind_of_ok (advance_run state.advance)] at ran
  -- The statements are formed out of what is ahead of the whole block.
  apply repeatTurns_ok_induction (taking_blockTurn proceeds state.stream.next)
    (fun statements behind => behind.stream.upcoming <:+ state.advance.stream.upcoming ∧
      ∀ statement ∈ statements,
        Formed .statement state.advance.stream.upcoming levels statement)
    (fun result _ => ∀ node, result = some node →
      Formed .block state.advance.stream.upcoming levels node)
    ?again ?done ⟨upcoming_advance_suffix state.advance, List.forall_mem_nil _⟩ ran
    node rfl
  case again =>
    rintro statements behind following after ⟨isSuffix, formed⟩ turned
    obtain ⟨-, read, between, readStatement, rfl, rfl⟩ := exists_statement_of_blockTurn turned
    have leads := (compatible_proceeds.statement (related_self proceeds) behind).leads
      readStatement
    refine ⟨(upcoming_advance_suffix _).trans (leads.upcoming_suffix.trans isSuffix),
      forall_mem_read (fun node isNode => ?_) formed⟩
    subst isNode
    exact (forms_statement formsExpressions behind readStatement).mono isSuffix
  case done =>
    rintro statements behind _ after ⟨-, formed⟩ turned node rfl
    obtain ⟨-, isBlock, -⟩ | ⟨isNone, -⟩ := brace_or_ended_of_blockTurn turned
    · cases isBlock
      have isCurrent : state.advance.stream.current.kind = .leftBrace := isOpening
      exact .block (.ofKind isCurrent) (current_mem_of_kind isCurrent nofun)
        fun statement listed => formed statement (List.mem_reverse.mp listed)
    · cases isNone

/-! ### Expressions -/

omit proceeds in
theorem forms_unary (isOperator : state.stream.current.kind ∈ [.bang, .minus]) :
    Forms .expression (levels + 1) (unary reader) state := by
  intro node after ran
  obtain ⟨operand, read, rfl⟩ := unary_eq_some ran
  have unfinished : state.stream.current.kind ≠ .endOfInput :=
    ne_of_mem_of_not_mem isOperator (by decide)
  exact .unary ⟨state.stream.current, isOperator⟩ (current_mem unfinished)
    ((formsExpressions.forms _ _ read).mono (upcoming_advance_suffix state))

omit proceeds in
theorem forms_group (state : State) : Forms .expression (levels + 1) (group reader) state := by
  intro node after ran
  obtain ⟨between, read, -⟩ := group_eq_some ran
  exact .group ((formsExpressions.forms _ _ read).mono (upcoming_advance_suffix state))

theorem formed_alternative {otherwise : Option Node}
    (ran : alternative reader state = .ok (some otherwise) after) :
    ∀ node ∈ otherwise, Formed .block state.stream.upcoming levels node := by
  rcases alternative_eq_some ran with ⟨rfl, -⟩ | ⟨isOpening, body, read, rfl⟩
  · exact nofun
  · rintro node ⟨⟩
    exact (forms_block formsExpressions proceeds isOpening read).mono
      ((upcoming_advance_suffix _).trans (upcoming_advance_suffix state))

theorem forms_conditional (isWord : state.stream.current.kind = .ifWord) :
    Forms .expression (levels + 1) (conditional reader) state := by
  intro node after ran
  obtain ⟨condition, consequence, otherwise, first, second, -, readCondition, -, isBrace,
    readConsequence, readOtherwise, rfl⟩ := conditional_eq_some ran
  have toCondition := (upcoming_advance_suffix state.advance).trans
    (upcoming_advance_suffix state)
  have toFirst := ((proceeds _ _).leads readCondition).upcoming_suffix.trans toCondition
  have toConsequence := (upcoming_advance_suffix first.advance).trans
    ((upcoming_advance_suffix first).trans toFirst)
  have leads := (compatible_proceeds.block (related_self proceeds) proceeds _).leads
    readConsequence
  have toOtherwise := leads.upcoming_suffix.trans toConsequence
  exact .conditional (.ofKind isWord) (current_mem_of_kind isWord nofun)
    ((formsExpressions.forms _ _ readCondition).mono toCondition)
    ((forms_block formsExpressions proceeds isBrace readConsequence).mono toConsequence)
    fun node isNode =>
      (formed_alternative formsExpressions proceeds readOtherwise node isNode).mono toOtherwise

theorem forms_function (isWord : state.stream.current.kind = .functionWord) :
    Forms .expression (levels + 1) (function reader) state := by
  intro node after ran
  obtain ⟨names, body, first, -, readNames, isBrace, readBody, rfl⟩ := function_eq_some ran
  have toNames := upcoming_advance_suffix state
  have leads := (compatible_proceeds.parameters state.advance).leads readNames
  have toBody := (upcoming_advance_suffix first).trans (leads.upcoming_suffix.trans toNames)
  exact .function (.ofKind isWord) (current_mem_of_kind isWord nofun)
    (fun name listed => (formed_parameters readNames name listed).mono toNames)
    ((forms_block formsExpressions proceeds isBrace readBody).mono toBody)

/-- What starts an expression answers with an expression. -/
theorem forms_opening {kind : TokenKind} {rule : OpeningRule} (opens : Rules.Opens kind rule)
    (isKind : state.stream.current.kind = kind) :
    Forms .expression (levels + 1) (rule.read reader) state := by
  intro node after ran
  cases opens with
  | identifier =>
      cases ran
      exact .identifier (.ofKind isKind) (current_mem_of_kind isKind nofun)
  | integer =>
      obtain ⟨number, isRead, -, rfl⟩ := integer_eq_some ran
      exact .integer (.ofKind isKind) (current_mem_of_kind isKind nofun) isRead
  | boolean listed =>
      cases ran
      have isAhead := current_mem_of_kind isKind (ne_of_mem_of_not_mem listed (by decide))
      exact .boolean ⟨state.stream.current, isKind ▸ listed⟩ isAhead
  | unary listed => exact forms_unary formsExpressions (isKind ▸ listed) ran
  | group => exact forms_group formsExpressions state ran
  | conditional => exact forms_conditional formsExpressions proceeds isKind ran
  | function => exact forms_function formsExpressions proceeds isKind ran

/-- What continues an expression takes it in as the left part of an expression. -/
theorem formed_continuation {kind : TokenKind} {rule : ContinuationRule} {left : Option Node}
    {node : Node} {start : List Token} (continues : Rules.Continues kind rule)
    (isKind : state.stream.current.kind = kind) (isSuffix : state.stream.upcoming <:+ start)
    (formed : ∀ inside, left = some inside → Formed .expression start (levels + 1) inside)
    (ran : rule.read reader left state = .ok (some node) after) :
    Formed .expression start (levels + 1) node := by
  cases continues with
  | binary listed =>
      obtain ⟨leftNode, right, rfl, read, rfl⟩ := binary_eq_some ran
      have isAhead := current_mem_of_kind isKind (ne_of_mem_of_not_mem listed (by decide))
      exact .binary (formed _ rfl) ⟨state.stream.current, isKind ▸ listed⟩
        (isSuffix.subset isAhead)
        ((formsExpressions.forms _ _ read).mono ((upcoming_advance_suffix state).trans isSuffix))
  | call =>
      obtain ⟨callee, nodes, rfl, read, rfl⟩ := call_eq_some ran
      exact .call (formed _ rfl) (.ofKind isKind)
        (isSuffix.subset (current_mem_of_kind isKind nofun)) fun argument listed =>
          (formed_arguments formsExpressions proceeds read argument listed).mono isSuffix

theorem forms_expressionBy (level : Precedence) (state : State) :
    Forms .expression (levels + 1) (Rules.standard.expressionBy reader level) state := by
  intro node after ran
  obtain ⟨rule, left, between, found, readLeft, ran⟩ := Rules.expressionBy_eq_some ran
  have opens := Rules.opens_of_opening found
  have leads :=
    (compatible_proceeds.openingRule (related_self proceeds) proceeds opens state rfl).leads readLeft
  -- Whatever is read so far is formed out of what was ahead at first.
  apply repeatTurns_ok_induction (taking_continuationTurn proceeds Rules.standard level)
    (fun left behind => behind.stream.upcoming <:+ state.stream.upcoming ∧
      ∀ inside, left = some inside →
        Formed .expression state.stream.upcoming (levels + 1) inside)
    (fun answer _ => ∀ node, answer = some node →
      Formed .expression state.stream.upcoming (levels + 1) node)
    ?again ?done ⟨leads.upcoming_suffix, fun inside isInside => ?first⟩ ran node rfl
  case first =>
    subst isInside
    exact forms_opening formsExpressions proceeds opens rfl readLeft
  case again =>
    rintro left behind following after ⟨isSuffix, formed⟩ turned
    obtain ⟨-, rule, found, readRule⟩ := exists_rule_of_again turned
    have toRule := (upcoming_advance_suffix behind).trans isSuffix
    have leads := (compatible_proceeds.continuationRule (related_self proceeds) proceeds rule
      left behind.advance).leads readRule
    refine ⟨leads.upcoming_suffix.trans toRule, fun inside isInside => ?_⟩
    subst isInside
    exact formed_continuation formsExpressions proceeds
      (Rules.continues_of_continuation found) rfl toRule formed readRule
  case done =>
    rintro left behind _ after ⟨-, formed⟩ turned node rfl
    obtain ⟨-, isLeft, -⟩ := not_lt_of_continuationTurn turned
    exact formed node isLeft.symm

end Rules

/-- Expressions are answered only at tokens that have an opening rule. -/
theorem starts_expressionBy {level : Precedence} {node : Node}
    (ran : Rules.standard.expressionBy reader level state = .ok (some node) after) :
    state.stream.current.kind ∈ starting := by
  obtain ⟨rule, _, _, found, -, -⟩ := Rules.expressionBy_eq_some ran
  rw [← Rules.isSome_opening_iff, found]
  rfl

theorem formsExpressions_expression (levels : Nat) :
    FormsExpressions (Rules.standard.expression levels) levels := by
  induction levels with
  | zero => exact ⟨fun _ _ _ _ => nofun, fun ran => nomatch ran⟩
  | succ levels inductionHypothesis =>
      exact ⟨forms_expressionBy inductionHypothesis (proceeds_expression levels),
        starts_expressionBy⟩

/-! ### Programs -/

/-- The loop over a program carries what was formed so far. -/
theorem formed_program {statements : List Node}
    (ran : program (Rules.standard.expression levels) state = .ok statements after) :
    ∀ statement ∈ statements, Formed .statement state.stream.upcoming levels statement := by
  apply repeatTurns_ok_induction (taking_programTurn (proceeds_expression levels))
    (fun statements behind => behind.stream.upcoming <:+ state.stream.upcoming ∧
      ∀ statement ∈ statements, Formed .statement state.stream.upcoming levels statement)
    (fun statements _ => ∀ statement ∈ statements,
      Formed .statement state.stream.upcoming levels statement)
    ?again ?done ⟨List.suffix_refl _, List.forall_mem_nil _⟩ ran
  case again =>
    rintro statements behind following after ⟨isSuffix, formed⟩ turned
    obtain ⟨-, read, between, readStatement, rfl, rfl⟩ := exists_statement_of_again turned
    have leads := (proceeds_statement levels behind).leads readStatement
    refine ⟨(upcoming_advance_suffix _).trans (leads.upcoming_suffix.trans isSuffix),
      forall_mem_read (fun node isNode => ?_) formed⟩
    subst isNode
    exact (forms_statement (formsExpressions_expression levels) behind readStatement).mono isSuffix
  case done =>
    rintro statements behind result after ⟨-, formed⟩ turned statement listed
    obtain ⟨rfl, -⟩ := ended_or_tooDeep_of_done turned
    exact formed statement (List.mem_reverse.mp listed)

end Parser

/-- Every statement of a text is formed out of its tokens, within every nesting limit. -/
theorem formed_of_mem_parseWith {limit : Nat} {source : String} {statement : Node}
    (listed : statement ∈ (parseWith .standard limit source).statements) :
    Formed .statement (TokenStream.ofString source).upcoming limit statement := by
  obtain ⟨statements, state, ran, isParse⟩ := parseWith_eq limit source
  rw [isParse] at listed
  exact Parser.formed_program ran statement listed

/-- Every node of the tree of a text is well formed, whether there are errors or not. -/
theorem parse_wellFormed (source : String) :
    (parse source).abandoned = none ∧
      ∀ node ∈ (parse source).program.preorder, node.WellFormed := by
  obtain ⟨_, _, _, isParse⟩ := parseWith_eq nestingLimit source
  refine ⟨congrArg Parsed.abandoned isParse, fun node met => ?_⟩
  have ordered : (TokenStream.ofString source).upcoming.Pairwise Token.Precedes :=
    (pairwise_tokenize source).sublist (List.sublist_append_left _ _)
  rcases Node.mem_preorder.mp met with rfl | ⟨statement, listed, met⟩
  · exact fun statement listed => (formed_of_mem_parseWith listed).admits
  · exact (formed_of_mem_parseWith listed).wellFormed_of_mem_preorder
      (TokenStream.lexed_ofString source) ordered met

/-- A function inside a call, behind a binding that could not be read. -/
theorem parse_wellFormed_broken :
    (parse "let 5; f(fn(x) \x7b !x + 007 \x7d)").errors ≠ [] ∧
      ∃ node ∈ (parse "let 5; f(fn(x) \x7b !x + 007 \x7d)").program.preorder,
        node.className = "FunctionLiteral" ∧ node.WellFormed := by
  have isMet : ∃ node ∈ (parse "let 5; f(fn(x) \x7b !x + 007 \x7d)").program.preorder,
      node.className = "FunctionLiteral" := by decide +kernel
  obtain ⟨node, met, isFunction⟩ := isMet
  exact ⟨by decide +kernel, node, met, isFunction, (parse_wellFormed _).2 node met⟩

end MonkeySyntax
