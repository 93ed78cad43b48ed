import MonkeySyntax.Proofs.Parser.Promptness.Rules
import MonkeySyntax.Proofs.Parser.Truncation
import MonkeySyntax.Proofs.Token.Layout

/-!
Contract: the first report of a parse is never late.

Owns:
- promptness of the loop over the operators behind an expression, and of the reader of
  expressions within every number of levels;
- promptness of a parse: a sentence starts with the tokens in front of the one that the
  first report is about.

Does not own: what is reported later, when the parse has lost its place.
-/

set_option autoImplicit false

namespace MonkeySyntax

open Grammar

namespace Parser

variable {all : List Token} {reader : ExpressionReader} {state after : State}

/-! ### Operators -/

/-- A parse stands at the last token of an expression that was read where any one might
follow, and no operator behind it binds tighter than what it is made of. -/
def AtExpression (all : List Token) (left : Option Node) (state : State) : Prop :=
  ∃ (before : List Token) (start : State) (level : Precedence) (derivation : Expr level),
    Stands all before start ∧ Awaits .expression before ∧
    State.Leads Diagnostic.Ordinary start state ∧ Took derivation start left state ∧
    state.stream.next.kind.precedence.rank ≤ level.rank

theorem AtExpression.behind {left : Option Node} (atExpression : AtExpression all left state) :
    BehindExpression all state.advance := by
  obtain ⟨before, start, level, derivation, stands, awaits, leads, took, -⟩ := atExpression
  exact ⟨before, derivation.yield, awaits, derivation.isExpression,
    stands.behind took.upcoming_eq leads.endToken_eq⟩

section Operators

variable (prompts : PromptReader all reader) (sound : Sound reader)
  (proceeds : ∀ level state, Proceeds (reader level) state)
include prompts sound proceeds

theorem prompt_continuation {rule : ContinuationRule} (left : Option Node)
    (above : .lowest < state.stream.current.kind.precedence)
    (found : Rules.standard.continuation state.stream.current.kind = some rule) :
    Prompt all (BehindExpression all state) state.log (rule.read reader left state) := by
  by_cases isCall : state.stream.current.kind = .leftParen
  · rw [isCall, Rules.continuation_leftParen] at found
    cases found
    exact prompt_call prompts sound proceeds left isCall
  · rw [Rules.continuation_of_operator above isCall] at found
    cases found
    exact prompt_binary prompts left
      (operatorsAt_subset _ (TokenKind.mem_operatorsAt_precedence above isCall))

theorem prompt_continuationTurn (level : Precedence) (left : Option Node) (state : State) :
    Prompt all (AtExpression all left state) state.log
      (Rules.standard.continuationTurn reader level left state) := by
  by_cases tighter : level < state.stream.next.kind.precedence
  · have above := Precedence.lowest_lt_of_lt tighter
    obtain ⟨rule, found⟩ := Rules.exists_continuation above
    have isAbove : .lowest < state.advance.stream.current.kind.precedence := above
    have prompt := prompt_continuation prompts sound proceeds left isAbove found
    rw [continuationTurn_of_some tighter found]
    exact (prompt.imp AtExpression.behind).bind fun read after _ => prompt_of_log_eq rfl
  · rw [continuationTurn_of_not_lt tighter]
    exact prompt_of_log_eq rfl

omit prompts in
theorem atExpression_of_continuationTurn {level : Precedence} {left following : Option Node}
    (atExpression : AtExpression all left state)
    (turned : Rules.standard.continuationTurn reader level left state =
      .ok (.again following) after)
    (silent : after.log = state.log) : AtExpression all following after := by
  obtain ⟨before, start, _, derivation, stands, awaits, leads, took, atMost⟩ := atExpression
  obtain ⟨extended, whole, tookWhole, -, alsoAtMost⟩ :=
    took_continuation sound proceeds (stands.lexed.of_suffix leads.upcoming_suffix) turned
      (Nat.le_of_eq (congrArg List.length silent)) took atMost
  have proceedsTurn : Proceeds (Rules.standard.continuationTurn reader level left) state :=
    compatible_proceeds.continuationTurn (related_self proceeds) proceeds _ level left state
  exact ⟨before, start, extended, whole, stands, awaits, leads.trans (proceedsTurn.leads turned),
    tookWhole, alsoAtMost⟩

/-- Reading an expression by the standard rules is prompt when reading the expressions
inside it is. -/
theorem prompt_expressionBy : PromptReader all (Rules.standard.expressionBy reader) := by
  intro level state
  unfold Rules.expressionBy
  rw [bind_of_ok (current_run state)]
  cases found : Rules.standard.opening state.stream.current.kind with
  | none =>
      exact prompt_told rfl rfl fun ⟨before, stands, awaits⟩ _ =>
        stands.timely awaits.viable rfl nofun
  | some rule =>
      have opens := Rules.opens_of_opening found
      refine Prompt.bind (prompt_opening prompts sound proceeds opens rfl)
        fun left between readLeft => ?_
      have loop := prompt_repeatTurns (taking_continuationTurn proceeds Rules.standard level)
        (AtExpression all) (prompt_continuationTurn prompts sound proceeds level) ?kept left between
      case kept =>
        intro left state following after atExpression turned silent
        exact atExpression_of_continuationTurn sound proceeds atExpression turned silent
      refine loop.imp fun ⟨⟨before, stands, awaits⟩, silent⟩ => ?_
      have proceedsLeft : Proceeds (rule.read reader) state :=
        compatible_proceeds.openingRule (related_self proceeds) proceeds opens state rfl
      obtain ⟨reached, derivation, took, -, atMost⟩ :=
        took_opening sound proceeds opens rfl stands.lexed readLeft
          (Nat.le_of_eq (congrArg List.length silent))
      exact ⟨before, state, reached, derivation, stands, awaits, proceedsLeft.leads readLeft, took,
        atMost⟩

end Operators

theorem prompt_expression (all : List Token) (levels : Nat) :
    PromptReader all (Rules.standard.expression levels) := by
  induction levels with
  | zero => exact fun level state => prompt_of_log_eq rfl
  | succ levels inductionHypothesis =>
      exact prompt_expressionBy inductionHypothesis (sound_expression levels)
        (proceeds_expression levels)

/-! ### Programs -/

theorem Prompt.unlessTooDeep {α : Type} {ready : Prop} {log : List Report} {step : ParseM α}
    (prompt : Prompt all ready log (step state)) :
    Prompt all ready log (Parser.unlessTooDeep step state) := by
  have same := reached_unlessTooDeep step state
  exact ⟨same ▸ prompt.grows, same ▸ prompt.timely⟩

theorem prompt_programTurn (levels : Nat) (read : List Node) (state : State) :
    Prompt all (Ready all .statements state) state.log
      (programTurn (Rules.standard.expression levels) read state) := by
  unfold programTurn
  rw [bind_of_ok (current_run state)]
  by_cases ended : state.stream.current.kind = .endOfInput
  · rw [if_pos ended]
    exact prompt_of_log_eq rfl
  rw [if_neg ended]
  refine (prompt_statement (prompt_expression all levels) state).unlessTooDeep.bind
    fun answer after _ => ?_
  cases answer with
  | none => exact prompt_told rfl rfl fun _ ordinary => absurd rfl ordinary
  | some node => exact prompt_of_log_eq rfl

theorem prompt_program (all : List Token) (levels : Nat) (state : State) :
    Prompt all (Ready all .statements state) state.log
      (program (Rules.standard.expression levels) state) := by
  have taking := taking_programTurn (proceeds_expression levels)
  refine prompt_repeatTurns taking (fun _ state => Ready all .statements state)
    (prompt_programTurn levels) ?_ [] state
  intro read state following after ready turned silent
  obtain ⟨-, answer, between, ran, -, rfl⟩ := exists_statement_of_again turned
  exact ready_behind_statement (sound_expression levels) (proceeds_expression levels) ready ran
    silent

end Parser

/-- The token that the first report of a parse is about is one of the tokens of the text,
and a sentence starts with the tokens in front of it. A block is reported as unclosed at the
end of the input. Only the nesting limit may be reached elsewhere. -/
theorem exists_sentence_of_first_report (source : String) {first : Report} {others : List Report}
    (reported : (parse source).reports = first :: others)
    (shallow : first.message ≠ "expression nested too deeply") :
    (first.diagnostic = .unclosedBlock → first.offending.kind = .endOfInput) ∧
      ∃ before behind, tokenize source = before ++ first.offending :: behind ∧
        first.offending ∉ before ++ behind ∧
        ∃ sentence, Sentence sentence ∧ before <+: sentence := by
  obtain ⟨statements, state, ran, isParse⟩ := parseWith_eq nestingLimit source
  change parse source = _ at isParse
  have logged : state.log = others.reverse ++ [first] := by
    rw [isParse] at reported
    rw [← List.reverse_cons, ← reported]
    exact (List.reverse_reverse _).symm
  have ready : Parser.Ready (tokenize source) .statements (.start (.ofString source)) :=
    ⟨[], ⟨TokenStream.lexed_ofString source, rfl⟩, awaits_nil⟩
  have prompt :=
    Parser.prompt_program (tokenize source) nestingLimit (.start (.ofString source))
  rw [ran] at prompt
  have ordinary : first.diagnostic ≠ .nestedTooDeeply := by
    intro tooDeep
    exact shallow (congrArg Diagnostic.message tooDeep)
  obtain ⟨⟨before, behind, divided, behindViable, isSentence⟩, ended⟩ :=
    prompt.timely ready others.reverse first logged ordinary
  refine ⟨ended, before, behind, divided, ?_, _, isSentence, List.prefix_append _ _⟩
  have inOrder := pairwise_tokenize source
  rw [divided] at inOrder
  intro twice
  have different := inOrder.imp Token.Precedes.ne
  rw [List.pairwise_append, List.pairwise_cons] at different
  rcases List.mem_append.mp twice with earlier | later
  · exact different.2.2 _ earlier _ List.mem_cons_self rfl
  · exact different.2.1.1 _ later rfl

/-- A condition without its closing parenthesis is reported at the name behind it. -/
theorem exists_sentence_of_open_condition :
    ∃ first others, (parse "if (a b").reports = first :: others ∧
      first.message ≠ "expression nested too deeply" ∧
      first.offending = ⟨.ident, "b", 1, 7⟩ ∧
      ∃ before behind, tokenize "if (a b" = before ++ first.offending :: behind ∧
        ∃ sentence, Sentence sentence ∧ before <+: sentence := by
  have reported : (parse "if (a b").reports =
      [⟨.unexpected .rightParen .ident, ⟨.ident, "a", 1, 5⟩, ⟨.ident, "b", 1, 7⟩⟩] := by
    decide +kernel
  have shallow := Diagnostic.unexpectedMessage_ne .rightParen .ident
  obtain ⟨-, before, behind, divided, -, startsSentence⟩ :=
    exists_sentence_of_first_report _ reported shallow
  exact ⟨_, _, reported, shallow, rfl, before, behind, divided, startsSentence⟩

end MonkeySyntax
