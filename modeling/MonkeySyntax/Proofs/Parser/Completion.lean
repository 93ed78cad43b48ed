import MonkeySyntax.Program
import MonkeySyntax.Proofs.Parser.Counting
import MonkeySyntax.Proofs.Parser.Literals
import MonkeySyntax.Proofs.Token.Spelling

/-!
Contract: every parse of a text comes to an end, and by returning.

Owns:
- that reading an expression ahead of the tokens of a text is abandoned for its
  nesting only: no loop stalls, and every integer literal is a numeral;
- that the loop over a program is never abandoned;
- the exact range of the integer literals of a text.
-/

set_option autoImplicit false

namespace MonkeySyntax

namespace Parser

variable {reader : ExpressionReader} {statements : List Node} {state after : State}

/-! ### Turns that take tokens -/

/-- The loop over a program keeps the statements and the reports there are. -/
theorem prefix_of_program {levels : Nat} {read result : List Node}
    (ran : repeatTurns (programTurn (Rules.standard.expression levels)) read state =
      .ok result after) :
    read.reverse <+: result ∧ state.log <:+ after.log := by
  apply repeatTurns_ok_induction (taking_programTurn (proceeds_expression levels))
    (fun carried between => read.reverse <+: carried.reverse ∧ state.log <:+ between.log)
    (fun result after => read.reverse <+: result ∧ state.log <:+ after.log) ?again ?done
    ⟨List.prefix_refl _, List.suffix_refl _⟩ ran
  case again =>
    intro carried between following behind holds turned
    obtain ⟨-, node, ended, readStatement, rfl, rfl⟩ := exists_statement_of_again turned
    have leads := (proceeds_statement levels between).leads readStatement
    constructor
    · rw [List.reverse_append]
      exact holds.1.trans (List.prefix_append _ _)
    · exact holds.2.trans leads.log_suffix
  case done =>
    intro carried between result behind holds turned
    obtain ⟨rfl, ⟨-, rfl⟩ | ⟨-, ended, failed, rfl⟩⟩ := ended_or_tooDeep_of_done turned
    · exact holds
    · have logged := ((proceeds_statement levels between).leads_error failed).log_suffix
      exact ⟨holds.1, (holds.2.trans logged).trans (List.suffix_cons _ _)⟩

/-! ### Abandonment -/

/-- Ahead of the tokens of a text, a run either answers, and then tokens of a text
are ahead again, or is abandoned for its nesting. -/
def Settles {α : Type} (step : ParseM α) (state : State) : Prop :=
  state.stream.Lexed →
    match step state with
    | .ok _ after => after.stream.Lexed
    | .error reason _ => reason = .nestedTooDeeply

theorem lexed_advance (lexed : state.stream.Lexed) : state.advance.stream.Lexed :=
  lexed.of_suffix (upcoming_advance_suffix state)

theorem current_mem (unfinished : state.stream.current.kind ≠ .endOfInput) :
    state.stream.current ∈ state.stream.upcoming := by
  rw [TokenStream.upcoming_eq_cons unfinished]
  exact List.mem_cons_self

/-- Nothing is ahead where the tokens of a text have ended. -/
theorem upcoming_eq_nil (lexed : state.stream.Lexed)
    (ended : state.stream.current.kind = .endOfInput) : state.stream.upcoming = [] := by
  cases ahead : state.stream.upcoming with
  | nil => rfl
  | cons token others =>
      have isCurrent : state.stream.current = token := by
        rw [TokenStream.current, ahead, List.headD_cons]
      have spelled := lexed token (by rw [ahead]; exact List.mem_cons_self)
      exact absurd (isCurrent ▸ ended) spelled.kind_ne_endOfInput

theorem settles_integer (isInt : state.stream.current.kind = .int) :
    Settles integer state := by
  intro lexed
  have spelled := lexed _ (current_mem (by simp [isInt]))
  rw [isInt] at spelled
  rw [integer_of_isDigit spelled.isDigit_of_int]
  by_cases inRange : Grammar.decimal state.stream.current.literal.toList ≤ 2 ^ 63 - 1
  · rw [if_pos inRange]
    exact lexed
  · rw [if_neg inRange]
    exact lexed

theorem compatible_settles : Compatible fun step _ state => Settles step state where
  pure _ _ := id
  current _ := id
  next _ := id
  advance _ := lexed_advance
  report _ _ := id
  integer _ := settles_integer
  bind {α β step _ following _ state} settles followingSettles := by
    intro lexed
    have settled := settles lexed
    cases ran : step state with
    | ok answer after =>
        rw [ran] at settled
        rw [bind_of_ok ran]
        exact followingSettles answer after (Or.inl ran) settled
    | error reason after =>
        rw [ran] at settled
        rw [bind_of_error ran]
        exact settled
  repeatTurns {α β turn _} carried start taking settles := by
    intro startLexed
    refine repeatTurns_induction taking (fun _ state => state.stream.Lexed)
      (fun result =>
        match result with
        | .ok _ after => after.stream.Lexed
        | .error reason _ => reason = .nestedTooDeeply)
      ?again ?done ?failed startLexed
    case again =>
      intro carried state following after lexed ran
      simpa only [ran] using settles carried state lexed
    case done =>
      intro carried state result after lexed ran
      simpa only [ran] using settles carried state lexed
    case failed =>
      intro carried state reason after lexed ran
      simpa only [ran] using settles carried state lexed

section Programs

variable {rules : Rules} (regular : rules.Regular) {levels : Nat}
include regular

theorem settles_expression (levels : Nat) (level : Precedence) (state : State) :
    Settles (rules.expression levels level) state := by
  induction levels generalizing level state with
  | zero => exact fun _ => rfl
  | succ levels inductionHypothesis =>
      exact compatible_settles.expressionBy (related_self inductionHypothesis)
        (advances_expression rules levels) regular level state

theorem eq_nestedTooDeeply_of_statement {reason : Abort} (lexed : state.stream.Lexed)
    (failed : statement (rules.expression levels) state = .error reason after) :
    reason = .nestedTooDeeply := by
  have settles : Settles (statement (rules.expression levels)) state :=
    compatible_settles.statement (related_self (settles_expression regular levels)) state
  simpa only [failed] using settles lexed

/-- A turn of a program is never abandoned: what is nested too deeply is caught. -/
theorem programTurn_ne_error {reason : Abort} (lexed : state.stream.Lexed) :
    programTurn (rules.expression levels) statements state ≠ .error reason after := by
  intro failed
  by_cases ended : state.stream.current.kind = .endOfInput
  · rw [programTurn_of_ended ended] at failed
    cases failed
  cases readStatement : statement (rules.expression levels) state with
  | ok read between =>
      rw [programTurn_of_ok ended readStatement] at failed
      cases failed
  | error reason between =>
      have tooDeep := eq_nestedTooDeeply_of_statement regular lexed readStatement
      rw [tooDeep] at readStatement
      rw [programTurn_of_tooDeep ended readStatement] at failed
      cases failed

/-- The loop over a program always ends with the statements that could be read. -/
theorem exists_program_eq_ok (levels : Nat) (statements : List Node) (state : State)
    (lexed : state.stream.Lexed) :
    ∃ read after, repeatTurns (programTurn (rules.expression levels)) statements state =
      .ok read after := by
  refine repeatTurns_induction (taking_programTurn (advances_expression rules levels))
    (fun _ state => state.stream.Lexed) (fun result => ∃ read after, result = .ok read after)
    ?again ?done ?failed lexed
  case again =>
    intro statements state following after lexed ran
    obtain ⟨-, read, between, readStatement, -, rfl⟩ := exists_statement_of_again ran
    have advances := advances_statement (advances_expression rules levels) state
    exact lexed_advance (lexed.of_suffix (advances.leads readStatement).upcoming_suffix)
  case done =>
    intro statements state read after _ _
    exact ⟨read, after, rfl⟩
  case failed =>
    intro statements state reason after lexed ran
    exact absurd ran (programTurn_ne_error regular lexed)

end Programs

end Parser

/-- A parse by the rules of the language returns, within every nesting limit. -/
theorem parseWith_eq (limit : Nat) (source : String) :
    ∃ statements state,
      Parser.program (Parser.Rules.standard.expression limit) (.start (.ofString source)) =
        .ok statements state ∧
      parseWith .standard limit source = ⟨statements, state.reports, none⟩ := by
  obtain ⟨statements, state, ran⟩ := Parser.exists_program_eq_ok
    Parser.Rules.regular_standard limit [] (.start (.ofString source))
    (TokenStream.lexed_ofString source)
  refine ⟨statements, state, ran, ?_⟩
  unfold parseWith
  change Parser.program _ _ = _ at ran
  rw [Parser.program_reader, ran]
  rfl

theorem abandoned_parse (source : String) : (parse source).abandoned = none := by
  obtain ⟨statements, state, -, isParse⟩ := parseWith_eq nestingLimit source
  exact congrArg Parsed.abandoned isParse

/-! ### The range of integer literals -/

/-- The integer tokens of a text have literals of at least one digit, and of digits only. -/
theorem isDigit_of_mem_tokenize {source : String} {token : Token} (listed : token ∈ tokenize source)
    (isInt : token.kind = .int) :
    token.literal ≠ "" ∧ ∀ char ∈ token.literal.toList, isDigitChar char = true := by
  rcases List.mem_append.mp listed with isAhead | isEnd
  · have spelled := TokenStream.lexed_ofString source token isAhead
    rw [isInt] at spelled
    refine ⟨fun isEmpty => spelled.ne_nil ?_, spelled.isDigit_of_int⟩
    rw [isEmpty]
    rfl
  · rw [List.mem_singleton.mp isEnd] at isInt
    cases isInt

/-- A token of decimal digits, however many, is read as the number they denote when that is at
most 2⁶³ - 1, and nothing is reported. Otherwise there is no node, and the only report names the
whole literal. The integer tokens of a text are such tokens, and no text abandons its parse. -/
theorem integer_range_exact :
    (∀ state : Parser.State,
      (∀ char ∈ state.stream.current.literal.toList, isDigitChar char = true) →
      let token := state.stream.current
      let number := Grammar.decimal token.literal.toList
      let refused := state.told (.integerOutOfRange token.literal)
      (number ≤ 2 ^ 63 - 1 → Parser.integer state = .ok (some (.integer token number)) state) ∧
        (2 ^ 63 - 1 < number → Parser.integer state = .ok none refused ∧
          refused.errors =
            state.errors ++ ["could not parse \"" ++ token.literal ++ "\" as integer"])) ∧
    ∀ source : String,
      (∀ token ∈ tokenize source, token.kind = .int →
        token.literal ≠ "" ∧ ∀ char ∈ token.literal.toList, isDigitChar char = true) ∧
      (parse source).abandoned = none := by
  constructor
  · intro state isDigit token number refused
    have isRead := Parser.integer_of_isDigit isDigit
    constructor
    · intro inRange
      exact isRead.trans (if_pos inRange)
    · intro beyond
      exact ⟨isRead.trans (if_neg (Nat.not_le_of_lt beyond)), Parser.errors_told _ state⟩
  · intro source
    exact ⟨fun _ listed isInt => isDigit_of_mem_tokenize listed isInt, abandoned_parse source⟩

/-- The least number that is out of range, behind some zeros. -/
theorem integer_range_exact_two_pow :
    let state : Parser.State := .start (.ofString "0009223372036854775808")
    let refused := state.told (.integerOutOfRange "0009223372036854775808")
    (∀ char ∈ state.stream.current.literal.toList, isDigitChar char = true) ∧
      Grammar.decimal state.stream.current.literal.toList = 2 ^ 63 ∧
      Parser.integer state = .ok none refused ∧
      refused.errors = ["could not parse \"0009223372036854775808\" as integer"] := by
  intro state refused
  have isDigit : ∀ char ∈ state.stream.current.literal.toList, isDigitChar char = true :=
    List.all_eq_true.mp (by decide +kernel)
  have number : Grammar.decimal state.stream.current.literal.toList = 2 ^ 63 := by decide +kernel
  have isLiteral : state.stream.current.literal = "0009223372036854775808" := by decide +kernel
  have beyond := (integer_range_exact.1 state isDigit).2 (by rw [number]; decide)
  rw [isLiteral] at beyond
  exact ⟨isDigit, number, beyond.1, beyond.2⟩

end MonkeySyntax
