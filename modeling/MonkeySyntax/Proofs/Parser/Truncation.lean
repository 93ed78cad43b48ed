import MonkeySyntax.Proofs.Parser.Completion

/-!
Contract: the nesting limit of a parse only truncates it.

Owns:
- the relation between a run within some levels of nesting and the run within more
  of them, which agree until the first one is abandoned;
- the comparison of two parses of one text within different limits.

Main statement: a parse that does not report that an expression is nested too deeply
is the parse within every greater limit, and one that does is cut off there.
-/

set_option autoImplicit false

namespace MonkeySyntax

/-! ### Messages -/

theorem Diagnostic.append_ne {beginning text : String}
    (notPrefix : ¬ beginning.toList <+: text.toList) (others : String) :
    beginning ++ others ≠ text := by
  intro same
  rw [← same, String.toList_append] at notPrefix
  exact notPrefix (List.prefix_append _ _)

theorem Diagnostic.unexpectedMessage_ne (required found : TokenKind) :
    unexpectedMessage required found ≠ "expression nested too deeply" := by
  unfold unexpectedMessage
  simp only [String.append_assoc]
  exact append_ne (by decide +kernel) _

/-- No ordinary cause has the message of the nesting limit. -/
theorem Diagnostic.Ordinary.message_ne {diagnostic : Diagnostic}
    (isOrdinary : diagnostic.Ordinary) :
    diagnostic.message ≠ "expression nested too deeply" := by
  cases diagnostic with
  | unexpected required found => exact unexpectedMessage_ne required found
  | unclosedBlock => exact unexpectedMessage_ne _ _
  | startsNoExpression kind =>
      change "no prefix parse function for " ++ kind.text ++ " found" ≠ _
      rw [String.append_assoc]
      exact append_ne (by decide +kernel) _
  | integerOutOfRange literal =>
      change "could not parse \"" ++ literal ++ "\" as integer" ≠ _
      rw [String.append_assoc]
      exact append_ne (by decide +kernel) _
  | nestedTooDeeply => exact absurd isOrdinary id
  | remark text => exact absurd isOrdinary id
namespace Parser

variable {α β : Type} {state start after : State}

/-! ### Runs within more levels -/

/-- A run that is not abandoned for its nesting is repeated by the other one, and where
it is, the other one goes on. -/
def Truncates (step step' : ParseM α) (state : State) : Prop :=
  match step state with
  | .ok answer after => step' state = .ok answer after
  | .error .nestedTooDeeply after =>
      State.Leads Diagnostic.Ordinary after (reached (step' state))
  | .error reason after => step' state = .error reason after

theorem Truncates.of_eq {step step' : ParseM α} (same : step' state = step state) :
    Truncates step step' state := by
  unfold Truncates
  rw [same]
  split
  · rename_i ran
    exact ran
  · rename_i ran
    rw [ran]
    exact .refl
  · rename_i ran
    exact ran

theorem Truncates.bind {step step' : ParseM α} {following following' : α → ParseM β}
    (truncates : Truncates step step' state)
    (followingTruncates : ∀ answer after, step state = .ok answer after →
      Truncates (following answer) (following' answer) after)
    (proceeds : ∀ answer after, step' state = .ok answer after →
      Proceeds (following' answer) after) :
    Truncates (step >>= following) (step' >>= following') state := by
  unfold Truncates at truncates
  cases ran : step state with
  | ok answer after =>
      rw [ran] at truncates
      have next := followingTruncates answer after ran
      unfold Truncates at next ⊢
      rw [bind_of_ok ran, bind_of_ok truncates]
      exact next
  | error reason after =>
      rw [ran] at truncates
      unfold Truncates
      rw [bind_of_error ran]
      cases reason with
      | nestedTooDeeply =>
          change State.Leads Diagnostic.Ordinary after (reached (step' state)) at truncates
          cases ran' : step' state with
          | ok answer' after' =>
              rw [ran'] at truncates
              rw [bind_of_ok ran']
              exact truncates.trans (proceeds answer' after' ran')
          | error reason' after' =>
              rw [ran'] at truncates
              rw [bind_of_error ran']
              exact truncates
      | notANumeral => exact bind_of_error truncates
      | stalled => exact bind_of_error truncates

/-- The relation that the rules keep: the run within more levels also only takes
tokens and adds reports, wherever the one within fewer levels is abandoned. -/
def Prolongs {α : Type} (step step' : ParseM α) (state : State) : Prop :=
  Truncates step step' state ∧ Proceeds step' state

theorem Prolongs.bind {step step' : ParseM α} {following following' : α → ParseM β}
    (prolongs : Prolongs step step' state)
    (followingProlongs : ∀ answer after,
      step state = .ok answer after ∨ step' state = .ok answer after →
        Prolongs (following answer) (following' answer) after) :
    Prolongs (step >>= following) (step' >>= following') state := by
  constructor
  · exact prolongs.1.bind (fun answer after ran => (followingProlongs answer after (Or.inl ran)).1)
      fun answer after ran => (followingProlongs answer after (Or.inr ran)).2
  · exact prolongs.2.bind fun answer after ran =>
      (followingProlongs answer after (Or.inr ran)).2

theorem prolongs_turns {turn turn' : β → ParseM (Turn β α)}
    (prolongs : ∀ carried state, Prolongs (turn carried) (turn' carried) state)
    (bound : Nat) (carried : β) (state : State) :
    Prolongs (turns turn bound carried) (turns turn' bound carried) state := by
  induction bound generalizing carried state with
  | zero => exact ⟨.of_eq rfl, .refl⟩
  | succ bound inductionHypothesis =>
      refine (prolongs carried state).bind fun decided after _ => ?_
      cases decided with
      | again following => exact inductionHypothesis following after
      | done result => exact ⟨.of_eq rfl, .refl⟩

theorem compatible_prolongs : Compatible fun step step' state => Prolongs step step' state where
  pure _ _ := ⟨.of_eq rfl, .refl⟩
  current _ := ⟨.of_eq rfl, .refl⟩
  next _ := ⟨.of_eq rfl, .refl⟩
  advance state := ⟨.of_eq rfl, compatible_proceeds.advance state⟩
  report state isOrdinary := ⟨.of_eq rfl, compatible_proceeds.report state isOrdinary⟩
  integer state isInt := ⟨.of_eq rfl, compatible_proceeds.integer state isInt⟩
  bind := Prolongs.bind
  repeatTurns carried state _ prolongs := prolongs_turns prolongs _ carried state

theorem prolongs_expression {lower upper : Nat} (atMost : lower ≤ upper) (level : Precedence)
    (state : State) :
    Prolongs (Rules.standard.expression lower level) (Rules.standard.expression upper level)
      state := by
  induction lower generalizing upper level state with
  | zero => exact ⟨proceeds_expression upper level state, proceeds_expression upper level state⟩
  | succ lower inductionHypothesis =>
      obtain ⟨upper, rfl⟩ : ∃ fewer, upper = fewer + 1 := ⟨upper - 1, by omega⟩
      exact compatible_prolongs.expressionBy (inductionHypothesis (Nat.le_of_succ_le_succ atMost))
        (proceeds_expression lower) Rules.regular_standard level state

/-! ### Programs -/

section Programs

variable {levels lower upper : Nat} {read result result' : List Node} {after' : State}

/-- How a program read within some levels compares with what was read of the same
tokens within more of them: it is that, or it was cut off in front of a statement. -/
inductive Cut (start : State) (full : List Node) (fullAfter : State) :
    List Node → State → Prop where
  | nowhere (leads : State.Leads Diagnostic.Ordinary start fullAfter) :
      Cut start full fullAfter full fullAfter
  | before {read : List Node} {between : State}
      (leads : State.Leads Diagnostic.Ordinary start between)
      (logged : between.log <:+ fullAfter.log) (isPrefix : read <+: full) :
      Cut start full fullAfter read (between.told .nestedTooDeeply)

/-- What the run within more levels does with a statement at which the other one is
cut off. -/
theorem prefix_of_truncated {between : State}
    (unfinished : state.stream.current.kind ≠ .endOfInput)
    (leads : State.Leads Diagnostic.Ordinary between
      (reached (statement (Rules.standard.expression upper) state)))
    (ran : repeatTurns (programTurn (Rules.standard.expression upper)) read state =
      .ok result after) :
    between.log <:+ after.log ∧ read.reverse <+: result := by
  have logged := leads.log_suffix
  cases readStatement : statement (Rules.standard.expression upper) state with
  | ok node behind =>
      rw [readStatement] at logged
      rw [repeatTurns_again (taking_programTurn (proceeds_expression upper))
        (programTurn_of_ok unfinished readStatement)] at ran
      obtain ⟨isPrefix, moreLogged⟩ := prefix_of_program ran
      rw [List.reverse_append] at isPrefix
      exact ⟨logged.trans moreLogged, (List.prefix_append _ _).trans isPrefix⟩
  | error reason behind =>
      rw [readStatement] at logged
      by_cases tooDeep : reason = .nestedTooDeeply
      · rw [tooDeep] at readStatement
        rw [repeatTurns_done (programTurn_of_tooDeep unfinished readStatement)] at ran
        cases ran
        exact ⟨logged.trans (List.suffix_cons _ _), List.prefix_refl _⟩
      · rw [repeatTurns_error (programTurn_of_error unfinished tooDeep readStatement)] at ran
        cases ran

theorem prolongs_statement (atMost : lower ≤ upper) (state : State) :
    Prolongs (statement (Rules.standard.expression lower))
      (statement (Rules.standard.expression upper)) state :=
  compatible_prolongs.statement (prolongs_expression atMost) state

/-- Two parses of the same tokens within different limits compare in this way. -/
theorem cut_of_program (atMost : lower ≤ upper)
    (ran : program (Rules.standard.expression lower) start = .ok result after)
    (ran' : program (Rules.standard.expression upper) start = .ok result' after') :
    Cut start result' after' result after := by
  apply repeatTurns_ok_induction (taking_programTurn (proceeds_expression lower))
    (fun carried state => State.Leads Diagnostic.Ordinary start state ∧
      repeatTurns (programTurn (Rules.standard.expression upper)) carried state =
        .ok result' after')
    (Cut start result' after') ?again ?done ⟨.refl, ran'⟩ ran
  case again =>
    intro carried state following after holds turned
    obtain ⟨unfinished, node, between, readStatement, rfl, rfl⟩ :=
      exists_statement_of_again turned
    have leads := (proceeds_statement lower state).leads readStatement
    have alsoRead := (prolongs_statement atMost state).1
    unfold Truncates at alsoRead
    rw [readStatement] at alsoRead
    constructor
    · exact (holds.1.trans leads).tail (.advance between)
    · rw [← holds.2, repeatTurns_again (taking_programTurn (proceeds_expression upper))
        (programTurn_of_ok unfinished alsoRead)]
  case done =>
    intro carried state read after holds turned
    obtain ⟨rfl, ⟨ended, rfl⟩ | ⟨unfinished, between, tooDeep, rfl⟩⟩ :=
      ended_or_tooDeep_of_done turned
    · have whole := holds.2
      rw [repeatTurns_done (programTurn_of_ended ended)] at whole
      cases whole
      exact .nowhere holds.1
    · have leads := (proceeds_statement lower state).leads_error tooDeep
      have truncated := (prolongs_statement atMost state).1
      unfold Truncates at truncated
      rw [tooDeep] at truncated
      obtain ⟨logged, isPrefix⟩ := prefix_of_truncated unfinished truncated holds.2
      exact .before (holds.1.trans leads) logged isPrefix

end Programs

/-! ### Messages of a parse -/

theorem errors_prefix {earlier later : State} (logged : earlier.log <:+ later.log) :
    earlier.errors <+: later.errors :=
  (List.reverse_prefix.mpr logged).map Report.message

theorem not_mem_errors {stream : TokenStream}
    (leads : State.Leads Diagnostic.Ordinary (.start stream) state) :
    "expression nested too deeply" ∉ state.errors := by
  intro listed
  obtain ⟨added, logged, ordinary⟩ := leads.exists_log_eq
  obtain ⟨report, reported, same⟩ := List.mem_map.mp listed
  have isAdded : report ∈ added := by
    have inLog := List.mem_reverse.mp reported
    rw [logged] at inLog
    exact (List.mem_append.mp inLog).elim id fun absent => absurd absent List.not_mem_nil
  exact (ordinary report isAdded).message_ne same

end Parser

/-- Within a greater limit a parse is the same when the limit was not exceeded.
Otherwise it was cut off: the report of that comes last, after reports and statements
with which the longer parse starts too. -/
theorem parseWith_of_le {lower upper : Nat} (atMost : lower ≤ upper) (source : String) :
    (parseWith .standard lower source).abandoned = none ∧
      (parseWith .standard upper source).abandoned = none ∧
      ("expression nested too deeply" ∉ (parseWith .standard lower source).errors →
        parseWith .standard upper source = parseWith .standard lower source) ∧
      ("expression nested too deeply" ∈ (parseWith .standard lower source).errors → ∃ earlier,
        (parseWith .standard lower source).errors =
            earlier ++ ["expression nested too deeply"] ∧
          "expression nested too deeply" ∉ earlier ∧
          earlier <+: (parseWith .standard upper source).errors ∧
          (parseWith .standard lower source).statements <+:
            (parseWith .standard upper source).statements) := by
  obtain ⟨read, state, ran, isCut⟩ := parseWith_eq lower source
  obtain ⟨read', state', ran', isFull⟩ := parseWith_eq upper source
  rw [isCut, isFull]
  refine ⟨rfl, rfl, ?_⟩
  change ("expression nested too deeply" ∉ state.errors → _) ∧
    ("expression nested too deeply" ∈ state.errors → ∃ earlier, state.errors = _ ∧ _ ∧
      earlier <+: state'.errors ∧ read <+: read')
  cases Parser.cut_of_program atMost ran ran' with
  | nowhere leads =>
      constructor
      · intro _
        rfl
      · intro listed
        exact absurd listed (Parser.not_mem_errors leads)
  | @before _ between leads logged isPrefix =>
      rw [Parser.errors_told]
      constructor
      · intro absent
        exact absurd (List.mem_append_right _ List.mem_cons_self) absent
      · intro _
        exact ⟨between.errors, rfl, Parser.not_mem_errors leads, Parser.errors_prefix logged,
          isPrefix⟩

/-- Within one level the group in the second statement is cut off, and within two it
is not. -/
theorem parseWith_group_of_le :
    (parseWith .standard 1 "a; (b) )").errors = ["expression nested too deeply"] ∧
      ∃ earlier, (parseWith .standard 1 "a; (b) )").errors =
          earlier ++ ["expression nested too deeply"] ∧
        "expression nested too deeply" ∉ earlier ∧
        earlier <+: (parseWith .standard 2 "a; (b) )").errors ∧
        (parseWith .standard 1 "a; (b) )").statements <+:
          (parseWith .standard 2 "a; (b) )").statements := by
  have cut : (parseWith .standard 1 "a; (b) )").errors = ["expression nested too deeply"] := by
    decide +kernel
  have isCut : "expression nested too deeply" ∈ (parseWith .standard 1 "a; (b) )").errors := by
    rw [cut]
    exact List.mem_cons_self
  exact ⟨cut, (parseWith_of_le (by decide : 1 ≤ 2) "a; (b) )").2.2.2 isCut⟩

end MonkeySyntax
