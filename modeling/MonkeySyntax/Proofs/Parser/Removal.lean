import MonkeySyntax.Proofs.Parser.Completion
import MonkeySyntax.Proofs.Parser.Removal.Rules
import MonkeySyntax.Proofs.Parser.Sessions

/-!
Contract: a parse by rules of the language from which some were taken away.

Owns:
- that reading an expression and reading a program by such rules mirror the parse by all of
  them;
- the calls that take rules away from a new parser, and the table they leave.

Main statement: taking rules away never changes what a text means. What is still accepted keeps
its tree, and of what is not, the first report is about a rule that is gone.
-/

set_option autoImplicit false

namespace MonkeySyntax

namespace Parser

variable {rules : Rules} {state : State}

/-! ### Expressions -/

section Reading

variable {reader reader' : ExpressionReader} (reduced : rules.Reduced)
  (advances : ∀ level state, Advances (fun _ => True) (reader level) state)
  (advances' : ∀ level state, Advances (fun _ => True) (reader' level) state)
  (opens : ∀ {kind rule}, Rules.Opens kind rule → ∀ state,
    Mirrors rules (fun _ => State.Halts rules) state.log (rule.read reader state)
      (rule.read reader' state))
  (continues : ∀ (rule : ContinuationRule) left state,
    Mirrors rules (fun _ => State.Halts rules) state.log (rule.read reader left state)
      (rule.read reader' left state))
include reduced advances continues

theorem mirrors_continuationTurn (level : Precedence) (left : Option Node) (state : State) :
    Mirrors rules (fun _ => State.Halts rules) state.log
      (Rules.standard.continuationTurn reader level left state)
      (rules.continuationTurn reader' level left state) := by
  by_cases tighter : level < state.stream.next.kind.precedence
  · rcases reduced.continuation state.stream.next.kind with same | lost
    · cases found : Rules.standard.continuation state.stream.next.kind with
      | none =>
          rw [continuationTurn_of_none found, continuationTurn_of_none (same.trans found)]
          exact mirrors_pure _ state
      | some rule =>
          rw [continuationTurn_of_some tighter found,
            continuationTurn_of_some tighter (same.trans found)]
          exact (continues rule left state.advance).map
    · have advancesTurn : Advances (fun _ => True)
          (Rules.standard.continuationTurn reader level left) state :=
        (compatible_advances fun _ _ => trivial).continuationTurn (related_self advances) advances
          _ level left state
      have grows := State.Leads.log_suffix advancesTurn
      rw [continuationTurn_of_none lost.2]
      exact ⟨grows, List.suffix_refl _, .inr ⟨state.log, grows, .halted rfl lost⟩⟩
  · rw [continuationTurn_of_not_lt tighter, continuationTurn_of_not_lt tighter]
    exact mirrors_pure _ state

include advances' opens

theorem mirrors_expressionBy (level : Precedence) (state : State) :
    Mirrors rules (fun _ => State.Halts rules) state.log
      (Rules.standard.expressionBy reader level state)
      (rules.expressionBy reader' level state) := by
  -- In front of an operator that is gone, the loop ends at once.
  have ends : ∀ left (after : State), after.Halts rules →
      Departed rules (fun _ => State.Halts rules) after.log
        (rules.continuationTurn reader' level left after) := by
    intro left after halts
    rw [continuationTurn_of_none halts.2]
    exact .halted rfl halts
  have loop := mirrors_repeatTurns (taking_continuationTurn advances' rules level) ends
    (fun _ _ halts => halts) (taking_continuationTurn advances Rules.standard level)
    (mirrors_continuationTurn reduced advances continues level)
  unfold Rules.expressionBy
  refine mirrors_then (compatible_proceeds.current state) fun token after => ?_
  rcases reduced.opening token.kind with same | lost
  · rw [same]
    cases found : Rules.standard.opening token.kind with
    | none =>
        exact mirrors_then (compatible_proceeds.report after trivial) fun _ => mirrors_pure none
    | some rule =>
        refine (opens (Rules.opens_of_opening found) after).bind loop fun left after halts => ?_
        rw [repeatTurns_done (continuationTurn_of_none halts.2)]
        exact .halted rfl halts
  · rw [lost.2]
    cases found : Rules.standard.opening token.kind with
    | none => exact absurd found lost.1
    | some rule =>
        have grows := log_suffix_bind (opens (Rules.opens_of_opening found) after).grows
          fun left after _ => (loop left after).grows
        have blamed : rules.Blames (.startsNoExpression token.kind) := .inl lost
        exact ⟨grows, List.suffix_cons _ _, .inr ⟨after.log, grows, departed_told blamed rfl⟩⟩

end Reading

theorem departed_expression (reduced : rules.Reduced) (levels : Nat) (level : Precedence)
    (stuck : state.Stuck rules) :
    Departed rules (fun _ _ => False) state.log (rules.expression (levels + 1) level state) := by
  have blamed : rules.Blames (.startsNoExpression state.stream.current.kind) := .inr stuck
  unfold Rules.expression Rules.expressionBy
  rw [bind_of_ok (current_run state), reduced.opening_eq_none stuck]
  exact departed_told blamed rfl

theorem mirroring_of_mirrors (reduced : rules.Reduced) {levels : Nat}
    (mirrors : ∀ level state, Mirrors rules (fun _ => State.Halts rules) state.log
      (Rules.standard.expression (levels + 1) level state)
      (rules.expression (levels + 1) level state)) :
    Mirroring rules (Rules.standard.expression (levels + 1)) (rules.expression (levels + 1)) :=
  ⟨advances_expression _ _, advances_expression _ _, mirrors,
    fun _ stuck => departed_expression reduced levels .lowest stuck⟩

theorem mirrors_expression (reduced : rules.Reduced) (levels : Nat) (level : Precedence)
    (state : State) :
    Mirrors rules (fun _ => State.Halts rules) state.log
      (Rules.standard.expression levels level state) (rules.expression levels level state) := by
  induction levels generalizing level state with
  | zero => exact mirrors_of_advances (advances_expression rules 0 level state)
  | succ levels inductionHypothesis =>
      have advances := advances_expression Rules.standard levels
      refine mirrors_expressionBy reduced advances (advances_expression rules levels) ?opens
        ?continues level state
      -- With no level left, both readers abandon the parse before they look at a rule.
      case opens =>
        intro kind rule opens state
        cases levels with
        | zero =>
            exact mirrors_of_advances
              (unrestricted_advances.opening (related_self advances) advances rule state)
        | succ levels =>
            exact mirrors_opening reduced (mirroring_of_mirrors reduced inductionHypothesis) opens
              state
      case continues =>
        intro rule left state
        cases levels with
        | zero =>
            exact mirrors_of_advances
              (unrestricted_advances.continuationRule (related_self advances) advances rule left
                state)
        | succ levels =>
            exact mirrors_continuation reduced (mirroring_of_mirrors reduced inductionHypothesis)
              rule left state

/-! ### Programs -/

theorem Departed.unlessTooDeep {α : Type} {stopped : State → Prop} {log : List Report}
    {step : ParseM α} (departed : Departed rules (fun _ => stopped) log (step state)) :
    Departed rules (fun answer after => answer ≠ none ∧ stopped after) log
      (Parser.unlessTooDeep step state) := by
  have sameReached := reached_unlessTooDeep step state
  cases ran : step state with
  | error reason after =>
      rw [ran] at departed sameReached
      cases departed with
      | told blamed isFirst => exact .told blamed (sameReached ▸ isFirst)
  | ok answer after =>
      have kept : Parser.unlessTooDeep step state = .ok (some answer) after := by
        unfold Parser.unlessTooDeep
        rw [ran]
      rw [ran] at departed
      rw [kept]
      cases departed with
      | told blamed isFirst => exact .told blamed isFirst
      | halted isLog isStopped => exact .halted isLog ⟨nofun, isStopped⟩

theorem Mirrors.unlessTooDeep {α : Type} {stopped : State → Prop} {log : List Report}
    {step step' : ParseM α}
    (mirrors : Mirrors rules (fun _ => stopped) log (step state) (step' state)) :
    Mirrors rules (fun answer after => answer ≠ none ∧ stopped after) log
      (Parser.unlessTooDeep step state) (Parser.unlessTooDeep step' state) := by
  refine ⟨?_, ?_, ?_⟩
  · rw [reached_unlessTooDeep]
    exact mirrors.grows
  · rw [reached_unlessTooDeep]
    exact mirrors.grows'
  · rcases mirrors.agrees with same | ⟨earlier, isEarlier, departed⟩
    · left
      unfold Parser.unlessTooDeep
      rw [same]
    · right
      refine ⟨earlier, ?_, departed.unlessTooDeep⟩
      rw [reached_unlessTooDeep]
      exact isEarlier

section Programs

variable {reader reader' : ExpressionReader} (reduced : rules.Reduced)
  (mirroring : Mirroring rules reader reader')
include reduced mirroring

theorem mirrors_programTurn (read : List Node) (state : State) :
    Mirrors rules (Turn.Stuck rules) state.log (programTurn reader read state)
      (programTurn reader' read state) := by
  unfold programTurn
  refine mirrors_then (compatible_proceeds.current state) fun ahead after => ?_
  refine mirrors_ite (mirrors_pure _ after) ?_
  refine (mirrors_statement reduced mirroring after).unlessTooDeep.bind (fun answer after => ?_)
    fun answer after halts => ?_
  · cases answer with
    | none =>
        exact mirrors_then (unrestricted_advances.anyReport _ after) fun _ => mirrors_pure _
    | some read =>
        exact mirrors_then (compatible_proceeds.advance after) fun _ => mirrors_pure _
  · cases answer with
    | none => exact absurd rfl halts.1
    | some read => exact .halted rfl halts.2

theorem departed_programTurn {read : List Node} (stuck : state.Stuck rules) :
    Departed rules (Turn.Stuck rules) state.log (programTurn reader' read state) := by
  have unfinished : state.stream.current.kind ≠ .endOfInput := reduced.ne stuck (by decide)
  unfold programTurn
  rw [bind_of_ok (current_run state), if_neg unfinished]
  refine (departed_statement reduced mirroring stuck).unlessTooDeep.bind (fun answer after _ => ?_)
    fun _ _ stops => stops.2.elim
  cases answer with
  | none => exact List.suffix_cons _ _
  | some read => exact List.suffix_refl _

theorem mirrors_program (state : State) :
    Mirrors rules (fun _ _ => False) state.log (program reader state) (program reader' state) :=
  mirrors_repeatTurns (taking_programTurn mirroring.advances')
    (fun _ _ stuck => departed_programTurn reduced mirroring stuck) (fun _ _ => False.elim)
    (taking_programTurn mirroring.advances) (mirrors_programTurn reduced mirroring) [] state

end Programs

theorem mirrors_program_expression (reduced : rules.Reduced) (levels : Nat) (state : State) :
    Mirrors rules (fun _ _ => False) state.log
      (program (Rules.standard.expression levels) state)
      (program (rules.expression levels) state) := by
  cases levels with
  | zero =>
      have advances := advances_expression Rules.standard 0
      exact mirrors_of_advances
        (unrestricted_advances.program (related_self advances) advances state)
  | succ levels =>
      exact mirrors_program reduced
        (mirroring_of_mirrors reduced (mirrors_expression reduced (levels + 1))) state

/-! ### Taking rules away -/

/-- A place in a table. -/
inductive Entry where
  | opening (kind : TokenKind)
  | continuation (kind : TokenKind)
deriving DecidableEq, Repr

namespace Entry

/-- The kind of token that leads to the rule. -/
def kind : Entry → TokenKind
  | opening kind => kind
  | continuation kind => kind

/-- Whether the language has a rule there. -/
def IsStandard : Entry → Prop
  | opening kind => Rules.standard.opening kind ≠ none
  | continuation kind => Rules.standard.continuation kind ≠ none

/-- The call that takes the rule away. -/
def removal : Entry → Call
  | opening kind => .removeOpening kind
  | continuation kind => .removeContinuation kind

end Entry

/-- A table without the rules at some places. -/
def Rules.without (rules : Rules) (removed : List Entry) : Rules where
  opening kind := if .opening kind ∈ removed then none else rules.opening kind
  continuation kind := if .continuation kind ∈ removed then none else rules.continuation kind

theorem ite_mem_cons {α : Type} (entry asked : Entry) (removed : List Entry) (rule : Option α) :
    (if asked ∈ entry :: removed then none else rule) =
      if asked ∈ removed then none else if asked = entry then none else rule := by
  by_cases isEntry : asked = entry <;> simp [isEntry]

theorem Rules.without_cons (rules : Rules) (entry : Entry) (removed : List Entry) :
    rules.without (entry :: removed) = (entry.removal.rulesAfter rules).without removed := by
  unfold without
  simp only [ite_mem_cons]
  cases entry with
  | opening kind =>
      simp only [Entry.opening.injEq, reduceCtorEq, if_false]
      rfl
  | continuation kind =>
      simp only [Entry.continuation.injEq, reduceCtorEq, if_false]
      rfl

theorem performAll_removals (parser : Parser) (removed : List Entry) :
    parser.performAll (removed.map Entry.removal) =
      { parser with rules := parser.rules.without removed } := by
  induction removed generalizing parser with
  | nil => simp [performAll, Rules.without]
  | cons entry removed inductionHypothesis =>
      have performed : (parser.perform entry.removal).2 =
          { parser with rules := entry.removal.rulesAfter parser.rules } := by
        cases entry <;> rfl
      change performAll (parser.perform entry.removal).2 (removed.map Entry.removal) = _
      rw [inductionHypothesis, performed, Rules.without_cons]

theorem Rules.mem_of_losesOpening {removed : List Entry} {kind : TokenKind}
    (lost : (standard.without removed).LosesOpening kind) : .opening kind ∈ removed := by
  by_contra kept
  exact lost.1 ((if_neg kept).symm.trans lost.2)

theorem Rules.mem_of_losesContinuation {removed : List Entry} {kind : TokenKind}
    (lost : (standard.without removed).LosesContinuation kind) :
    .continuation kind ∈ removed := by
  by_contra kept
  exact lost.1 ((if_neg kept).symm.trans lost.2)

/-- Only two tokens of the language both start and continue expressions. -/
theorem Rules.reduced_without {removed : List Entry} (keepsMinus : .continuation .minus ∉ removed)
    (keepsCall : .continuation .leftParen ∉ removed) : (standard.without removed).Reduced where
  opening kind := by
    by_cases gone : Entry.opening kind ∈ removed
    · by_cases isNone : standard.opening kind = none
      · exact .inl (by simp [without, gone, isNone])
      · exact .inr ⟨isNone, if_pos gone⟩
    · exact .inl (if_neg gone)
  continuation kind := by
    by_cases gone : Entry.continuation kind ∈ removed
    · by_cases isNone : standard.continuation kind = none
      · exact .inl (by simp [without, gone, isNone])
      · exact .inr ⟨isNone, if_pos gone⟩
    · exact .inl (if_neg gone)
  startsNone kind lost := by
    have gone := mem_of_losesContinuation lost
    have all : ∀ kind ∈ TokenKind.all, standard.continuation kind ≠ none →
        kind = .minus ∨ kind = .leftParen ∨ standard.opening kind = none := by decide
    rcases all kind kind.mem_all lost.1 with rfl | rfl | isNone
    · exact absurd gone keepsMinus
    · exact absurd gone keepsCall
    · exact isNone

/-- What a table without some rules is to blame for is told with the kind of one of them. -/
theorem Rules.exists_entry_of_blames {removed : List Entry} {diagnostic : Diagnostic}
    (blamed : (standard.without removed).Blames diagnostic) :
    ∃ entry ∈ removed, entry.IsStandard ∧
      (diagnostic.message = "no prefix parse function for " ++ entry.kind.text ++ " found" ∨
        diagnostic.message =
          "expected next token to be ), got " ++ entry.kind.text ++ " instead") := by
  cases diagnostic with
  | startsNoExpression kind =>
      rcases blamed with lost | lost
      · exact ⟨.opening kind, mem_of_losesOpening lost, lost.1, .inl rfl⟩
      · exact ⟨.continuation kind, mem_of_losesContinuation lost, lost.1, .inl rfl⟩
  | unexpected required kind =>
      obtain ⟨rfl, lost⟩ := blamed
      exact ⟨.continuation kind, mem_of_losesContinuation lost, lost.1, .inr rfl⟩
  | _ => exact blamed.elim

/-- A run to its end that mirrors another one without reports is the same, or its first message is
about a rule that is gone. -/
theorem Mirrors.same_or_blamed {α : Type} {answer answer' : α} {after after' : State}
    (mirrors : Mirrors rules (fun _ _ => False) [] (.ok answer after) (.ok answer' after')) :
    answer' = answer ∧ after' = after ∨ ∃ diagnostic earlier, rules.Blames diagnostic ∧
      earlier <+: after.errors ∧ earlier ++ [diagnostic.message] <+: after'.errors := by
  rcases mirrors.agrees with same | ⟨earlier, isEarlier, departed⟩
  · cases same
    exact .inl ⟨rfl, rfl⟩
  · right
    cases departed with
    | halted isLog isStopped => exact isStopped.elim
    | @told _ report blamed isFirst =>
        refine ⟨report.diagnostic, earlier.reverse.map Report.message, blamed, ?_, ?_⟩
        · exact (List.reverse_prefix.mpr isEarlier).map Report.message
        · have isNext := (List.reverse_prefix.mpr isFirst).map Report.message
          rw [List.reverse_cons, List.map_append] at isNext
          exact isNext

theorem perform_program {limit : Nat} {stream : TokenStream} {statements : List Node}
    {after : State}
    (ran : program (rules.expression limit) (.start stream) = .ok statements after) :
    (⟨rules, limit, .start stream⟩ : Parser).perform (.opening .program) =
      (.ok (.node (some (.program statements))), ⟨rules, limit, after⟩) := by
  have runs : Call.run rules (rules.expression limit) (.opening .program) (.start stream) =
      .ok (.node (some (.program statements))) after :=
    bind_of_ok ((bind_of_ok ran).trans rfl)
  unfold perform
  rw [run_reader rfl, runs]
  rfl

end Parser

/-- Taking rules away from a new parser never makes it read a program in another way, as long as
no token is left with the other one of two rules. What it still accepts, the whole language
accepts with the same tree, tokens and places included. For a program of the language that it no
longer accepts, its first message names the kind of a rule that is gone. -/
theorem perform_program_without (limit : Nat) (source : String) (removed : List Parser.Entry)
    (keepsMinus : .continuation .minus ∉ removed)
    (keepsCall : .continuation .leftParen ∉ removed) :
    let start := Parser.ofStream limit (.ofString source)
    ∃ tree after tree' after',
      start.perform (.opening .program) = (.ok (.node (some tree)), after) ∧
        (start.performAll (removed.map Parser.Entry.removal)).perform (.opening .program) =
          (.ok (.node (some tree')), after') ∧
        (after'.state.errors = [] → after.state.errors = [] ∧ tree' = tree) ∧
        (after.state.errors = [] → ∀ first others, after'.state.errors = first :: others →
          ∃ entry ∈ removed, entry.IsStandard ∧
            (first = "no prefix parse function for " ++ entry.kind.text ++ " found" ∨
              first = "expected next token to be ), got " ++ entry.kind.text ++ " instead")) := by
  intro start
  have reduced := Parser.Rules.reduced_without keepsMinus keepsCall
  have lexed := TokenStream.lexed_ofString source
  obtain ⟨read, after, ran⟩ := Parser.exists_program_eq_ok Parser.Rules.regular_standard limit []
    (.start (.ofString source)) lexed
  obtain ⟨read', after', ran'⟩ := Parser.exists_program_eq_ok reduced.regular limit []
    (.start (.ofString source)) lexed
  have mirrors := Parser.mirrors_program_expression reduced limit (.start (.ofString source))
  unfold Parser.program at mirrors
  rw [ran, ran'] at mirrors
  refine ⟨.program read, ⟨.standard, limit, after⟩, .program read',
    ⟨Parser.Rules.standard.without removed, limit, after'⟩, Parser.perform_program ran, ?_, ?_, ?_⟩
  · rw [Parser.performAll_removals]
    exact Parser.perform_program ran'
  · intro silent
    rcases mirrors.same_or_blamed with ⟨rfl, rfl⟩ | ⟨diagnostic, earlier, -, -, isNext⟩
    · exact ⟨silent, rfl⟩
    · rw [silent] at isNext
      exact absurd (List.prefix_nil.mp isNext) (by simp)
  · intro silent first others reported
    rcases mirrors.same_or_blamed with ⟨rfl, rfl⟩ | ⟨diagnostic, earlier, blamed, isEarlier, isNext⟩
    · rw [silent] at reported
      cases reported
    · rw [silent] at isEarlier
      rw [List.prefix_nil.mp isEarlier, reported] at isNext
      obtain ⟨rfl, -⟩ := List.cons_prefix_cons.mp isNext
      exact Parser.Rules.exists_entry_of_blames blamed

/-- A program with a group and a call, read without quotients and negations, of which it has none,
and without products and integers, of which it has both. -/
theorem perform_program_without_product :
    let unused : List Parser.Entry := [.continuation .slash, .opening .bang]
    let removed : List Parser.Entry := [.continuation .asterisk, .opening .int]
    let source := "let x = (a + b) * f(-2, c); x"
    let start := Parser.ofStream nestingLimit (.ofString source)
    let whole := start.perform (.opening .program)
    let same := (start.performAll (unused.map Parser.Entry.removal)).perform (.opening .program)
    let reduced :=
      (start.performAll (removed.map Parser.Entry.removal)).perform (.opening .program)
    (.continuation .minus ∉ unused ∧ .continuation .leftParen ∉ unused ∧
        .continuation .minus ∉ removed ∧ .continuation .leftParen ∉ removed) ∧
      (same.2.state.errors = [] ∧ whole.2.state.errors = [] ∧
        ∃ tree, same.1 = .ok (.node (some tree)) ∧ whole.1 = .ok (.node (some tree))) ∧
      reduced.2.state.errors =
        ["no prefix parse function for * found", "no prefix parse function for INT found"] ∧
      ∃ entry ∈ removed, entry.IsStandard ∧
        ("no prefix parse function for * found" =
            "no prefix parse function for " ++ entry.kind.text ++ " found" ∨
          "no prefix parse function for * found" =
            "expected next token to be ), got " ++ entry.kind.text ++ " instead") := by
  intro unused removed source start whole same reduced
  have keeps : .continuation .minus ∉ unused ∧ .continuation .leftParen ∉ unused ∧
      .continuation .minus ∉ removed ∧ .continuation .leftParen ∉ removed := by decide
  have sameSilent : same.2.state.errors = [] := by decide +kernel
  have reported : reduced.2.state.errors =
      ["no prefix parse function for * found", "no prefix parse function for INT found"] := by
    decide +kernel
  obtain ⟨_, after, tree, after', isWhole, isSame, stays, -⟩ :=
    perform_program_without nestingLimit source unused keeps.1 keeps.2.1
  have isAfter : whole.2 = after := congrArg Prod.snd isWhole
  have isAfterSame : same.2 = after' := congrArg Prod.snd isSame
  obtain ⟨silent, rfl⟩ := stays (isAfterSame ▸ sameSilent)
  rw [← isAfter] at silent
  obtain ⟨_, first, _, second, isFirst, isSecond, -, blames⟩ :=
    perform_program_without nestingLimit source removed keeps.2.2.1 keeps.2.2.2
  have isAfterWhole : whole.2 = first := congrArg Prod.snd isFirst
  have isAfterReduced : reduced.2 = second := congrArg Prod.snd isSecond
  exact ⟨keeps, ⟨sameSilent, silent, tree, congrArg Prod.fst isSame, congrArg Prod.fst isWhole⟩,
    reported, blames (isAfterWhole ▸ silent) _ _ (isAfterReduced ▸ reported)⟩

/-- An operator that is gone is reported where the group around it should end. -/
example :
    let start := Parser.ofStream nestingLimit (.ofString "(a + b)")
    let reduced := start.performAll [.removeContinuation .plus]
    (reduced.perform (.opening .program)).2.state.errors.head? =
      some "expected next token to be ), got + instead" := by
  decide +kernel

end MonkeySyntax
