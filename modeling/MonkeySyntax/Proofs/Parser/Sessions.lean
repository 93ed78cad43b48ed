import MonkeySyntax.Parser.Session
import MonkeySyntax.Proofs.Parser.Counting
import MonkeySyntax.Proofs.Token.Streaming

/-!
Contract: what holds of a driven parse between any two calls.

Owns:
- that every relation that no rule table can break holds of the calls, too;
- the step lemma: a call, however it ends, only takes tokens and adds reports, and leaves the
  depth of nesting at zero;
- the run lemma: after any calls the two tokens in view are neighbours among those of the
  text, they never move back, and no report is taken back.

Does not own: what the calls answer.
-/

set_option autoImplicit false

namespace MonkeySyntax

namespace Parser

/-! ### Positions -/

variable {allowed : Diagnostic → Prop} {start finish : State}

theorem State.Leads.depth_eq (leads : State.Leads allowed start finish) :
    finish.depth = start.depth := by
  induction leads with
  | refl => rfl
  | tail _ step inductionHypothesis =>
      cases step <;> exact inductionHypothesis

/-- How many of the tokens of a stream have been taken in a state. -/
def State.taken (stream : TokenStream) (state : State) : Nat :=
  stream.remaining - state.stream.remaining

theorem State.Leads.ahead_eq (leads : State.Leads allowed start finish) (index : Nat) :
    finish.stream.ahead index = start.stream.ahead (finish.taken start.stream + index) := by
  have dropped : finish.stream.upcoming = start.stream.upcoming.drop (finish.taken start.stream) :=
    List.suffix_iff_eq_drop.mp leads.upcoming_suffix
  unfold TokenStream.ahead
  rw [leads.endToken_eq, dropped, List.getD_eq_getElem?_getD, List.getD_eq_getElem?_getD,
    List.getElem?_drop]

theorem State.Leads.taken_le (leads : State.Leads allowed start finish) (stream : TokenStream) :
    start.taken stream ≤ finish.taken stream :=
  Nat.sub_le_sub_left leads.remaining_le stream.remaining

theorem State.Leads.errors_prefix (leads : State.Leads allowed start finish) :
    start.errors <+: finish.errors :=
  (List.reverse_prefix.mpr leads.log_suffix).map Report.message

/-! ### Calls -/

theorem Unrestricted.run {Rel : {α : Type} → ParseM α → ParseM α → State → Prop}
    {reader reader' : ExpressionReader} (unrestricted : Unrestricted Rel)
    (related : Related Rel reader reader')
    (advances : ∀ level state, Advances allowed (reader level) state)
    (rules : Rules) (call : Call) (state : State) :
    Rel (call.run rules reader) (call.run rules reader') state := by
  have compatible := unrestricted.toCompatible
  cases call with
  | currentIs kind =>
      exact compatible.bind (compatible.current state) fun _ _ _ => compatible.pure _ _
  | nextIs kind => exact compatible.bind (compatible.next state) fun _ _ _ => compatible.pure _ _
  | expectNext kind =>
      exact compatible.bind (compatible.expectNext kind state) fun _ _ _ => compatible.pure _ _
  | reportUnexpected kind =>
      refine compatible.bind ?_ fun _ _ _ => compatible.pure _ _
      exact compatible.bind (compatible.next state) fun _ after _ =>
        compatible.report after trivial
  | reportStart kind =>
      exact compatible.bind (compatible.report state trivial) fun _ _ _ => compatible.pure _ _
  | remark text =>
      exact compatible.bind (unrestricted.anyReport _ state) fun _ _ _ => compatible.pure _ _
  | expression level =>
      exact compatible.bind (related level state) fun _ _ _ => compatible.pure _ _
  | expressionHere level =>
      exact compatible.bind (unrestricted.expressionBy related advances rules level state)
        fun _ _ _ => compatible.pure _ _
  | opening rule =>
      exact compatible.bind (unrestricted.opening related advances rule state) fun _ _ _ =>
        compatible.pure _ _
  | continuation rule left =>
      exact compatible.bind (compatible.continuationRule related advances rule left state)
        fun _ _ _ => compatible.pure _ _
  | setOpening kind rule => exact compatible.pure _ state
  | setContinuation kind rule => exact compatible.pure _ state
  | removeOpening kind => exact compatible.pure _ state
  | removeContinuation kind => exact compatible.pure _ state

theorem perform_state (parser : Parser) (call : Call) :
    (parser.perform call).2.state =
      reached (call.run parser.rules (parser.rules.reader parser.limit) parser.state) := by
  unfold perform reached
  split
  · rename_i ran
    rw [ran]
  · rename_i failed
    rw [failed]

/-- At depth zero the depth of nesting can be left out of the work of a call. -/
theorem run_reader {parser : Parser} (atZero : parser.state.depth = 0) (call : Call) :
    call.run parser.rules (parser.rules.reader parser.limit) parser.state =
      call.run parser.rules (parser.rules.expression parser.limit) parser.state := by
  have advances := advances_expression parser.rules parser.limit
  have leads : Advances (fun _ => True)
      (call.run parser.rules (parser.rules.expression parser.limit)) parser.state :=
    unrestricted_advances.run (related_self advances) advances parser.rules call parser.state
  have counted : RunsAtDepth 0 (call.run parser.rules (parser.rules.expression parser.limit))
      (call.run parser.rules (parser.rules.reader parser.limit)) parser.state :=
    (unrestricted_runsAtDepth 0).run (runsAtDepth_reader parser.rules parser.limit) advances
      parser.rules call parser.state
  have isAtZero : parser.state.atDepth 0 = parser.state := by
    rw [← atZero]
    rfl
  unfold RunsAtDepth at counted
  rw [isAtZero] at counted
  rw [counted]
  exact resultAtDepth_of_eq (leads.depth_eq.trans atZero)

/-- A call at depth zero only takes tokens and adds reports, by any tables and however it
ends. -/
theorem leads_perform (parser : Parser) (call : Call) (atZero : parser.state.depth = 0) :
    State.Leads (fun _ => True) parser.state (parser.perform call).2.state := by
  have advances := advances_expression parser.rules parser.limit
  rw [perform_state, run_reader atZero]
  exact unrestricted_advances.run (related_self advances) advances parser.rules call parser.state

theorem performAll_append (parser : Parser) (calls others : List Call) :
    parser.performAll (calls ++ others) = (parser.performAll calls).performAll others :=
  List.foldl_append

theorem leads_performAll (parser : Parser) (calls : List Call) (atZero : parser.state.depth = 0) :
    State.Leads (fun _ => True) parser.state (parser.performAll calls).state := by
  induction calls generalizing parser with
  | nil => exact .refl
  | cons call calls inductionHypothesis =>
      have leads := leads_perform parser call atZero
      exact leads.trans (inductionHypothesis _ (leads.depth_eq.trans atZero))

/-- One call more leads on from the state after some of them. -/
theorem leads_take_succ (parser : Parser) (calls : List Call) (atZero : parser.state.depth = 0)
    (count : Nat) :
    State.Leads (fun _ => True) (parser.performAll (calls.take count)).state
      (parser.performAll (calls.take (count + 1))).state := by
  have leads := leads_performAll parser (calls.take count) atZero
  rw [List.take_add_one, performAll_append]
  exact leads_performAll _ _ (leads.depth_eq.trans atZero)

end Parser

/-- Between any calls of a parser, by any tables and however the calls end, the two tokens in
view are neighbours among the tokens of the text, which are those that a cursor gives one
after the other. Their place never moves back, no report is taken back, and the depth of
nesting is zero. -/
theorem performAll_window (source : String) (limit : Nat) (calls : List Parser.Call) :
    (∀ index, tokenAt source index = (Cursor.ofString source).pulled index) ∧
      ∃ position : Nat → Nat, ∀ count,
        let parser := (Parser.ofStream limit (.ofString source)).performAll (calls.take count)
        let later := (Parser.ofStream limit (.ofString source)).performAll (calls.take (count + 1))
        parser.state.stream.current = tokenAt source (position count) ∧
          parser.state.stream.next = tokenAt source (position count + 1) ∧
          position count ≤ position (count + 1) ∧
          parser.state.errors <+: later.state.errors ∧ parser.state.depth = 0 := by
  let start := Parser.ofStream limit (.ofString source)
  refine ⟨tokenAt_eq_pulled source,
    fun count => (start.performAll (calls.take count)).state.taken (.ofString source), ?_⟩
  intro count
  have leads := Parser.leads_performAll start (calls.take count) rfl
  have leadsOn := Parser.leads_take_succ start calls rfl count
  refine ⟨?_, ?_, leadsOn.taken_le _, leadsOn.errors_prefix, leads.depth_eq⟩
  · rw [tokenAt_eq_ahead, ← TokenStream.ahead_zero]
    exact leads.ahead_eq 0
  · rw [tokenAt_eq_ahead, ← TokenStream.current_advance, ← TokenStream.ahead_zero,
      ← TokenStream.ahead_succ]
    exact leads.ahead_eq 1

end MonkeySyntax
