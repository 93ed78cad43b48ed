import MonkeySyntax.Proofs.Parser.Congruence

/-!
Contract: relations between runs that are kept whatever the rule tables are.

Owns:
- what a relation must have beyond the standard rules, for a table may lead from any token
  to any rule, and from within an expression to the loop over a program;
- that it then passes from two readers of expressions to every opening rule, and to the
  reading of an expression by any tables;
- that every run, by any tables, only takes tokens and adds reports.
-/

set_option autoImplicit false

namespace MonkeySyntax

namespace Parser

/-- A relation between two runs that no rule table can break. -/
structure Unrestricted (Rel : {α : Type} → ParseM α → ParseM α → State → Prop) : Prop
    extends Compatible Rel where
  anyInteger : ∀ state, Rel Parser.integer Parser.integer state
  anyReport : ∀ diagnostic state, Rel (Parser.report diagnostic) (Parser.report diagnostic) state
  unlessTooDeep : ∀ {α : Type} {step step' : ParseM α} {state : State}, Rel step step' state →
    Rel (Parser.unlessTooDeep step) (Parser.unlessTooDeep step') state

namespace Unrestricted

variable {Rel : {α : Type} → ParseM α → ParseM α → State → Prop}
  {reader reader' : ExpressionReader} (unrestricted : Unrestricted Rel)
  (related : Related Rel reader reader') {allowed : Diagnostic → Prop}
  (advances : ∀ level state, Advances allowed (reader level) state)
include unrestricted related advances

theorem program (state : State) : Rel (Parser.program reader) (Parser.program reader') state := by
  refine unrestricted.repeatTurns [] state (taking_programTurn advances) fun read state => ?_
  apply unrestricted.bind (unrestricted.current state)
  intro ahead after _
  refine Compatible.ite (fun _ => unrestricted.pure _ _) fun _ => ?_
  have relatedStatement := unrestricted.toCompatible.statement related after
  refine unrestricted.bind (unrestricted.unlessTooDeep relatedStatement) fun answer after _ => ?_
  cases answer with
  | none =>
      exact unrestricted.bind (unrestricted.anyReport _ after) fun _ _ _ => unrestricted.pure _ _
  | some read =>
      exact unrestricted.bind (unrestricted.advance after) fun _ _ _ => unrestricted.pure _ _

theorem opening (rule : OpeningRule) (state : State) :
    Rel (rule.read reader) (rule.read reader') state := by
  have compatible := unrestricted.toCompatible
  cases rule with
  | identifier =>
      exact compatible.bind (compatible.identifier state) fun _ _ _ => compatible.pure _ _
  | integer => exact unrestricted.anyInteger state
  | boolean => exact compatible.bind (compatible.boolean state) fun _ _ _ => compatible.pure _ _
  | unary => exact compatible.unary related state
  | group => exact compatible.group related state
  | conditional => exact compatible.conditional related advances state
  | function => exact compatible.function related advances state
  | parameters =>
      exact compatible.bind (compatible.parameters state) fun _ _ _ => compatible.pure _ _
  | arguments =>
      exact compatible.bind (compatible.arguments related advances state) fun _ _ _ =>
        compatible.pure _ _
  | block => exact compatible.block related advances state
  | letStatement => exact compatible.letStatement related state
  | returnStatement => exact compatible.returnStatement related state
  | expressionStatement => exact compatible.expressionStatement related state
  | statement => exact compatible.statement related state
  | program =>
      exact compatible.bind (unrestricted.program related advances state) fun _ _ _ =>
        compatible.pure _ _
  | skip => exact compatible.bind (compatible.advance state) fun _ _ _ => compatible.pure _ _
  | currentLevel =>
      exact compatible.bind (compatible.current state) fun _ _ _ => compatible.pure _ _
  | nextLevel => exact compatible.bind (compatible.next state) fun _ _ _ => compatible.pure _ _

theorem expressionBy (rules : Rules) (level : Precedence) (state : State) :
    Rel (rules.expressionBy reader level) (rules.expressionBy reader' level) state := by
  have compatible := unrestricted.toCompatible
  apply compatible.bind (compatible.current state)
  intro token after _
  cases rules.opening token.kind with
  | none =>
      exact compatible.bind (compatible.report after trivial) fun _ _ _ => compatible.pure _ _
  | some rule =>
      exact compatible.bind (unrestricted.opening related advances rule after) fun left after _ =>
        compatible.continuations related advances rules level left after

end Unrestricted

/-! ### Taking tokens and adding reports -/

theorem unrestricted_advances :
    Unrestricted fun step _ state => Advances (fun _ => True) step state where
  toCompatible := compatible_advances fun _ _ => trivial
  anyInteger := advances_integer fun _ _ => trivial
  anyReport _ state := .single (.told state trivial)
  unlessTooDeep advances := by
    unfold Advances
    rw [reached_unlessTooDeep]
    exact advances

/-- By any tables, reading an expression only takes tokens and adds reports. -/
theorem advances_expression (rules : Rules) (levels : Nat) (level : Precedence) (state : State) :
    Advances (fun _ => True) (rules.expression levels level) state := by
  induction levels generalizing level state with
  | zero => exact .refl
  | succ levels inductionHypothesis =>
      exact unrestricted_advances.expressionBy (related_self inductionHypothesis)
        inductionHypothesis rules level state

end Parser

end MonkeySyntax
