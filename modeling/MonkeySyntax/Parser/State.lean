import MonkeySyntax.Diagnostic
import MonkeySyntax.Precedence
import MonkeySyntax.Token.Stream
import MonkeySyntax.Tree.Node

/-!
Contract: what a parse rule can see and do.

Owns:
- the state of a parse: the tokens still to be taken, the reports so far and the depth of
  nesting;
- the ways in which a parse can be abandoned;
- the single steps on the state, the step to a deeper level, and the loop that every
  repeating rule uses.

Does not own: the rules.
-/

set_option autoImplicit false

namespace MonkeySyntax

/-- Why a parse was abandoned before its rule had an answer. -/
inductive Abort where
  /-- An expression exceeds the nesting limit. -/
  | nestedTooDeeply
  /-- The text of an integer literal is no numeral. -/
  | notANumeral
  /-- A repeating rule took more turns than there were tokens. -/
  | stalled
deriving DecidableEq, Repr

/-- The wording of a reason. -/
def Abort.message : Abort → String
  | .nestedTooDeeply => "nested too deeply"
  | .notANumeral => "not a numeral"
  | .stalled => "stalled"

namespace Parser

/-- The state of a parse. The reports are kept with the latest one first, and the depth
counts the expressions that are being read inside each other. -/
structure State where
  stream : TokenStream
  log : List Report
  depth : Nat
deriving DecidableEq, Repr

/-- The state before the first token of a stream. -/
def State.start (stream : TokenStream) : State := ⟨stream, [], 0⟩

/-- The reports in the order in which they were made. -/
def State.reports (state : State) : List Report := state.log.reverse

/-- The messages in the order in which they were reported. -/
def State.errors (state : State) : List String := state.reports.map Report.message

/-- A step of a parse. An abandoned step keeps the state in which it stopped. -/
abbrev ParseM := EStateM Abort State

/-- How the expressions inside a construct are read: up to an operator that binds
no tighter than the given level. There is no node when a part was missing. -/
abbrev ExpressionReader := Precedence → ParseM (Option Node)

/-! ### Single steps -/

/-- The token under examination. -/
def current : ParseM Token := fun state => .ok state.stream.current state

/-- The token behind the current one. -/
def next : ParseM Token := fun state => .ok state.stream.next state

/-- Takes the current token. -/
def advance : ParseM Unit := fun state =>
  .ok () { state with stream := state.stream.advance }

/-- Reports a cause, with the tokens in view. -/
def report (diagnostic : Diagnostic) : ParseM Unit := fun state =>
  .ok () { state with
    log := ⟨diagnostic, state.stream.current, state.stream.next⟩ :: state.log }

/-- Abandons the parse. -/
def abandon {α : Type} (reason : Abort) : ParseM α := fun state => .error reason state

/-- Reports that a token of some kind was required instead of the next one. -/
def reportUnexpected (required : TokenKind) : ParseM Unit := do
  let ahead ← next
  report (.unexpected required ahead.kind)

/-- Takes the current token when the next one is of a kind, and reports it
otherwise. -/
def expectNext (kind : TokenKind) : ParseM Bool := do
  let ahead ← next
  if ahead.kind = kind then
    advance
    return true
  else
    reportUnexpected kind
    return false

/-- Takes the current token when the next one is of a kind. -/
def advanceTo (kind : TokenKind) : ParseM Unit := do
  let ahead ← next
  if ahead.kind = kind then advance

/-! ### Repetition and recovery -/

/-- What a turn of a loop decides: to go on, or to end with a result. -/
inductive Turn (β α : Type) where
  | again (carried : β)
  | done (result : α)

/-- A loop of at most so many turns. -/
def turns {β α : Type} (turn : β → ParseM (Turn β α)) : Nat → β → ParseM α
  | 0, _ => abandon .stalled
  | bound + 1, carried => do
      match ← turn carried with
      | .again following => turns turn bound following
      | .done result => return result

/-- A loop whose turns each take a token or end it, so that one turn more than
there are tokens is enough. -/
def repeatTurns {β α : Type} (turn : β → ParseM (Turn β α)) (start : β) : ParseM α := do
  let state ← get
  turns turn (state.stream.remaining + 1) start

/-- A step on a deeper level, which is left again however the step ends. The parse is
abandoned instead when that level exceeds the nesting limit. -/
def deeper {α : Type} (limit : Nat) (step : ParseM α) : ParseM α := fun state =>
  let inside := { state with depth := state.depth + 1 }
  if limit < inside.depth then .error .nestedTooDeeply { inside with depth := inside.depth - 1 }
  else
    match step inside with
    | .ok answer after => .ok answer { after with depth := after.depth - 1 }
    | .error reason after => .error reason { after with depth := after.depth - 1 }

/-- The answer of a step, or none when it exceeded the nesting limit. -/
def unlessTooDeep {α : Type} (step : ParseM α) : ParseM (Option α) := fun state =>
  match step state with
  | .ok answer after => .ok (some answer) after
  | .error .nestedTooDeeply after => .ok none after
  | .error reason after => .error reason after

end Parser

end MonkeySyntax
