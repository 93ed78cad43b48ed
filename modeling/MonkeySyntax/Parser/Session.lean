import MonkeySyntax.Parser.Rules

/-!
Contract: a parse that is driven from outside, one call at a time.

Owns:
- the parser, which holds its rules, its nesting limit and the state of its parse;
- the calls it answers, and the answer and the parser after each one.

Does not own: what the calls do, which is said where each rule is defined.

A call that abandons its work leaves the state in which it stopped, with the depth of
nesting back at what it was before the call.
-/

set_option autoImplicit false

namespace MonkeySyntax

/-- A parser between two calls. -/
structure Parser where
  rules : Parser.Rules
  limit : Nat
  state : Parser.State

namespace Parser

/-- What a parser can be asked to do. -/
inductive Call where
  /-- Whether the current token is of a kind. -/
  | currentIs (kind : TokenKind)
  /-- Whether the next token is of a kind. -/
  | nextIs (kind : TokenKind)
  /-- To go on to the next token if it is of a kind, or to report it. -/
  | expectNext (kind : TokenKind)
  /-- To report that a token of a kind was required next. -/
  | reportUnexpected (kind : TokenKind)
  /-- To report that no expression starts with a token of a kind. -/
  | reportStart (kind : TokenKind)
  /-- To report a remark. -/
  | remark (text : String)
  /-- To read an expression up to a level. -/
  | expression (level : Precedence)
  /-- To read an expression up to a level without going a level of nesting deeper. -/
  | expressionHere (level : Precedence)
  /-- To follow an opening rule from the current token on. -/
  | opening (rule : OpeningRule)
  /-- To read a construct that takes in a left part. -/
  | continuation (rule : ContinuationRule) (left : Option Node)
  /-- To give a kind an opening rule. -/
  | setOpening (kind : TokenKind) (rule : OpeningRule)
  /-- To give a kind a continuation rule. -/
  | setContinuation (kind : TokenKind) (rule : ContinuationRule)
  /-- To take the opening rule of a kind away, if it has one. -/
  | removeOpening (kind : TokenKind)
  /-- To take the continuation rule of a kind away, if it has one. -/
  | removeContinuation (kind : TokenKind)
deriving Repr

/-- What a call answers. -/
inductive Answer where
  | nothing
  | flag (value : Bool)
  | node (value : Option Node)
deriving Repr, DecidableEq

/-- The work of a call on the state of the parse. Expressions are read as given. -/
def Call.run (rules : Rules) (expression : ExpressionReader) : Call → ParseM Answer
  | .currentIs kind => return .flag (decide ((← Parser.current).kind = kind))
  | .nextIs kind => return .flag (decide ((← Parser.next).kind = kind))
  | .expectNext kind => return .flag (← Parser.expectNext kind)
  | .reportUnexpected kind => do
      Parser.reportUnexpected kind
      return .nothing
  | .reportStart kind => do
      report (.startsNoExpression kind)
      return .nothing
  | .remark text => do
      report (.remark text)
      return .nothing
  | .expression level => return .node (← expression level)
  | .expressionHere level => return .node (← rules.expressionBy expression level)
  | .opening rule => return .node (← rule.read expression)
  | .continuation rule left => return .node (← rule.read expression left)
  | .setOpening _ _ => return .nothing
  | .setContinuation _ _ => return .nothing
  | .removeOpening kind => return .flag (rules.opening kind).isSome
  | .removeContinuation kind => return .flag (rules.continuation kind).isSome

/-- The rules after a call. -/
def Call.rulesAfter (rules : Rules) : Call → Rules
  | .setOpening kind rule => rules.withOpening kind (some rule)
  | .setContinuation kind rule => rules.withContinuation kind (some rule)
  | .removeOpening kind => rules.withOpening kind none
  | .removeContinuation kind => rules.withContinuation kind none
  | _ => rules

/-- A new parser for some tokens, with the rules of the language. -/
def ofStream (limit : Nat) (stream : TokenStream) : Parser :=
  ⟨.standard, limit, .start stream⟩

/-- The answer to a call, or what abandoned it, and the parser after it. -/
def perform (parser : Parser) (call : Call) : Except Abort Answer × Parser :=
  let rules := call.rulesAfter parser.rules
  match call.run parser.rules (parser.rules.reader parser.limit) parser.state with
  | .ok answer state => (.ok answer, { parser with rules, state })
  | .error reason state => (.error reason, { parser with rules, state })

/-- The parser after some calls. -/
def performAll (parser : Parser) (calls : List Call) : Parser :=
  calls.foldl (fun reached call => (reached.perform call).2) parser

end Parser

end MonkeySyntax
