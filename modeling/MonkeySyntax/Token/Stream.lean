import MonkeySyntax.Token.Basic

/-!
Contract: a finite run of tokens followed by the end of the input.

Owns: the current and the next token of a stream, and the step to the next one.

Does not own: where the tokens come from.
-/

set_option autoImplicit false

namespace MonkeySyntax

/-- Tokens still to be taken, and the place where the input ends. Behind the last
token the end of the input is met again and again. -/
structure TokenStream where
  upcoming : List Token
  finish : Place
deriving DecidableEq, Repr

namespace TokenStream

/-- The token met once nothing else is left. -/
def endToken (stream : TokenStream) : Token := Token.atEnd stream.finish

/-- The token under examination. -/
def current (stream : TokenStream) : Token :=
  stream.upcoming.headD stream.endToken

/-- The token behind the current one. -/
def next (stream : TokenStream) : Token :=
  stream.upcoming.tail.headD stream.endToken

/-- Takes the current token. -/
def advance (stream : TokenStream) : TokenStream :=
  { stream with upcoming := stream.upcoming.tail }

/-- Puts a token in front. -/
def push (stream : TokenStream) (token : Token) : TokenStream :=
  { stream with upcoming := token :: stream.upcoming }

/-- How many tokens are left before the end of the input. -/
def remaining (stream : TokenStream) : Nat := stream.upcoming.length

/-- All the tokens, with the end of the input as the last one. -/
def toList (stream : TokenStream) : List Token :=
  stream.upcoming ++ [stream.endToken]

@[simp] theorem current_advance (stream : TokenStream) :
    stream.advance.current = stream.next := rfl

@[simp] theorem endToken_advance (stream : TokenStream) :
    stream.advance.endToken = stream.endToken := rfl

@[simp] theorem advance_push (stream : TokenStream) (token : Token) :
    (stream.push token).advance = stream := rfl

@[simp] theorem current_push (stream : TokenStream) (token : Token) :
    (stream.push token).current = token := rfl

@[simp] theorem next_push (stream : TokenStream) (token : Token) :
    (stream.push token).next = stream.current := rfl

@[simp] theorem toList_push (stream : TokenStream) (token : Token) :
    (stream.push token).toList = token :: stream.toList := rfl

/-- A current token that is not the end of the input can be taken. -/
theorem remaining_advance_lt (stream : TokenStream)
    (unfinished : stream.current.kind ≠ .endOfInput) :
    stream.advance.remaining < stream.remaining := by
  cases tokens : stream.upcoming with
  | nil => exact absurd (by simp [current, tokens, endToken]) unfinished
  | cons token others => simp [advance, remaining, tokens]

end TokenStream

end MonkeySyntax
