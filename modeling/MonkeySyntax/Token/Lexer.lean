import MonkeySyntax.Source.Cursor
import MonkeySyntax.Token.Basic

/-!
Contract: a lexer that is driven from outside, one call at a time.

Owns:
- the lexer, which keeps the whole text and the index that it has reached in it;
- reading one character, and the loops that read characters as long as a condition holds;
- the calls it answers, and the answer and the lexer after each one.

Does not own: the tokens of a whole text, which are read from a cursor.

A lexer may be moved on past the end of its text without bound. It then stands on the
character that marks the end, which may also occur in a text, so the end is told by the index.
-/

set_option autoImplicit false

namespace MonkeySyntax

/-- A lexer between two calls. -/
structure Lexer where
  source : List Char
  /-- The index of the character under examination. -/
  position : Nat
  /-- The index of the character that is read next. -/
  readPosition : Nat
  /-- The character under examination. -/
  current : Char
  line : Nat
  column : Nat
deriving DecidableEq, Repr

namespace Lexer

/-! ### Characters -/

/-- The character at an index, or the one that stands for whatever lies past the end. -/
def charAt (lexer : Lexer) (index : Nat) : Char :=
  lexer.source.getD index Cursor.pastEnd

/-- Reads one character. The line ends when its newline is left behind. -/
def advance (lexer : Lexer) : Lexer where
  source := lexer.source
  position := lexer.readPosition
  readPosition := lexer.readPosition + 1
  current := lexer.charAt lexer.readPosition
  line := if lexer.current = '\n' then lexer.line + 1 else lexer.line
  column := (if lexer.current = '\n' then 0 else lexer.column) + 1

/-- A lexer in front of a text that reads the first character of it. -/
def start (source : String) : Lexer :=
  (⟨source.toList, 0, 0, Cursor.pastEnd, 1, 0⟩ : Lexer).advance

/-- The character that is read next. -/
def next (lexer : Lexer) : Char := lexer.charAt lexer.readPosition

/-- Whether the whole text has been read. -/
def atEnd (lexer : Lexer) : Bool := decide (lexer.source.length ≤ lexer.position)

/-! ### Loops -/

/-- How many characters can be read before the lexer stands on the one for the end. -/
def left (lexer : Lexer) : Nat :=
  lexer.source.length - lexer.readPosition + if lexer.current = Cursor.pastEnd then 0 else 1

theorem charAt_of_length_le {lexer : Lexer} {index : Nat}
    (isOutside : lexer.source.length ≤ index) : lexer.charAt index = Cursor.pastEnd := by
  rw [charAt, List.getD_eq_getElem?_getD, List.getElem?_eq_none isOutside, Option.getD_none]

theorem left_advance_lt {lexer : Lexer} (notPastEnd : lexer.current ≠ Cursor.pastEnd) :
    lexer.advance.left < lexer.left := by
  unfold left
  rw [if_neg notPastEnd]
  by_cases isInside : lexer.readPosition < lexer.source.length
  · have atMostOne : (if lexer.advance.current = Cursor.pastEnd then 0 else 1) ≤ 1 := by
      split <;> omega
    simp only [advance] at atMostOne ⊢
    omega
  · have isPastEnd : lexer.advance.current = Cursor.pastEnd :=
      charAt_of_length_le (Nat.le_of_not_lt isInside)
    rw [if_pos isPastEnd]
    simp only [advance]
    omega

/-- Reads characters as long as a condition holds. It must not hold on the character that
stands for the end, so that it fails there at the latest. -/
def advanceWhile (goesOn : Lexer → Bool)
    (stops : ∀ lexer, goesOn lexer = true → lexer.current ≠ Cursor.pastEnd) (lexer : Lexer) :
    Lexer :=
  if goes : goesOn lexer = true then
    have := left_advance_lt (stops lexer goes)
    lexer.advance.advanceWhile goesOn stops
  else lexer
termination_by lexer.left

/-- Passes over blank characters. -/
def skipBlanks (lexer : Lexer) : Lexer :=
  lexer.advanceWhile (fun lexer => isBlankChar lexer.current && !lexer.atEnd)
    fun _ goes isPastEnd => by simp [isPastEnd, isBlankChar, Cursor.pastEnd] at goes

/-- Reads characters of a class, to which the one that stands for the end must not belong. The
text read is the part of the source between the two positions. -/
def read (lexer : Lexer) (belongs : Char → Bool) (stops : belongs Cursor.pastEnd = false) :
    String × Lexer :=
  let behind := lexer.advanceWhile (fun lexer => belongs lexer.current)
    fun _ goes isPastEnd => by simp [isPastEnd, stops] at goes
  (String.ofList (lexer.source.extract lexer.position behind.position), behind)

/-- Reads a word, which is empty when no letter is under examination. -/
def readWord (lexer : Lexer) : String × Lexer := lexer.read isWordChar rfl

/-- Reads digits, of which there are none when no digit is under examination. -/
def readDigits (lexer : Lexer) : String × Lexer := lexer.read isDigitChar rfl

/-! ### Tokens -/

/-- A token that starts at the character under examination. -/
def tokenHere (lexer : Lexer) (kind : TokenKind) (literal : String) : Token :=
  ⟨kind, literal, lexer.line, lexer.column⟩

/-- The token that starts with the character under examination, and the lexer behind it. -/
def token (lexer : Lexer) : Token × Lexer :=
  match TokenKind.doubles.lookup lexer.current, TokenKind.singles.lookup lexer.current with
  | some (alone, paired), _ =>
      if lexer.next = '=' then
        (lexer.tokenHere paired (String.ofList [lexer.current, '=']), lexer.advance.advance)
      else (lexer.tokenHere alone (String.ofList [lexer.current]), lexer.advance)
  | none, some kind => (lexer.tokenHere kind (String.ofList [lexer.current]), lexer.advance)
  | none, none =>
      if isWordChar lexer.current then
        let (word, behind) := lexer.readWord
        (lexer.tokenHere (TokenKind.ofWord word) word, behind)
      else if isDigitChar lexer.current then
        let (digits, behind) := lexer.readDigits
        (lexer.tokenHere .int digits, behind)
      else (lexer.tokenHere .illegal (String.ofList [lexer.current]), lexer.advance)

/-- The next token behind any blanks, and the lexer behind it. Once the whole text has been
read this is the end of the input, however often it is asked for. -/
def nextToken (lexer : Lexer) : Token × Lexer :=
  let ahead := lexer.skipBlanks
  if ahead.atEnd then (ahead.tokenHere .endOfInput "", ahead) else ahead.token

/-! ### Calls -/

/-- What a lexer can be asked to do. -/
inductive Call where
  /-- To read one character. -/
  | advance
  /-- To tell the character that is read next. -/
  | next
  /-- Whether the whole text has been read. -/
  | atEnd
  | skipBlanks
  | readWord
  | readDigits
  | nextToken
deriving DecidableEq, Repr

/-- What a call answers. -/
inductive Answer where
  | nothing
  | char (value : Char)
  | flag (value : Bool)
  | text (value : String)
  | token (value : Token)
deriving DecidableEq, Repr

/-- The answer to a call, and the lexer after it. -/
def perform (lexer : Lexer) : Call → Answer × Lexer
  | .advance => (.nothing, lexer.advance)
  | .next => (.char lexer.next, lexer)
  | .atEnd => (.flag lexer.atEnd, lexer)
  | .skipBlanks => (.nothing, lexer.skipBlanks)
  | .readWord => (.text lexer.readWord.1, lexer.readWord.2)
  | .readDigits => (.text lexer.readDigits.1, lexer.readDigits.2)
  | .nextToken => (.token lexer.nextToken.1, lexer.nextToken.2)

/-- The lexer after some calls. -/
def performAll (lexer : Lexer) (calls : List Call) : Lexer :=
  calls.foldl (fun reached call => (reached.perform call).2) lexer

end Lexer

end MonkeySyntax
