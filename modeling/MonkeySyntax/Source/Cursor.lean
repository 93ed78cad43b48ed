import MonkeySyntax.Source.Place

/-!
Contract: reading a source text one character at a time.

Owns:
- the cursor, which holds the text still to be read and the place it has reached;
- single steps, runs of characters, and the character classes of the language.

Does not own: which runs are tokens.
-/

set_option autoImplicit false

namespace MonkeySyntax

/-- An ASCII letter or an underscore. -/
def isWordChar (char : Char) : Bool :=
  ('a' ≤ char && char ≤ 'z') || ('A' ≤ char && char ≤ 'Z') || char == '_'

/-- An ASCII digit. -/
def isDigitChar (char : Char) : Bool :=
  '0' ≤ char && char ≤ '9'

/-- A character that separates tokens and belongs to none: space, tab, newline
or carriage return. -/
def isBlankChar (char : Char) : Bool :=
  char == ' ' || char == '\t' || char == '\n' || char == '\r'

/-- The text still to be read, and the place of its first character. -/
structure Cursor where
  rest : List Char
  place : Place
deriving DecidableEq, Repr

namespace Cursor

/-- The character that stands for whatever lies past the end. -/
def pastEnd : Char := '\x00'

/-- A cursor before the first character of a text. -/
def ofList (text : List Char) : Cursor := ⟨text, Place.start⟩

/-- A cursor before the first character of a text. -/
def ofString (text : String) : Cursor := ofList text.toList

/-- The character under the cursor. -/
def current (cursor : Cursor) : Char := cursor.rest.headD pastEnd

/-- The character behind the one under the cursor. -/
def next (cursor : Cursor) : Char := cursor.rest.tail.headD pastEnd

/-- Whether everything has been read. -/
def atEnd (cursor : Cursor) : Bool := cursor.rest.isEmpty

/-- Reads one character. Past the end the text stays empty while the place still
moves on by one column. -/
def advance (cursor : Cursor) : Cursor :=
  ⟨cursor.rest.tail, cursor.place.after cursor.current⟩

/-- The longest run of characters of a class that starts under the cursor. -/
def run (cursor : Cursor) (belongs : Char → Bool) : List Char :=
  cursor.rest.takeWhile belongs

/-- The cursor behind that run. -/
def skip (cursor : Cursor) (belongs : Char → Bool) : Cursor :=
  ⟨cursor.rest.dropWhile belongs, cursor.place.afterAll (cursor.run belongs)⟩

/-- Passes over blank characters. -/
def skipBlanks (cursor : Cursor) : Cursor := cursor.skip isBlankChar

/-- Reads the longest run of characters of a class. -/
def read (cursor : Cursor) (belongs : Char → Bool) : String × Cursor :=
  (String.ofList (cursor.run belongs), cursor.skip belongs)

/-- Reads a word, which is empty when no letter is under the cursor. -/
def readWord (cursor : Cursor) : String × Cursor := cursor.read isWordChar

/-- Reads digits, of which there are none when no digit is under the cursor. -/
def readDigits (cursor : Cursor) : String × Cursor := cursor.read isDigitChar

/-! ### What is read and what is left -/

theorem run_append_rest_skip (cursor : Cursor) (belongs : Char → Bool) :
    cursor.run belongs ++ (cursor.skip belongs).rest = cursor.rest :=
  List.takeWhile_append_dropWhile

theorem rest_advance (cursor : Cursor) : cursor.advance.rest = cursor.rest.tail := rfl

theorem length_rest_skip_le (cursor : Cursor) (belongs : Char → Bool) :
    (cursor.skip belongs).rest.length ≤ cursor.rest.length :=
  (List.dropWhile_sublist belongs).length_le

/-- A run that starts at all leaves less to read. -/
theorem length_rest_skip_lt (cursor : Cursor) (belongs : Char → Bool)
    {first : Char} {others : List Char}
    (unread : cursor.rest = first :: others) (starts : belongs first = true) :
    (cursor.skip belongs).rest.length < cursor.rest.length := by
  have bounded := (List.dropWhile_sublist belongs (l := others)).length_le
  simp only [skip, unread, List.dropWhile_cons, starts, if_true, List.length_cons]
  omega

end Cursor

end MonkeySyntax
