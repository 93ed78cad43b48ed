import MonkeySyntax.Json.Value
import MonkeySyntax.Text.Hex

/-!
Contract: the text of a JSON value.

Owns:
- the quoting of strings, which leaves printable ASCII alone and escapes the rest;
- the two layouts: one line, and one item a line with a margin;
- the printer, which differs between layouts only in the blanks it writes.

Does not own: reading JSON.
-/

set_option autoImplicit false

namespace MonkeySyntax

namespace Json

/-! ### Strings -/

/-- The escape of one sixteen-bit unit: four hexadecimal digits. -/
def escapeUnit (unit : Nat) : List Char :=
  '\\' :: 'u' :: Hex.digits 4 unit

/-- How a string writes one character. Characters outside the basic plane become
two units. -/
def escapeChar (char : Char) : List Char :=
  if char = '"' then ['\\', '"']
  else if char = '\\' then ['\\', '\\']
  else if char = '\n' then ['\\', 'n']
  else if char = '\r' then ['\\', 'r']
  else if char = '\t' then ['\\', 't']
  else if char = '\x08' then ['\\', 'b']
  else if char = '\x0c' then ['\\', 'f']
  else if ' ' ≤ char ∧ char ≤ '~' then [char]
  else if char.toNat < 0x10000 then escapeUnit char.toNat
  else
    let beyond := char.toNat - 0x10000
    escapeUnit (0xD800 + beyond / 1024) ++ escapeUnit (0xDC00 + beyond % 1024)

/-- A string between quotation marks. -/
def quote (text : String) : String :=
  "\"" ++ String.ofList (text.toList.flatMap escapeChar) ++ "\""

/-! ### Layout -/

/-- What a layout writes around the items of a filled list: before the first one,
between two of them, and behind the last one. Each depends on how deep the list
stands. -/
structure Layout where
  opening : Nat → String
  separator : Nat → String
  closing : Nat → String

namespace Layout

/-- All on one line, with a space behind each comma. -/
def oneLine : Layout where
  opening _ := ""
  separator _ := ", "
  closing _ := ""

/-- A new line whose margin is some spaces for each level. -/
def newLine (width depth : Nat) : String :=
  String.ofList ('\n' :: List.replicate (width * depth) ' ')

/-- Each item on a line of its own. -/
def indented (width : Nat) : Layout where
  opening depth := newLine width (depth + 1)
  separator depth := "," ++ newLine width (depth + 1)
  closing depth := newLine width depth

end Layout

/-! ### Values -/

mutual

/-- The text of a value that stands at a depth. Empty lists have no layout. -/
def print (layout : Layout) (depth : Nat) : Json → String
  | .null => "null"
  | .bool true => "true"
  | .bool false => "false"
  | .int value => toString value
  | .string value => quote value
  | .array [] => "[]"
  | .array (item :: items) =>
      "[" ++ layout.opening depth ++ item.print layout (depth + 1)
        ++ printItems layout depth items ++ layout.closing depth ++ "]"
  | .object [] => "\x7b\x7d"
  | .object ((key, value) :: members) =>
      "\x7b" ++ layout.opening depth ++ quote key ++ ": " ++ value.print layout (depth + 1)
        ++ printMembers layout depth members ++ layout.closing depth ++ "\x7d"

/-- The items behind the first one, each with its separator. -/
def printItems (layout : Layout) (depth : Nat) : List Json → String
  | [] => ""
  | item :: items =>
      layout.separator depth ++ item.print layout (depth + 1)
        ++ printItems layout depth items

/-- The members behind the first one, each with its separator. -/
def printMembers (layout : Layout) (depth : Nat) : List (String × Json) → String
  | [] => ""
  | (key, value) :: members =>
      layout.separator depth ++ quote key ++ ": " ++ value.print layout (depth + 1)
        ++ printMembers layout depth members

end

/-- The text of a value on one line. -/
def oneLine (value : Json) : String := value.print .oneLine 0

/-- The text of a value with a margin of two spaces for each level. -/
def indented (value : Json) : String := value.print (.indented 2) 0

end Json

end MonkeySyntax
