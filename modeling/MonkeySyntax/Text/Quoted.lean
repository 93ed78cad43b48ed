import MonkeySyntax.Text.Hex
import MonkeySyntax.Text.Printable

/-!
Contract: a text shown in quotation marks inside a message.

Owns:
- the choice of mark: a single one, unless the text holds single marks and no
  double ones;
- the escapes: the mark in use, the backslash, and characters that do not show.

Does not own: JSON strings, which have other escapes.
-/

set_option autoImplicit false

namespace MonkeySyntax

namespace Quoted

/-- The mark around a text. -/
def mark (text : List Char) : Char :=
  if text.contains '\'' && !text.contains '"' then '"' else '\''

/-- How one character shows between marks. -/
def showChar (around : Char) (char : Char) : List Char :=
  if char = around || char = '\\' then ['\\', char]
  else if char = '\n' then ['\\', 'n']
  else if char = '\r' then ['\\', 'r']
  else if char = '\t' then ['\\', 't']
  else if Printable.isPrintable char then [char]
  else if char.toNat < 0x100 then '\\' :: 'x' :: Hex.digits 2 char.toNat
  else if char.toNat < 0x10000 then '\\' :: 'u' :: Hex.digits 4 char.toNat
  else '\\' :: 'U' :: Hex.digits 8 char.toNat

/-- A text in quotation marks. -/
def quote (text : String) : String :=
  let chars := text.toList
  let around := mark chars
  String.ofList (around :: (chars.flatMap (showChar around) ++ [around]))

end Quoted

end MonkeySyntax
