/-!
Contract: which characters count as white space at the ends of a line.

Owns: the class, which is Unicode's white space together with the four
information separators of ASCII, and the removal of such characters from both
ends of a text.
-/

set_option autoImplicit false

namespace MonkeySyntax

namespace Blank

/-- Whether a character is white space. -/
def isBlank (char : Char) : Bool :=
  let code := char.toNat
  (0x09 ≤ code && code ≤ 0x0D) || (0x1C ≤ code && code ≤ 0x20) || code == 0x85
    || code == 0xA0 || code == 0x1680 || (0x2000 ≤ code && code ≤ 0x200A)
    || code == 0x2028 || code == 0x2029 || code == 0x202F || code == 0x205F
    || code == 0x3000

/-- The characters without the white space at both ends. -/
def trim (text : List Char) : List Char :=
  ((text.dropWhile isBlank).reverse.dropWhile isBlank).reverse

/-- A text without the white space at both ends. -/
def strip (text : String) : String :=
  String.ofList (trim text.toList)

end Blank

end MonkeySyntax
