/-!
Contract: texts as lines.

Owns:
- the change of every kind of line end to a newline;
- the text that consists of some lines.
-/

set_option autoImplicit false

namespace MonkeySyntax

namespace Lines

/-- The characters with a newline for every carriage return, and for every
carriage return together with the newline behind it. -/
def unify : List Char → List Char
  | [] => []
  | '\r' :: '\n' :: rest => '\n' :: unify rest
  | '\r' :: rest => '\n' :: unify rest
  | char :: rest => char :: unify rest

/-- The text of some lines, each ended by a newline. -/
def print (lines : List String) : String :=
  String.join (lines.map (· ++ "\n"))

theorem print_map {α : Type} (line : α → String) (items : List α) :
    print (items.map line) = String.join (items.map fun item => line item ++ "\n") := by
  unfold print
  rw [List.map_map]
  rfl

end Lines

end MonkeySyntax
