/-!
Contract: JSON values without fractions.

Owns: the value type, with the members of an object in their given order, and
small builders.

Does not own: how values are written.
-/

set_option autoImplicit false

namespace MonkeySyntax

/-- A JSON value. -/
inductive Json where
  | null
  | bool (value : Bool)
  | int (value : Int)
  | string (value : String)
  | array (items : List Json)
  | object (members : List (String × Json))
deriving Repr, Inhabited

end MonkeySyntax
