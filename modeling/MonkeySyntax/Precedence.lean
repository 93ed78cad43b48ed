import MonkeySyntax.Token.Kind

/-!
Contract: how tightly the operators of the language bind.

Owns: the levels, their ranks, and the level of each token kind.

Does not own: which parse rule an operator has.
-/

set_option autoImplicit false

namespace MonkeySyntax

/-- The levels of binding, from the loosest to the tightest. -/
inductive Precedence where
  | lowest
  | equality
  | ordering
  | sum
  | product
  | unary
  | call
deriving DecidableEq, Repr

namespace Precedence

/-- Every level, from the loosest to the tightest. -/
def all : List Precedence :=
  [.lowest, .equality, .ordering, .sum, .product, .unary, .call]

/-- The number by which levels are compared: a tighter level has a greater one. -/
def rank : Precedence → Nat
  | .lowest => 1
  | .equality => 2
  | .ordering => 3
  | .sum => 4
  | .product => 5
  | .unary => 6
  | .call => 7

/-- The name by which a level is shown. -/
def name : Precedence → String
  | .lowest => "LOWEST"
  | .equality => "EQUALS"
  | .ordering => "LESSGREATER"
  | .sum => "SUM"
  | .product => "PRODUCT"
  | .unary => "PREFIX"
  | .call => "CALL"

/-- The level shown by a name. -/
def ofName? (shown : String) : Option Precedence :=
  all.find? fun level => level.name == shown

instance : LT Precedence := ⟨fun looser tighter => looser.rank < tighter.rank⟩

instance (looser tighter : Precedence) : Decidable (looser < tighter) :=
  inferInstanceAs (Decidable (looser.rank < tighter.rank))

theorem lt_iff_rank_lt (looser tighter : Precedence) :
    looser < tighter ↔ looser.rank < tighter.rank := Iff.rfl

theorem not_lt_lowest (level : Precedence) : ¬ level < lowest := by
  cases level <;> decide

end Precedence

namespace TokenKind

/-- The operators that continue an expression, with their levels. -/
def operators : List (TokenKind × Precedence) :=
  [(.equal, .equality), (.notEqual, .equality), (.less, .ordering), (.greater, .ordering),
    (.plus, .sum), (.minus, .sum), (.slash, .product), (.asterisk, .product),
    (.leftParen, .call)]

/-- The level at which a token of a kind continues an expression. A kind that
continues none has the lowest level, which is above no other. -/
def precedence (kind : TokenKind) : Precedence :=
  (operators.lookup kind).getD .lowest

end TokenKind

end MonkeySyntax
