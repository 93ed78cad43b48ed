/-!
Contract: where a character of a source text stands.

Owns: offset, line and column, and how reading one character changes them.

Does not own: the text itself.
-/

set_option autoImplicit false

namespace MonkeySyntax

/-- A place in a source text: the number of characters before it, and the line
and the column, both counted from one. -/
structure Place where
  offset : Nat
  line : Nat
  column : Nat
deriving DecidableEq, Repr

namespace Place

/-- The place of a text's first character. -/
def start : Place := ⟨0, 1, 1⟩

/-- The place behind a character: a newline ends its line. -/
def after (place : Place) (char : Char) : Place :=
  if char = '\n' then ⟨place.offset + 1, place.line + 1, 1⟩
  else ⟨place.offset + 1, place.line, place.column + 1⟩

/-- The place behind a run of characters. -/
def afterAll (place : Place) (run : List Char) : Place :=
  run.foldl after place

@[simp] theorem after_newline (place : Place) :
    place.after '\n' = ⟨place.offset + 1, place.line + 1, 1⟩ := rfl

@[simp] theorem offset_after (place : Place) (char : Char) :
    (place.after char).offset = place.offset + 1 := by
  unfold after
  split <;> rfl

@[simp] theorem afterAll_nil (place : Place) : place.afterAll [] = place := rfl

@[simp] theorem afterAll_cons (place : Place) (char : Char) (run : List Char) :
    place.afterAll (char :: run) = (place.after char).afterAll run := rfl

theorem afterAll_append (place : Place) (first second : List Char) :
    place.afterAll (first ++ second) = (place.afterAll first).afterAll second :=
  List.foldl_append

@[simp] theorem offset_afterAll (place : Place) (run : List Char) :
    (place.afterAll run).offset = place.offset + run.length := by
  induction run generalizing place with
  | nil => rfl
  | cons char run inductionHypothesis =>
    rw [afterAll_cons, inductionHypothesis, offset_after, List.length_cons]
    omega

end Place

end MonkeySyntax
