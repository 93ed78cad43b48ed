import MonkeySyntax.Proofs.Parser.Completeness
import MonkeySyntax.Proofs.Parser.Soundness
import MonkeySyntax.Proofs.Tree.Rereading

/-!
Contract: the rendering of a program is read back up to the nesting limit.

Owns:
- what statements and their copies have in common;
- the parse of a rendering without conditionals and functions, in which every statement
  but the last one is closed by a semicolon.

Does not own: programs with conditionals or functions. Their renderings leave out the
braces of a block.
-/

set_option autoImplicit false

namespace MonkeySyntax

open Grammar
open Node (CopiesStatement)

/-! ### Lists of copies -/

section Copies

variable {nodes : List Node} {copies : List Statement}

theorem map_eq_of_copies {α : Type} {ofNode : Node → α} {ofCopy : Statement → α}
    (agree : ∀ node copy, CopiesStatement node copy → ofCopy copy = ofNode node)
    (areCopies : List.Forall₂ CopiesStatement nodes copies) :
    copies.map ofCopy = nodes.map ofNode := by
  induction areCopies with
  | nil => rfl
  | cons isCopy _ inductionHypothesis =>
      rw [List.map_cons, List.map_cons, agree _ _ isCopy, inductionHypothesis]

theorem records_of_copies (areCopies : List.Forall₂ CopiesStatement nodes copies) :
    (treesAll copies).map Node.record = nodes.map Node.record := by
  rw [treesAll_eq_map, List.map_map]
  exact map_eq_of_copies (fun _ _ isCopy => isCopy.record_eq) areCopies

theorem renderAll_of_copies (areCopies : List.Forall₂ CopiesStatement nodes copies) :
    Node.renderAll (treesAll copies) = Node.renderAll nodes := by
  apply Node.renderAll_congr
  rw [treesAll_eq_map, List.map_map]
  exact map_eq_of_copies (fun _ _ isCopy => isCopy.render_eq) areCopies

theorem needs_of_copies (areCopies : List.Forall₂ CopiesStatement nodes copies) :
    copies.map Statement.need = nodes.map Node.depth :=
  map_eq_of_copies (fun _ _ isCopy => isCopy.need_eq) areCopies

/-- The statements in front of the first one that is too deep are copied by those in front
of the first one that needs too much. -/
theorem takeWhile_copies (limit : Nat) (areCopies : List.Forall₂ CopiesStatement nodes copies) :
    List.Forall₂ CopiesStatement (nodes.takeWhile fun node => node.depth ≤ limit)
      (copies.takeWhile fun copy => copy.need ≤ limit) := by
  induction areCopies with
  | nil => exact .nil
  | @cons node copy nodes copies isCopy _ inductionHypothesis =>
      by_cases fits : node.depth ≤ limit
      · rw [List.takeWhile_cons_of_pos (by simpa using fits),
          List.takeWhile_cons_of_pos (by simpa [isCopy.need_eq] using fits)]
        exact .cons isCopy inductionHypothesis
      · rw [List.takeWhile_cons_of_neg (by simpa using fits),
          List.takeWhile_cons_of_neg (by simpa [isCopy.need_eq] using fits)]
        exact .nil

end Copies

/-! ### Programs -/

/-- The tokens of the rendering of a program without errors are the yield of copies of its
statements. -/
theorem exists_copies {source : String} (noErrors : (parse source).errors = [])
    (plain : (parse source).program.Plain)
    (closed : ∀ statement ∈ (parse source).statements.dropLast,
      statement.className = "LetStatement" ∨ statement.className = "ReturnStatement") :
    ∃ copies : List Statement,
      (tokenize (parse source).program.render).dropLast = yieldAll copies ∧
      SeparatedAll copies ∧ List.Forall₂ CopiesStatement (parse source).statements copies := by
  obtain ⟨statements, isTree, separated, upcoming⟩ := exists_statements_of_errors_eq_nil noErrors
  have spelled : SpelledAll (yieldAll statements) := by
    rw [← upcoming]
    exact TokenStream.lexed_ofString source
  have plainAll : ∀ node ∈ (parse source).statements, node.Plain :=
    fun _ listed => plain.child listed
  rw [isTree] at plainAll closed ⊢
  have unread : (Cursor.ofString (parse source).program.render).rest =
      (Node.renderAll (treesAll statements)).toList := by
    rw [Parsed.program, isTree]
    rfl
  rw [tokenize_dropLast]
  apply scan_statements _ spelled closed unread
  intro statement listed
  apply plainAll
  rw [treesAll_eq_map]
  exact List.mem_map_of_mem listed

/-- The rendering of a program without errors, conditionals and functions, in which every
statement but the last one is a binding or a `return`, is parsed to the same program when
no statement is deeper than a hundred levels. Otherwise the nesting is the only error, and
the statements are those before the first one that is deeper. -/
theorem parse_render (source : String) (noErrors : (parse source).errors = [])
    (plain : (parse source).program.Plain)
    (closed : ∀ statement ∈ (parse source).statements.dropLast,
      statement.className = "LetStatement" ∨ statement.className = "ReturnStatement") :
    (parse (parse source).program.render).abandoned = none ∧
      ((∀ statement ∈ (parse source).statements, statement.depth ≤ 100) →
        (parse (parse source).program.render).errors = [] ∧
          (parse (parse source).program.render).program.record = (parse source).program.record ∧
          (parse (parse source).program.render).program.render = (parse source).program.render) ∧
      ((∃ statement ∈ (parse source).statements, 100 < statement.depth) →
        (parse (parse source).program.render).errors = ["expression nested too deeply"] ∧
          (parse (parse source).program.render).statements.map Node.record =
            ((parse source).statements.takeWhile fun statement =>
              statement.depth ≤ 100).map Node.record) := by
  obtain ⟨copies, yields, separated, areCopies⟩ := exists_copies noErrors plain closed
  have sameNeeds := needs_of_copies areCopies
  refine ⟨?_, ?_, ?_⟩
  · obtain ⟨read, after, -, isParse⟩ := parseWith_eq nestingLimit (parse source).program.render
    exact congrArg Parsed.abandoned isParse
  · intro shallow
    have enough : ∀ copy ∈ copies, copy.need ≤ 100 := by
      rw [← List.forall_mem_map (P := (· ≤ 100)), sameNeeds, List.forall_mem_map]
      exact shallow
    rw [parse_eq_of_need_le separated yields enough]
    refine ⟨rfl, ?_, renderAll_of_copies areCopies⟩
    rw [Parsed.program, Parsed.program, Node.record, Node.record, Node.recordAll_eq_map,
      Node.recordAll_eq_map, records_of_copies areCopies]
  · rintro ⟨statement, listed, tooDeep⟩
    have exceeds : ∃ copy ∈ copies, 100 < copy.need := by
      have met : statement.depth ∈ copies.map Statement.need := by
        rw [sameNeeds]
        exact List.mem_map_of_mem listed
      obtain ⟨copy, listedCopy, sameNeed⟩ := List.mem_map.mp met
      exact ⟨copy, listedCopy, sameNeed ▸ tooDeep⟩
    obtain ⟨isError, isTree⟩ := parse_of_lt_need separated yields exceeds
    refine ⟨isError, ?_⟩
    rw [isTree]
    exact records_of_copies (takeWhile_copies 100 areCopies)

/-- A binding and a call are read back. Fifty operators in front of a name are not: they
need fifty-one levels, and their rendering needs fifty more. -/
theorem parse_render_negations :
    ((parse "let x = -a * 2; f(x)").program.render = "let x = ((-a) * 2);f(x)" ∧
      (parse "let x = ((-a) * 2);f(x)").errors = [] ∧
      (parse "let x = ((-a) * 2);f(x)").program.record =
        (parse "let x = -a * 2; f(x)").program.record) ∧
    (parse (parse (String.ofList (List.replicate 50 '-' ++ ['x']))).program.render).errors =
      ["expression nested too deeply"] := by
  constructor
  · obtain ⟨noErrors, plain, closed, shallow, rendered⟩ :
        (parse "let x = -a * 2; f(x)").errors = [] ∧
        (∀ visited ∈ (parse "let x = -a * 2; f(x)").program.preorder,
          visited.className ≠ "IfExpression" ∧ visited.className ≠ "FunctionLiteral") ∧
        (∀ statement ∈ (parse "let x = -a * 2; f(x)").statements.dropLast,
          statement.className = "LetStatement" ∨ statement.className = "ReturnStatement") ∧
        (∀ statement ∈ (parse "let x = -a * 2; f(x)").statements, statement.depth ≤ 100) ∧
        (parse "let x = -a * 2; f(x)").program.render = "let x = ((-a) * 2);f(x)" := by
      decide +kernel
    obtain ⟨-, isRead, -⟩ := parse_render "let x = -a * 2; f(x)" noErrors plain closed
    obtain ⟨noErrors, sameRecord, -⟩ := isRead shallow
    rw [rendered] at noErrors sameRecord
    exact ⟨rendered, noErrors, sameRecord⟩
  · obtain ⟨noErrors, plain, closed, deep⟩ :
        (parse (String.ofList (List.replicate 50 '-' ++ ['x']))).errors = [] ∧
        (∀ visited ∈ (parse (String.ofList (List.replicate 50 '-' ++ ['x']))).program.preorder,
          visited.className ≠ "IfExpression" ∧ visited.className ≠ "FunctionLiteral") ∧
        (∀ statement ∈
            (parse (String.ofList (List.replicate 50 '-' ++ ['x']))).statements.dropLast,
          statement.className = "LetStatement" ∨ statement.className = "ReturnStatement") ∧
        ∃ statement ∈ (parse (String.ofList (List.replicate 50 '-' ++ ['x']))).statements,
          100 < statement.depth := by
      decide +kernel
    obtain ⟨-, -, isCut⟩ :=
      parse_render (String.ofList (List.replicate 50 '-' ++ ['x'])) noErrors plain closed
    exact (isCut deep).1

end MonkeySyntax
