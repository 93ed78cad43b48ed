import MonkeySyntax.Proofs.Grammar.Merging
import MonkeySyntax.Proofs.Parser.Completeness
import MonkeySyntax.Proofs.Parser.Soundness
import MonkeySyntax.Proofs.Parser.Unplaced
import MonkeySyntax.Proofs.Token.Joining

/-!
Contract: texts without errors that only blanks stand between.

Owns:
- the tokens of a text without errors where the text stands behind another one, which are
  derived there too;
- the tokens of two texts with blanks between them;
- that such a text has no errors either, within the nesting limit.

Does not own: texts with a semicolon between them, of which the statements stay as they are.
-/

set_option autoImplicit false

namespace MonkeySyntax

open Grammar

/-- Behind another text the tokens of a text without errors are the yield of a derivation,
of which the trees are those of the text but for their positions. -/
theorem exists_statements_behind (before : List Char) {source : String}
    (noErrors : (parse source).errors = []) :
    ∃ statements : List Statement, SeparatedAll statements ∧
      (⟨source.toList, .behind before⟩ : Cursor).tokens.upcoming = yieldAll statements ∧
      (treesAll statements).map Node.unplaced = (parse source).statements.map Node.unplaced := by
  obtain ⟨others, ended, ran, sameTrees, sameErrors⟩ := exists_program_behind before source
  have silent : ended.log.length ≤ 0 := by
    have none : ended.errors = [] := sameErrors.trans noErrors
    rw [List.reverse_eq_nil_iff.mp (List.map_eq_nil_iff.mp none)]
    exact Nat.le_refl 0
  obtain ⟨statements, rfl, separated, yields⟩ :=
    Parser.takesProgram nestingLimit [] (.start _) (Cursor.lexed_tokens _) ran silent
  exact ⟨statements, separated, yields, sameTrees⟩

/-- Behind a text and some blanks the tokens of another text follow. -/
theorem TokenStream.upcoming_ofString_spaced (first second : String) {gap : String}
    (isNonempty : gap ≠ "") (isBlank : ∀ char ∈ gap.toList, isBlankChar char = true) :
    (ofString (first ++ gap ++ second)).upcoming =
      (ofString first).upcoming ++
        (⟨second.toList, .behind (first ++ gap).toList⟩ : Cursor).tokens.upcoming := by
  have ending : Ending (gap ++ second).toList := by
    apply ending_of_blank
    intro char isHead
    have isFirst : gap.toList.head? = some char := by
      obtain ⟨first, others, starts⟩ :=
        List.exists_cons_of_ne_nil fun none => isNonempty (String.toList_eq_nil_iff.mp none)
      rw [String.toList_append, starts] at isHead
      rw [starts]
      exact isHead
    exact isBlank char (List.mem_of_mem_head? isFirst)
  rw [String.append_assoc, ofString_append_of_bounds fun last _ => ending.bounds _,
    String.toList_append, Cursor.tokens_of_blanks isBlank, Place.afterAll_behind,
    String.toList_append]

/-- Two texts without errors and some blanks between them are a text without errors, unless
an expression is nested too deeply in it. This is so even where the second text goes on with
the last statement of the first one. -/
theorem errors_of_spaced (first second gap : String) (noErrors : (parse first).errors = [])
    (noErrorsSecond : (parse second).errors = []) (isNonempty : gap ≠ "")
    (isBlank : ∀ char ∈ gap.toList, isBlankChar char = true) :
    (parse (first ++ gap ++ second)).abandoned = none ∧
      ((parse (first ++ gap ++ second)).errors = [] ∨
        (parse (first ++ gap ++ second)).errors = ["expression nested too deeply"]) := by
  obtain ⟨statements, -, separated, yields⟩ := exists_statements_of_errors_eq_nil noErrors
  obtain ⟨behind, separatedBehind, yieldsBehind, -⟩ :=
    exists_statements_behind (first ++ gap).toList noErrorsSecond
  obtain ⟨whole, separatedWhole, yieldsWhole⟩ := exists_separated_append separated separatedBehind
  have isYield : (tokenize (first ++ gap ++ second)).dropLast = yieldAll whole := by
    rw [tokenize_dropLast, TokenStream.upcoming_ofString_spaced first second isNonempty isBlank,
      yields, yieldsBehind, yieldsWhole]
  obtain ⟨_, _, _, isParse⟩ := parseWith_eq nestingLimit (first ++ gap ++ second)
  refine ⟨congrArg Parsed.abandoned isParse, ?_⟩
  by_cases enough : ∀ statement ∈ whole, statement.need ≤ 100
  · rw [parse_eq_of_need_le separatedWhole isYield enough]
    exact Or.inl rfl
  · have exceeds : ∃ statement ∈ whole, 100 < statement.need := by simpa using enough
    exact Or.inr (parse_of_lt_need separatedWhole isYield exceeds).1

/-- A group behind an operand becomes the argument of a call, and the operator in front of
the next statement becomes one between two operands. -/
theorem errors_of_spaced_group :
    (parse "let f = !g").errors = [] ∧ (parse "(a); -b").errors = [] ∧
      ((parse ("let f = !g" ++ "\n" ++ "(a); -b")).errors = [] ∨
        (parse ("let f = !g" ++ "\n" ++ "(a); -b")).errors = ["expression nested too deeply"]) := by
  have noErrors : (parse "let f = !g").errors = [] := by decide +kernel
  have noErrorsSecond : (parse "(a); -b").errors = [] := by decide +kernel
  have isBlank : ∀ char ∈ "\n".toList, isBlankChar char = true :=
    List.forall_mem_singleton.mpr (by decide)
  exact ⟨noErrors, noErrorsSecond,
    (errors_of_spaced _ _ "\n" noErrors noErrorsSecond (by decide) isBlank).2⟩

end MonkeySyntax
