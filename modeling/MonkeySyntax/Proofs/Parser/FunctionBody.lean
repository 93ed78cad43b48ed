import MonkeySyntax.Proofs.Parser.Spacing

/-!
Contract: a text without errors as the body of a function.

Owns:
- the text of a function without parameters around a body, and its tokens;
- the statement of such a function, derived from the statements of its body;
- that the body is read as the text is alone, unless it is nested too deeply there.

Does not own: how a block is read, which is a part of the completeness of a parse.
-/

set_option autoImplicit false

namespace MonkeySyntax

open Grammar

/-- A function without parameters around a text. -/
def functionText (body : String) : String := "fn() \x7b" ++ body ++ "\x7d"

/-! ### The tokens of the function -/

namespace FunctionText

def word : Terminal [.functionWord] := ⟨⟨.functionWord, "fn", 1, 1⟩, List.mem_singleton_self _⟩

def openingParen : Terminal [.leftParen] := ⟨⟨.leftParen, "(", 1, 3⟩, List.mem_singleton_self _⟩

def closingParen : Terminal [.rightParen] := ⟨⟨.rightParen, ")", 1, 4⟩, List.mem_singleton_self _⟩

def openingBrace : Terminal [.leftBrace] := ⟨⟨.leftBrace, "\x7b", 1, 6⟩, List.mem_singleton_self _⟩

/-- The brace behind the body. -/
def closingBrace (body : String) : Terminal [.rightBrace] :=
  ⟨Token.ofPlace (.behind ("fn() \x7b" ++ body).toList) .rightBrace "\x7d", List.mem_singleton_self _⟩

/-- The tokens in front of the body. -/
def head : List Token :=
  [word.token, openingParen.token, closingParen.token, openingBrace.token]

theorem upcoming_head : (TokenStream.ofString "fn() \x7b").upcoming = head := by decide +kernel

end FunctionText

open FunctionText

/-- The tokens of the body stand between those in front of it and the closing brace. -/
theorem TokenStream.upcoming_functionText (body : String) :
    (ofString (functionText body)).upcoming =
      head ++ (⟨body.toList, .behind "fn() \x7b".toList⟩ : Cursor).tokens.upcoming ++
        [(closingBrace body).token] := by
  have bounds : ∀ last ∈ (ofString "fn() \x7b").upcoming.getLast?,
      Bounds last.kind body.toList := by
    rw [upcoming_head]
    rintro last ⟨⟩
    exact bounds_of_other (by decide) _
  have listed : TokenKind.singles.lookup '}' = some .rightBrace := rfl
  rw [functionText, upcoming_ofString_single listed rfl,
    ofString_append_of_bounds bounds, upcoming_head]
  rfl

/-! ### The derivation of the function -/

/-- A function whose body has given statements is a statement of its own. Its need is that
of its body and one level more. -/
theorem exists_functionStatement {statements : List Statement}
    (separated : SeparatedAll statements) (closing : Terminal [.rightBrace]) :
    ∃ (whole : Statement) (start : Token), SeparatedAll [whole] ∧
      whole.yield = head ++ yieldAll statements ++ [closing.token] ∧
      whole.tree = .expressionStatement start
        (.function word.token [] (.block openingBrace.token (treesAll statements))) := by
  let function : Expr .call :=
    .function word openingParen .none closingParen (.braces openingBrace statements closing)
  obtain ⟨value, same⟩ := function.exists_looser .equality (by decide) (by decide)
  have separatedFunction : function.Separated := separated
  refine ⟨.expressionStatement value none, value.first,
    ⟨same.separated separatedFunction, fun _ => nofun, trivial⟩, ?_, ?_⟩
  · rw [Statement.yield, same.yield]
    exact List.append_nil _
  · rw [Statement.tree, same.tree]
    rfl

/-! ### The parse of the function -/

/-- A text without errors is read as the body of a function as it is read alone: its
statements have the same JSON values and the same canonical texts, unless an expression is
nested too deeply once there is a function around it, and then nothing is read. -/
theorem parse_functionText (source : String) (noErrors : (parse source).errors = []) :
    (parse (functionText source)).abandoned = none ∧
      (((parse (functionText source)).errors = [] ∧
          ∃ start word opening body,
            (parse (functionText source)).program =
              .program [.expressionStatement start (.function word [] (.block opening body))] ∧
            body.map Node.record = (parse source).statements.map Node.record ∧
            body.map Node.render = (parse source).statements.map Node.render) ∨
        ((parse (functionText source)).errors = ["expression nested too deeply"] ∧
          (parse (functionText source)).program = .program [])) := by
  obtain ⟨statements, separated, yields, sameTrees⟩ :=
    exists_statements_behind "fn() \x7b".toList noErrors
  obtain ⟨whole, start, separatedWhole, yieldsWhole, isTree⟩ :=
    exists_functionStatement separated (closingBrace source)
  have isYield : (tokenize (functionText source)).dropLast = yieldAll [whole] := by
    rw [tokenize_dropLast, TokenStream.upcoming_functionText, yields, yieldAll, yieldAll,
      yieldsWhole, List.append_nil]
  obtain ⟨_, _, _, isParse⟩ := parseWith_eq nestingLimit (functionText source)
  refine ⟨congrArg Parsed.abandoned isParse, ?_⟩
  by_cases enough : whole.need ≤ 100
  · left
    rw [parse_eq_of_need_le separatedWhole isYield (List.forall_mem_singleton.mpr enough)]
    refine ⟨rfl, start, word.token, openingBrace.token, treesAll statements, ?_,
      Node.map_record_of_unplaced sameTrees, Node.map_render_of_unplaced sameTrees⟩
    rw [Parsed.program, treesAll, treesAll, isTree]
  · right
    obtain ⟨isError, noStatements⟩ := parse_of_lt_need separatedWhole isYield
      ⟨whole, List.mem_singleton_self _, Nat.lt_of_not_le enough⟩
    refine ⟨isError, ?_⟩
    rw [Parsed.program, noStatements, List.takeWhile_cons_of_neg (by simpa using enough),
      treesAll]

/-- A binding without a semicolon and a call behind it, as a body. -/
theorem parse_functionText_binding :
    (parse "let b = !a f(b, 1)").errors = [] ∧
      ∃ start word opening body,
        (parse (functionText "let b = !a f(b, 1)")).program =
          .program [.expressionStatement start (.function word [] (.block opening body))] ∧
        body.map Node.render = (parse "let b = !a f(b, 1)").statements.map Node.render := by
  have noErrors : (parse "let b = !a f(b, 1)").errors = [] := by decide +kernel
  refine ⟨noErrors, ?_⟩
  rcases (parse_functionText _ noErrors).2 with
    ⟨-, start, word, opening, body, isProgram, -, sameTexts⟩ | ⟨isError, -⟩
  · exact ⟨start, word, opening, body, isProgram, sameTexts⟩
  · exact absurd isError (by decide +kernel)

end MonkeySyntax
