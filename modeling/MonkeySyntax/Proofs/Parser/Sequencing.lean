import MonkeySyntax.Proofs.Grammar.Closing
import MonkeySyntax.Proofs.Parser.Completeness
import MonkeySyntax.Proofs.Parser.Soundness
import MonkeySyntax.Proofs.Parser.Unplaced
import MonkeySyntax.Proofs.Token.Joining

/-!
Contract: a text without errors in front of another text leaves no trace on it.

Owns:
- that the loop over a program only puts new statements behind those it carries;
- that closing a text without errors changes none of its statements;
- the parse of such a text and any other one behind it.

Does not own: texts with errors in front of others.
-/

set_option autoImplicit false

namespace MonkeySyntax

open Grammar

namespace Parser

/-- The statements that a program starts from come out in front of those that it reads. -/
theorem program_behind {levels : Nat} (earlier : List Node) {carried result : List Node}
    {state after : State}
    (ran : repeatTurns (programTurn (Rules.standard.expression levels)) carried state =
      .ok result after) :
    repeatTurns (programTurn (Rules.standard.expression levels)) (carried ++ earlier) state =
      .ok (earlier.reverse ++ result) after := by
  have taking := taking_programTurn (proceeds_expression levels)
  apply repeatTurns_ok_recursion taking
    (motive := fun carried state result after =>
      repeatTurns (programTurn (Rules.standard.expression levels)) (carried ++ earlier) state =
        .ok (earlier.reverse ++ result) after) ?again ?done ran
  case again =>
    intro carried state following between result after turned _ later
    obtain ⟨unfinished, read, ended, readStatement, rfl, rfl⟩ := exists_statement_of_again turned
    rw [List.append_assoc] at later
    rw [repeatTurns_again taking (programTurn_of_ok unfinished readStatement)]
    exact later
  case done =>
    intro carried state result between turned
    obtain ⟨rfl, ⟨ended, rfl⟩ | ⟨unfinished, ended, failed, rfl⟩⟩ :=
      ended_or_tooDeep_of_done turned
    · rw [repeatTurns_done (programTurn_of_ended ended), List.reverse_append]
    · rw [repeatTurns_done (programTurn_of_tooDeep unfinished failed), List.reverse_append]

end Parser

section

variable {source first : String}

/-- No statement of a text without errors needs more levels than there are. -/
theorem need_le_of_errors_eq_nil {statements : List Statement}
    (noErrors : (parse source).errors = []) (separated : SeparatedAll statements)
    (yields : (TokenStream.ofString source).upcoming = yieldAll statements) :
    ∀ statement ∈ statements, statement.need ≤ nestingLimit := by
  intro statement listed
  by_contra exceeds
  have yieldsTokens : (tokenize source).dropLast = yieldAll statements := by
    rw [tokenize_dropLast, yields]
  have tooDeep := parse_of_lt_need separated yieldsTokens
    ⟨statement, listed, Nat.lt_of_not_le exceeds⟩
  rw [tooDeep.1] at noErrors
  cases noErrors

theorem endsClosed_iff {statements : List Statement}
    (yields : (TokenStream.ofString source).upcoming = yieldAll statements) :
    EndsClosed source ↔ ClosedAll statements := by
  rw [EndsClosed, tokenize_dropLast, yields, closedAll_iff]

/-- The tokens of a text without errors are derived when the text is closed, by closed
statements with the same trees. -/
theorem exists_statements_of_closedText (noErrors : (parse first).errors = []) :
    ∃ statements : List Statement, (parse first).statements = treesAll statements ∧
      SeparatedAll statements ∧ ClosedAll statements ∧
      (∀ statement ∈ statements, statement.need ≤ nestingLimit) ∧
      (TokenStream.ofString (closedText first)).upcoming = yieldAll statements := by
  obtain ⟨statements, isTree, separated, yields⟩ := exists_statements_of_errors_eq_nil noErrors
  have enough := need_le_of_errors_eq_nil noErrors separated yields
  unfold closedText
  by_cases endsClosed : EndsClosed first
  · rw [if_pos endsClosed]
    exact ⟨statements, isTree, separated, (endsClosed_iff yields).mp endsClosed, enough, yields⟩
  · rw [if_neg endsClosed, TokenStream.ofString_semicolon, yields]
    obtain ⟨closed, isClosed, separatedClosed, yieldsClosed, sameTrees, sameNeeds⟩ :=
      exists_closed ⟨Token.ofPlace (.behind first.toList) .semicolon ";", List.mem_singleton_self _⟩
        separated fun isClosed => endsClosed ((endsClosed_iff yields).mpr isClosed)
    refine ⟨closed, isTree.trans sameTrees.symm, separatedClosed, isClosed, ?_, yieldsClosed.symm⟩
    intro statement listed
    have isNeed : statement.need ∈ statements.map Statement.need :=
      sameNeeds ▸ List.mem_map_of_mem listed
    obtain ⟨original, originalListed, sameNeed⟩ := List.mem_map.mp isNeed
    rw [← sameNeed]
    exact enough original originalListed

end

/-- Behind a text without errors another text is parsed as it is parsed alone, but for the
positions of its tokens. -/
theorem exists_statements_of_joined (first second : String)
    (noErrors : (parse first).errors = []) :
    ∃ behind, (parse (joined first second)).statements = (parse first).statements ++ behind ∧
      behind.map Node.unplaced = (parse second).statements.map Node.unplaced ∧
      (parse (joined first second)).errors = (parse second).errors ∧
      (parse (joined first second)).abandoned = none := by
  obtain ⟨statements, isTree, separated, isClosed, enough, yields⟩ :=
    exists_statements_of_closedText noErrors
  -- The second text, where it stands behind the first one.
  let moved : TokenStream :=
    (⟨second.toList, .behind (closedText first).toList⟩ : Cursor).tokens
  obtain ⟨behind, ended, ranMoved, sameStatements, sameErrors⟩ :=
    exists_program_behind (closedText first).toList second
  -- The loop over the whole text reads the first one and goes on with the second one.
  have isStream : TokenStream.ofString (joined first second) =
      ⟨yieldAll statements ++ moved.upcoming, moved.finish⟩ := by
    rw [joined, TokenStream.ofString_append (endsClosed_closedText first), yields]
  have passed := Parser.program_append nestingLimit separated enough moved.upcoming
    (fun last isLast isOpen => absurd isOpen (isClosed last isLast)) []
    (.start (.ofString (joined first second)))
  have ranBehind := Parser.program_behind (treesAll statements).reverse ranMoved
  rw [List.reverse_reverse, List.nil_append] at ranBehind
  obtain ⟨whole, finish, ranWhole, isParseWhole⟩ := parseWith_eq nestingLimit (joined first second)
  change parse (joined first second) = _ at isParseWhole
  rw [isStream] at passed ranWhole
  rw [List.append_nil] at passed
  cases (passed.trans ranBehind).symm.trans ranWhole
  rw [isParseWhole, isTree]
  exact ⟨behind, rfl, sameStatements, sameErrors, rfl⟩

/-- Behind a text without errors, which a semicolon is put to unless it is closed, any text
has the errors that it has alone. The statements are those of the first text and behind
them those of the second one, of which only the positions of the tokens may differ: neither
their JSON values nor their canonical texts do. -/
theorem parse_joined (first second : String) (noErrors : (parse first).errors = []) :
    (parse (joined first second)).abandoned = none ∧
      (parse (joined first second)).errors = (parse second).errors ∧
      (parse (joined first second)).statements.map Node.unplaced =
        ((parse first).statements ++ (parse second).statements).map Node.unplaced ∧
      (parse (joined first second)).statements.map Node.record =
        (parse first).statements.map Node.record ++ (parse second).statements.map Node.record ∧
      (parse (joined first second)).statements.map Node.render =
        (parse first).statements.map Node.render ++
          (parse second).statements.map Node.render := by
  obtain ⟨behind, isStatements, sameTrees, sameErrors, notAbandoned⟩ :=
    exists_statements_of_joined first second noErrors
  rw [isStatements]
  refine ⟨notAbandoned, sameErrors, ?_, ?_, ?_⟩
  · rw [List.map_append, List.map_append, sameTrees]
  · rw [List.map_append, Node.map_record_of_unplaced sameTrees]
  · rw [List.map_append, Node.map_render_of_unplaced sameTrees]

/-- A binding that is not closed, in front of a text in which an operand is missing. -/
theorem parse_joined_binding :
    (parse "let a = 1").errors = [] ∧
      (parse "let a = 1;b + ; c").errors = (parse "b + ; c").errors ∧
      (parse "let a = 1;b + ; c").statements.map Node.render =
        (parse "let a = 1").statements.map Node.render ++
          (parse "b + ; c").statements.map Node.render := by
  have noErrors : (parse "let a = 1").errors = [] := by decide +kernel
  have isJoined : joined "let a = 1" "b + ; c" = "let a = 1;b + ; c" := by decide +kernel
  obtain ⟨-, sameErrors, -, -, sameTexts⟩ := parse_joined "let a = 1" "b + ; c" noErrors
  rw [isJoined] at sameErrors sameTexts
  exact ⟨noErrors, sameErrors, sameTexts⟩

end MonkeySyntax
