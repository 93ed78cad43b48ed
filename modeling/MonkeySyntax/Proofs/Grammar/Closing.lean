import MonkeySyntax.Proofs.Grammar.Shape

/-!
Contract: how derivations end, and how statements are closed.

Owns:
- the kinds that end an expression, none of which is a semicolon;
- that a semicolon ends the tokens of some statements just when it closes the last of
  them;
- closing the last statement with a semicolon, which changes nothing but the tokens.

Does not own: what a parser makes of a statement that is not closed.
-/

set_option autoImplicit false

namespace MonkeySyntax

namespace Grammar

/-! ### The last token -/

/-- The kinds that an expression can end with. -/
def finishing : List TokenKind :=
  [.ident, .int, .trueWord, .falseWord, .rightParen, .rightBrace]

/-- Some tokens end with one of a kind that an expression can end with. -/
def Finished (tokens : List Token) : Prop :=
  ∃ others last, tokens = others ++ [last] ∧ last.kind ∈ finishing

theorem Finished.append_left {tokens : List Token} (finished : Finished tokens)
    (before : List Token) : Finished (before ++ tokens) := by
  obtain ⟨others, last, rfl, listed⟩ := finished
  exact ⟨before ++ others, last, (List.append_assoc _ _ _).symm, listed⟩

theorem Finished.cons {tokens : List Token} (finished : Finished tokens) (token : Token) :
    Finished (token :: tokens) :=
  finished.append_left [token]

theorem finished_singleton {token : Token} (listed : token.kind ∈ finishing) :
    Finished [token] :=
  ⟨[], token, rfl, listed⟩

theorem Block.finished_yield : (block : Block) → Finished block.yield
  | .braces opening statements closing => by
      have listed : closing.token.kind ∈ finishing := by rw [closing.kind_eq]; decide
      rw [Block.yield]
      exact ((finished_singleton listed).append_left _).cons _

theorem Expr.finished_yield :
    {level : Precedence} → (derivation : Expr level) → Finished derivation.yield
  | _, .identifier name => finished_singleton (by rw [name.kind_eq]; decide)
  | _, .integer numeral => finished_singleton (by rw [numeral.kind_eq]; decide)
  | _, .boolean word => by
      have included : [.trueWord, .falseWord] ⊆ finishing := by decide
      exact finished_singleton (included word.kind_mem)
  | _, .group opening inside closing => by
      have listed : closing.token.kind ∈ finishing := by rw [closing.kind_eq]; decide
      rw [yield]
      exact ((finished_singleton listed).append_left _).cons _
  | _, .conditional word opening condition closing consequence alternative => by
      have finished : Finished (consequence.yield ++ alternative.yield) := by
        cases alternative with
        | none => simpa [Alternative.yield] using consequence.finished_yield
        | block word block => exact (block.finished_yield.cons _).append_left _
      rw [yield]
      exact (((finished.cons _).append_left _).cons _).cons _
  | _, .function word opening parameters closing body => by
      rw [yield]
      exact (((body.finished_yield.cons _).append_left _).cons _).cons _
  | _, .call callee opening arguments closing => by
      have listed : closing.token.kind ∈ finishing := by rw [closing.kind_eq]; decide
      rw [yield]
      exact (((finished_singleton listed).append_left _).cons _).append_left _
  | _, .unary operator operand => by
      rw [yield]
      exact operand.finished_yield.cons _
  | _, .binary left operator right => by
      rw [yield]
      exact (right.finished_yield.cons _).append_left _
  | _, .pass _ _ inside => by
      rw [yield]
      exact inside.finished_yield

/-- The tokens of a statement without its semicolon end as an expression does. -/
theorem Statement.exists_yield_eq (statement : Statement) :
    ∃ tokens, Finished tokens ∧ statement.yield = tokens ++ yieldEnding statement.ending := by
  cases statement with
  | letStatement word name sign value ending =>
      exact ⟨_, ((value.finished_yield.cons _).cons _).cons _, rfl⟩
  | returnStatement word value ending => exact ⟨_, value.finished_yield.cons _, rfl⟩
  | expressionStatement value ending => exact ⟨_, value.finished_yield, rfl⟩

/-- A semicolon ends the tokens of a statement just when it closes the statement. -/
theorem Statement.exists_last (statement : Statement) :
    ∃ others last, statement.yield = others ++ [last] ∧
      (last.kind = .semicolon ↔ statement.ending ≠ none) := by
  obtain ⟨tokens, ⟨others, last, rfl, listed⟩, yields⟩ := statement.exists_yield_eq
  cases isEnding : statement.ending with
  | none =>
      rw [isEnding] at yields
      refine ⟨others, last, yields.trans (List.append_nil _), ?_⟩
      have notSemicolon : last.kind ≠ .semicolon := ne_of_mem_of_not_mem listed (by decide)
      exact iff_of_false notSemicolon fun different => different rfl
  | some semicolon =>
      rw [isEnding] at yields
      exact ⟨_, semicolon.token, yields, iff_of_true semicolon.kind_eq nofun⟩

/-! ### Some statements and one more -/

theorem yieldAll_concat (statements : List Statement) (last : Statement) :
    yieldAll (statements ++ [last]) = yieldAll statements ++ last.yield := by
  rw [yieldAll_eq_flatMap, List.flatMap_append, List.flatMap_singleton, yieldAll_eq_flatMap]

/-- Some statements of which the last one is closed, if there is any. -/
def ClosedAll (statements : List Statement) : Prop :=
  ∀ last ∈ statements.getLast?, last.ending ≠ none

/-- A semicolon ends the tokens of some statements just when it closes the last one. -/
theorem closedAll_iff {statements : List Statement} :
    ClosedAll statements ↔ ∀ token ∈ (yieldAll statements).getLast?, token.kind = .semicolon := by
  rcases List.eq_nil_or_concat statements with rfl | ⟨others, last, rfl⟩
  · exact iff_of_true nofun nofun
  · obtain ⟨tokens, token, yields, isSemicolon⟩ := last.exists_last
    rw [List.concat_eq_append, yieldAll_concat, yields, ← List.append_assoc, ClosedAll,
      List.getLast?_concat, List.getLast?_concat]
    simp only [Option.mem_some_iff, forall_eq', isSemicolon]

/-! ### Closing -/

variable (semicolon : Terminal [.semicolon])

/-- A statement with a semicolon behind it. -/
def Statement.closed : Statement → Statement
  | .letStatement word name sign value _ => .letStatement word name sign value (some semicolon)
  | .returnStatement word value _ => .returnStatement word value (some semicolon)
  | .expressionStatement value _ => .expressionStatement value (some semicolon)

namespace Statement

variable (statement : Statement)

theorem ending_closed : (statement.closed semicolon).ending = some semicolon := by
  cases statement <;> rfl

theorem tree_closed : (statement.closed semicolon).tree = statement.tree := by
  cases statement <;> rfl

theorem need_closed : (statement.closed semicolon).need = statement.need := by
  cases statement <;> rfl

theorem separated_closed : (statement.closed semicolon).Separated ↔ statement.Separated := by
  cases statement <;> exact Iff.rfl

theorem yield_closed {statement : Statement} (isOpen : statement.ending = none) :
    (statement.closed semicolon).yield = statement.yield ++ [semicolon.token] := by
  cases statement <;> cases isOpen <;>
    simp [closed, yield, yieldEnding]

end Statement

variable {statements : List Statement}

theorem yieldAll_closed {last : Statement} (isOpen : last.ending = none) :
    yieldAll (statements ++ [last.closed semicolon]) =
      yieldAll (statements ++ [last]) ++ [semicolon.token] := by
  rw [yieldAll_concat, yieldAll_concat, Statement.yield_closed semicolon isOpen, List.append_assoc]

/-- The semicolon is put behind a token, so the first token stays the same. -/
theorem head_yieldAll_closed {last : Statement} (isOpen : last.ending = none) :
    (yieldAll (statements ++ [last.closed semicolon])).head? =
      (yieldAll (statements ++ [last])).head? := by
  obtain ⟨others, token, yields, -⟩ := last.exists_last
  have isNonempty : yieldAll (statements ++ [last]) ≠ [] := by
    rw [yieldAll_concat, yields]
    simp
  obtain ⟨first, behind, starts⟩ := List.exists_cons_of_ne_nil isNonempty
  rw [yieldAll_closed semicolon isOpen, starts]
  rfl

/-- A statement can be closed where no other one follows. -/
theorem separatedAll_closed {last : Statement} (isOpen : last.ending = none)
    (separated : SeparatedAll (statements ++ [last])) :
    SeparatedAll (statements ++ [last.closed semicolon]) := by
  induction statements with
  | nil =>
      refine ⟨(last.separated_closed semicolon).mpr separated.1, fun alsoOpen => ?_, trivial⟩
      rw [last.ending_closed semicolon] at alsoOpen
      cases alsoOpen
  | cons statement statements inductionHypothesis =>
      rw [List.cons_append] at separated ⊢
      obtain ⟨separatedFirst, follows, separatedLater⟩ := separated
      refine ⟨separatedFirst, fun alsoOpen => ?_, inductionHypothesis separatedLater⟩
      -- What follows an open statement is judged by its first token only.
      rw [head_yieldAll_closed semicolon isOpen]
      exact follows alsoOpen

/-- Some statements whose last one is not closed, with a semicolon behind them. -/
theorem exists_closed (separated : SeparatedAll statements)
    (isOpen : ¬ ClosedAll statements) :
    ∃ closed : List Statement, ClosedAll closed ∧ SeparatedAll closed ∧
      yieldAll closed = yieldAll statements ++ [semicolon.token] ∧
      treesAll closed = treesAll statements ∧
      closed.map Statement.need = statements.map Statement.need := by
  rcases List.eq_nil_or_concat statements with rfl | ⟨others, last, rfl⟩
  · exact absurd nofun isOpen
  · rw [List.concat_eq_append] at separated isOpen ⊢
    have lastOpen : last.ending = none := by
      rw [ClosedAll, List.getLast?_concat] at isOpen
      simpa using isOpen
    refine ⟨others ++ [last.closed semicolon], ?_, separatedAll_closed semicolon lastOpen separated,
      ?_, ?_, ?_⟩
    · rw [ClosedAll, List.getLast?_concat]
      rintro _ ⟨⟩
      rw [last.ending_closed semicolon]
      nofun
    · exact yieldAll_closed semicolon lastOpen
    · rw [treesAll_eq_map, List.map_append, List.map_singleton, last.tree_closed semicolon,
        treesAll_eq_map, List.map_append, List.map_singleton]
    · rw [List.map_append, List.map_append, List.map_singleton, List.map_singleton,
        last.need_closed semicolon]

end Grammar

end MonkeySyntax
