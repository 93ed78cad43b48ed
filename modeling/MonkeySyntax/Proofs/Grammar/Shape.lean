import MonkeySyntax.Proofs.Grammar.Derivation

/-!
Contract: how derivations begin, and on which levels they stand.

Owns:
- the kinds that start an expression or a statement, and that every yield starts
  with one of them;
- the yield and the trees of some statements as those of each;
- the passage of an expression of one level to every looser level;
- the level up to which a parser that stops at some level reads.
-/

set_option autoImplicit false

namespace MonkeySyntax

namespace Precedence

/-- The loosest level of an expression behind an operator of some level. Behind an
operator in front of its operand stands another one of the same level. -/
def operand : Precedence → Precedence
  | .unary => .unary
  | .call => .unary
  | level => level.tighter

theorem rank_tighter {level : Precedence} (looser : level < .call) :
    level.tighter.rank = level.rank + 1 := by
  cases level <;> first | rfl | exact absurd looser (by decide)

theorem rank_le_tighter (level : Precedence) : level.rank ≤ level.tighter.rank := by
  cases level <;> decide

theorem rank_le_call (level : Precedence) : level.rank ≤ Precedence.call.rank := by
  cases level <;> decide

theorem eq_of_rank_eq {level other : Precedence} (same : level.rank = other.rank) :
    level = other := by
  cases level <;> cases other <;> first | rfl | exact absurd same (by decide)

theorem lowest_lt_of_lt {level other : Precedence} (looser : level < other) : .lowest < other := by
  cases other <;> first | decide | exact absurd looser (not_lt_lowest level)

theorem lowest_lt_operand (level : Precedence) : .lowest < level.operand := by
  cases level <;> decide

theorem operand_of_binary {level : Precedence} (isLevel : .lowest < level)
    (isBinary : level < .unary) : level.operand = level.tighter := by
  cases level <;> first | rfl | exact absurd isLevel (by decide) | exact absurd isBinary (by decide)

theorem rank_operand_le {level other : Precedence} (looser : level < other) :
    level.operand.rank ≤ other.rank := by
  cases level <;> cases other <;> first | decide | exact absurd looser (by decide)

theorem rank_le_operand {level : Precedence} (below : level < .call) :
    level.rank ≤ level.operand.rank := by
  cases level <;> first | decide | exact absurd below (by decide)

theorem lt_of_operand_le {level other : Precedence} (isBinary : other < .unary)
    (atMost : level.operand.rank ≤ other.rank) : level < other := by
  cases level <;> cases other <;>
    first | decide | exact absurd atMost (by decide) | exact absurd isBinary (by decide)

end Precedence

namespace Grammar

/-! ### The first token -/

/-- The kinds that an expression can start with. -/
def starting : List TokenKind :=
  [.ident, .int, .trueWord, .falseWord, .bang, .minus, .leftParen, .ifWord, .functionWord]

theorem Terminal.kind_eq {kind : TokenKind} (terminal : Terminal [kind]) :
    terminal.token.kind = kind :=
  List.mem_singleton.mp terminal.kind_mem

theorem Expr.first_mem_starting :
    {level : Precedence} → (derivation : Expr level) → derivation.first.kind ∈ starting
  | _, .identifier name => by rw [first, name.kind_eq]; decide
  | _, .integer numeral => by rw [first, numeral.kind_eq]; decide
  | _, .boolean word => by
      have included : [.trueWord, .falseWord] ⊆ starting := by decide
      exact included word.kind_mem
  | _, .group opening _ _ => by rw [first, opening.kind_eq]; decide
  | _, .conditional word _ _ _ _ _ => by rw [first, word.kind_eq]; decide
  | _, .function word _ _ _ _ => by rw [first, word.kind_eq]; decide
  | _, .call callee _ _ _ => callee.first_mem_starting
  | _, .unary operator _ => by
      have included : [.bang, .minus] ⊆ starting := by decide
      exact included operator.kind_mem
  | _, .binary left _ _ => left.first_mem_starting
  | _, .pass _ _ inside => inside.first_mem_starting

theorem Expr.yield_eq_cons :
    {level : Precedence} → (derivation : Expr level) →
      ∃ others, derivation.yield = derivation.first :: others
  | _, .identifier _ => ⟨_, rfl⟩
  | _, .integer _ => ⟨_, rfl⟩
  | _, .boolean _ => ⟨_, rfl⟩
  | _, .group _ _ _ => ⟨_, rfl⟩
  | _, .conditional _ _ _ _ _ _ => ⟨_, rfl⟩
  | _, .function _ _ _ _ _ => ⟨_, rfl⟩
  | _, .call callee _ _ _ => by
      obtain ⟨others, yields⟩ := callee.yield_eq_cons
      exact ⟨_, by rw [yield, yields, first, List.cons_append]⟩
  | _, .unary _ _ => ⟨_, rfl⟩
  | _, .binary left _ _ => by
      obtain ⟨others, yields⟩ := left.yield_eq_cons
      exact ⟨_, by rw [yield, yields, first, List.cons_append]⟩
  | _, .pass _ _ inside => by
      obtain ⟨others, yields⟩ := inside.yield_eq_cons
      exact ⟨_, by rw [yield, yields, first]⟩

/-- Every statement has a first token, which starts an expression or is one of the
words for a binding and for a result. -/
theorem Statement.yield_eq_cons (statement : Statement) :
    ∃ first others, statement.yield = first :: others ∧
      first.kind ∈ .letWord :: .returnWord :: starting := by
  cases statement with
  | letStatement word _ _ _ _ =>
      exact ⟨word.token, _, rfl, by rw [word.kind_eq]; decide⟩
  | returnStatement word _ _ =>
      exact ⟨word.token, _, rfl, by rw [word.kind_eq]; decide⟩
  | expressionStatement value _ =>
      obtain ⟨others, yields⟩ := value.yield_eq_cons
      refine ⟨value.first, _, by rw [yield, yields, List.cons_append], ?_⟩
      exact List.mem_cons_of_mem _ (List.mem_cons_of_mem _ value.first_mem_starting)

theorem Expr.need_pos : {level : Precedence} → (derivation : Expr level) → 1 ≤ derivation.need
  | _, .identifier _ => Nat.le_refl 1
  | _, .integer _ => Nat.le_refl 1
  | _, .boolean _ => Nat.le_refl 1
  | _, .group _ _ _ => by rw [need]; omega
  | _, .conditional _ _ _ _ _ _ => by rw [need]; omega
  | _, .function _ _ _ _ _ => by rw [need]; omega
  | _, .call callee _ _ _ => by
      have needed := callee.need_pos
      rw [need]
      omega
  | _, .unary _ _ => by rw [need]; omega
  | _, .binary left _ _ => by
      have needed := left.need_pos
      rw [need]
      omega
  | _, .pass _ _ inside => inside.need_pos

theorem Expr.separated_binary {level : Precedence} {left : Expr level}
    {operator : Terminal (operatorsAt level)} {right : Expr level.tighter} :
    (Expr.binary left operator right).Separated ↔ left.Separated ∧ right.Separated := by
  rw [Separated]

/-! ### Some statements -/

theorem yieldAll_eq_flatMap (statements : List Statement) :
    yieldAll statements = statements.flatMap Statement.yield := by
  induction statements with
  | nil => rfl
  | cons statement statements inductionHypothesis =>
      rw [yieldAll, inductionHypothesis, List.flatMap_cons]

theorem treesAll_eq_map (statements : List Statement) :
    treesAll statements = statements.map Statement.tree := by
  induction statements with
  | nil => rfl
  | cons statement statements inductionHypothesis =>
      rw [treesAll, inductionHypothesis, List.map_cons]

/-! ### Levels -/

theorem operatorsAt_le_product {level : Precedence} {kind : TokenKind}
    (listed : kind ∈ operatorsAt level) :
    Precedence.lowest < level ∧ level < .unary := by
  cases level <;> first | decide | cases listed

/-- Two derivations of the same tokens with the same tree and need. -/
structure Expr.Same {level other : Precedence} (derivation : Expr level)
    (copy : Expr other) : Prop where
  yield : copy.yield = derivation.yield
  tree : copy.tree = derivation.tree
  need : copy.need = derivation.need
  separated : derivation.Separated → copy.Separated

/-- An expression of a level is one of every looser level, by steps that leave no
trace. -/
theorem Expr.exists_looser {level : Precedence} (derivation : Expr level) (looser : Precedence)
    (isLevel : .lowest < looser) (atMost : looser.rank ≤ level.rank) :
    ∃ copy : Expr looser, derivation.Same copy := by
  obtain ⟨steps, apart⟩ := Nat.exists_eq_add_of_le atMost
  induction steps generalizing looser with
  | zero =>
      have same : looser = level := Precedence.eq_of_rank_eq apart.symm
      subst same
      exact ⟨derivation, rfl, rfl, rfl, id⟩
  | succ steps inductionHypothesis =>
      have atMostCall := Precedence.rank_le_call level
      have below : looser < .call := by
        rw [Precedence.lt_iff_rank_lt]
        omega
      have next := Precedence.rank_tighter below
      obtain ⟨copy, same⟩ := inductionHypothesis looser.tighter
        (Nat.lt_of_lt_of_le isLevel (Precedence.rank_le_tighter looser)) (by omega) (by omega)
      exact ⟨.pass isLevel below copy, same.yield, same.tree, same.need, same.separated⟩

end Grammar

end MonkeySyntax
