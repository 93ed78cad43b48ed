import MonkeySyntax.Parser.Rules
import MonkeySyntax.Proofs.Grammar.Phrase

/-!
Contract: the rule tables of the language, against the grammar's lists of kinds.

Owns:
- which kinds have an opening rule, and that none of them is the rule of a program;
- which kinds have a continuation rule, and the level of each.
-/

set_option autoImplicit false

namespace MonkeySyntax

namespace TokenKind

theorem precedence_of_mem_operatorsAt {kind : TokenKind} {level : Precedence}
    (listed : kind ∈ Grammar.operatorsAt level) : kind.precedence = level := by
  have all : ∀ level ∈ Precedence.all, ∀ kind ∈ Grammar.operatorsAt level,
      precedence kind = level := by decide
  exact all level (by cases level <;> decide) kind listed

/-- The kinds that go on with an expression are those above the lowest level. -/
theorem lowest_lt_precedence_iff (kind : TokenKind) :
    .lowest < kind.precedence ↔ kind ∈ Grammar.continuing := by
  have all : ∀ kind ∈ TokenKind.all,
      (.lowest < kind.precedence ↔ kind ∈ Grammar.continuing) := by decide
  exact all kind kind.mem_all

theorem mem_operatorsAt_precedence {kind : TokenKind} (above : .lowest < kind.precedence)
    (notCall : kind ≠ .leftParen) : kind ∈ Grammar.operatorsAt kind.precedence := by
  have all : ∀ kind ∈ TokenKind.all, .lowest < kind.precedence → kind ≠ .leftParen →
      kind ∈ Grammar.operatorsAt kind.precedence := by decide
  exact all kind kind.mem_all above notCall

end TokenKind

namespace Parser.Rules

theorem isSome_opening_iff (kind : TokenKind) :
    (standard.opening kind).isSome = true ↔ kind ∈ Grammar.starting := by
  have all : ∀ kind ∈ TokenKind.all,
      ((standard.opening kind).isSome = true ↔ kind ∈ Grammar.starting) := by decide
  exact all kind kind.mem_all

/-- The opening rules of the language, with the kinds that lead to them. -/
inductive Opens : TokenKind → OpeningRule → Prop where
  | identifier : Opens .ident .identifier
  | integer : Opens .int .integer
  | boolean {kind : TokenKind} (listed : kind ∈ [.trueWord, .falseWord]) : Opens kind .boolean
  | unary {kind : TokenKind} (listed : kind ∈ [.bang, .minus]) : Opens kind .unary
  | group : Opens .leftParen .group
  | conditional : Opens .ifWord .conditional
  | function : Opens .functionWord .function

theorem opens_of_opening {kind : TokenKind} {rule : OpeningRule}
    (found : standard.opening kind = some rule) : Opens kind rule := by
  have listed : (kind, rule) ∈ standardOpenings := by
    obtain ⟨before, behind, divided, -⟩ := List.lookup_eq_some_iff.mp found
    rw [divided]
    exact List.mem_append_right _ List.mem_cons_self
  simp only [standardOpenings, List.mem_cons, List.not_mem_nil, Prod.mk.injEq, or_false] at listed
  rcases listed with ⟨rfl, rfl⟩ | ⟨rfl, rfl⟩ | ⟨rfl, rfl⟩ | ⟨rfl, rfl⟩ | ⟨rfl, rfl⟩ | ⟨rfl, rfl⟩ |
    ⟨rfl, rfl⟩ | ⟨rfl, rfl⟩ | ⟨rfl, rfl⟩
  · exact .identifier
  · exact .integer
  · exact .boolean (by decide)
  · exact .boolean (by decide)
  · exact .unary (by decide)
  · exact .unary (by decide)
  · exact .group
  · exact .conditional
  · exact .function

/-- By a table, the kinds that start an expression lead to what they lead to in the language. -/
def Regular (rules : Rules) : Prop :=
  ∀ kind rule, rules.opening kind = some rule → Opens kind rule

theorem regular_standard : standard.Regular := fun _ _ => opens_of_opening

theorem opening_of_opens {kind : TokenKind} {rule : OpeningRule} (opens : Opens kind rule) :
    standard.opening kind = some rule := by
  cases opens with
  | boolean listed =>
      have all : ∀ kind ∈ [TokenKind.trueWord, .falseWord],
          standard.opening kind = some .boolean := by decide
      exact all kind listed
  | unary listed =>
      have all : ∀ kind ∈ [TokenKind.bang, .minus], standard.opening kind = some .unary := by decide
      exact all kind listed
  | identifier => rfl
  | integer => rfl
  | group => rfl
  | conditional => rfl
  | function => rfl

/-- The continuation rules of the language, with the kinds that lead to them. -/
inductive Continues : TokenKind → ContinuationRule → Prop where
  | binary {kind : TokenKind} (listed : kind ∈ Grammar.binaryOperators) : Continues kind .binary
  | call : Continues .leftParen .call

theorem continues_of_continuation {kind : TokenKind} {rule : ContinuationRule}
    (found : standard.continuation kind = some rule) : Continues kind rule := by
  have all : ∀ kind ∈ TokenKind.all, standard.continuation kind = none ∨
      standard.continuation kind = some .binary ∧ kind ∈ Grammar.binaryOperators ∨
      standard.continuation kind = some .call ∧ kind = .leftParen := by decide
  rcases all kind kind.mem_all with none | ⟨isBinary, listed⟩ | ⟨isCall, rfl⟩
  · rw [none] at found
    cases found
  · rw [isBinary] at found
    cases found
    exact .binary listed
  · cases found
    exact .call

theorem continuation_leftParen : standard.continuation .leftParen = some .call := rfl

theorem continuation_of_operator {kind : TokenKind} (above : .lowest < kind.precedence)
    (notCall : kind ≠ .leftParen) : standard.continuation kind = some .binary := by
  have all : ∀ kind ∈ TokenKind.all, .lowest < kind.precedence → kind ≠ .leftParen →
      standard.continuation kind = some .binary := by decide
  exact all kind kind.mem_all above notCall

theorem exists_continuation {kind : TokenKind} (above : .lowest < kind.precedence) :
    ∃ rule, standard.continuation kind = some rule := by
  by_cases isCall : kind = .leftParen
  · exact ⟨.call, by rw [isCall, continuation_leftParen]⟩
  · exact ⟨.binary, continuation_of_operator above isCall⟩

end Parser.Rules

end MonkeySyntax
