import MonkeySyntax.Proofs.Grammar.Shape

/-!
Contract: what an expression becomes when the tokens behind it go on with it.

Owns:
- an operator and its right operand, or the arguments of a call, behind any expression;
- an expression behind another one, where its first token goes on with the first one;
- two texts of separated statements, one behind the other, as one such text.

Does not own: how a parser comes to read two statements as one.

A minus in front of an operand becomes an operator between two, and a group becomes the
argument of a call. Either one belongs to the right edge of what stands before it, so that
the trees change while every token still has its place.
-/

set_option autoImplicit false

namespace MonkeySyntax

namespace Grammar

/-! ### The right edge of an expression -/

/-- Behind an expression of a level an operator that binds no looser can follow, with its
right operand. -/
theorem Expr.exists_operator {level : Precedence} (operator : Terminal (operatorsAt level))
    {right : Expr level.tighter} (separatedRight : right.Separated) :
    {own : Precedence} → (left : Expr own) → left.Separated → own.rank ≤ level.rank →
      ∃ whole : Expr own, whole.yield = left.yield ++ operator.token :: right.yield ∧
        whole.Separated := by
  intro own left separated atMost
  have isBinary := (operatorsAt_le_product operator.kind_mem).2
  by_cases same : own = level
  · subst same
    exact ⟨.binary left operator right, rfl, Expr.separated_binary.mpr ⟨separated, separatedRight⟩⟩
  have below : own.rank < level.rank :=
    Nat.lt_of_le_of_ne atMost fun sameRank => same (Precedence.eq_of_rank_eq sameRank)
  have belowUnary : own.rank < Precedence.unary.rank := Nat.lt_trans below isBinary
  have tighter := Precedence.rank_tighter (Nat.lt_trans belowUnary (by decide) : own < .call)
  cases left with
  | binary left earlier inner =>
      obtain ⟨separatedLeft, separatedInner⟩ := Expr.separated_binary.mp separated
      obtain ⟨extended, yields, separatedExtended⟩ :=
        exists_operator operator separatedRight inner separatedInner (by omega)
      refine ⟨.binary left earlier extended, ?_,
        Expr.separated_binary.mpr ⟨separatedLeft, separatedExtended⟩⟩
      rw [yield, yields, yield, List.append_assoc, List.cons_append]
  | pass isLevel isLooser inner =>
      obtain ⟨extended, yields, separatedExtended⟩ :=
        exists_operator operator separatedRight inner separated (by omega)
      exact ⟨.pass isLevel isLooser extended, yields, separatedExtended⟩
  | _ => exact absurd belowUnary (by decide)

section Calls

variable (opening : Terminal [.leftParen]) {arguments : Arguments}
  (closing : Terminal [.rightParen]) (separatedArguments : arguments.Separated)
include separatedArguments

private theorem Expr.exists_call_of_callee (callee : Expr .call) (separated : callee.Separated) :
    ∃ whole : Expr .call,
      whole.yield = callee.yield ++ opening.token :: (arguments.yield ++ [closing.token]) ∧
      whole.Separated :=
  ⟨.call callee opening arguments closing, rfl, separated, separatedArguments⟩

/-- Behind an expression the arguments of a call can follow, whatever its level is. -/
theorem Expr.exists_call : {own : Precedence} → (left : Expr own) → left.Separated →
      ∃ whole : Expr own,
        whole.yield = left.yield ++ opening.token :: (arguments.yield ++ [closing.token]) ∧
        whole.Separated
  | _, .unary operator operand, separated => by
      obtain ⟨extended, yields, separatedExtended⟩ := exists_call operand separated
      refine ⟨.unary operator extended, ?_, separatedExtended⟩
      rw [yield, yields, yield, List.cons_append]
  | _, .binary left operator right, separated => by
      obtain ⟨separatedLeft, separatedRight⟩ := Expr.separated_binary.mp separated
      obtain ⟨extended, yields, separatedExtended⟩ := exists_call right separatedRight
      refine ⟨.binary left operator extended, ?_,
        Expr.separated_binary.mpr ⟨separatedLeft, separatedExtended⟩⟩
      rw [yield, yields, yield, List.append_assoc, List.cons_append]
  | _, .pass isLevel isLooser inner, separated => by
      obtain ⟨extended, yields, separatedExtended⟩ := exists_call inner separated
      exact ⟨.pass isLevel isLooser extended, yields, separatedExtended⟩
  | _, .identifier _, separated =>
      exists_call_of_callee opening closing separatedArguments _ separated
  | _, .integer _, separated =>
      exists_call_of_callee opening closing separatedArguments _ separated
  | _, .boolean _, separated =>
      exists_call_of_callee opening closing separatedArguments _ separated
  | _, .group _ _ _, separated =>
      exists_call_of_callee opening closing separatedArguments _ separated
  | _, .conditional _ _ _ _ _ _, separated =>
      exists_call_of_callee opening closing separatedArguments _ separated
  | _, .function _ _ _ _ _, separated =>
      exists_call_of_callee opening closing separatedArguments _ separated
  | _, .call _ _ _ _, separated =>
      exists_call_of_callee opening closing separatedArguments _ separated

end Calls

/-! ### Two expressions -/

/-- An operator that stands between two operands as well as in front of one. -/
theorem Terminal.exists_sum {operator : Terminal [.bang, .minus]}
    (goesOn : operator.token.kind ∈ continuing) :
    ∃ sum : Terminal (operatorsAt .sum), sum.token = operator.token := by
  have all : ∀ kind ∈ [TokenKind.bang, .minus], kind ∈ continuing →
      kind ∈ operatorsAt .sum := by decide
  exact ⟨⟨operator.token, all _ operator.kind_mem goesOn⟩, rfl⟩

/-- An expression whose first token goes on with the one before it is read as a part of
that. -/
theorem Expr.exists_merged {left : Expr .equality} (separated : left.Separated) :
    {own : Precedence} → (right : Expr own) → right.Separated →
      right.first.kind ∈ continuing →
      ∃ whole : Expr .equality, whole.yield = left.yield ++ right.yield ∧ whole.Separated
  | _, .identifier name, _, goesOn => by
      rw [first, name.kind_eq] at goesOn
      exact absurd goesOn (by decide)
  | _, .integer numeral, _, goesOn => by
      rw [first, numeral.kind_eq] at goesOn
      exact absurd goesOn (by decide)
  | _, .boolean word, _, goesOn => by
      have none : ∀ kind ∈ [TokenKind.trueWord, .falseWord], kind ∉ continuing := by decide
      exact absurd goesOn (none _ word.kind_mem)
  | _, .conditional word _ _ _ _ _, _, goesOn => by
      rw [first, word.kind_eq] at goesOn
      exact absurd goesOn (by decide)
  | _, .function word _ _ _ _, _, goesOn => by
      rw [first, word.kind_eq] at goesOn
      exact absurd goesOn (by decide)
  | _, .group opening inside closing, separatedInside, _ => by
      have separatedArguments : (Arguments.expressions inside []).Separated :=
        ⟨separatedInside, trivial⟩
      obtain ⟨whole, yields, separatedWhole⟩ :=
        Expr.exists_call opening closing separatedArguments left separated
      refine ⟨whole, ?_, separatedWhole⟩
      rw [yields, Arguments.yield, yieldOthers, List.append_nil, yield]
  | _, .call callee opening _ closing, separatedBoth, goesOn => by
      obtain ⟨separatedCallee, separatedArguments⟩ := separatedBoth
      obtain ⟨merged, yieldsMerged, separatedMerged⟩ :=
        exists_merged separated callee separatedCallee goesOn
      obtain ⟨whole, yields, separatedWhole⟩ :=
        Expr.exists_call opening closing separatedArguments merged separatedMerged
      refine ⟨whole, ?_, separatedWhole⟩
      rw [yields, yieldsMerged, yield, List.append_assoc]
  | _, .unary operator operand, separatedOperand, goesOn => by
      obtain ⟨sum, isOperator⟩ := Terminal.exists_sum goesOn
      obtain ⟨copy, same⟩ :=
        operand.exists_looser Precedence.sum.tighter (by decide) (by decide)
      obtain ⟨whole, yields, separatedWhole⟩ :=
        Expr.exists_operator sum (same.separated separatedOperand) left separated (by decide)
      refine ⟨whole, ?_, separatedWhole⟩
      rw [yields, isOperator, same.yield, yield]
  | own, .binary inner operator right, separatedBoth, goesOn => by
      obtain ⟨separatedInner, separatedRight⟩ := Expr.separated_binary.mp separatedBoth
      obtain ⟨merged, yieldsMerged, separatedMerged⟩ :=
        exists_merged separated inner separatedInner goesOn
      have isLevel : Precedence.lowest < own := (operatorsAt_le_product operator.kind_mem).1
      obtain ⟨whole, yields, separatedWhole⟩ :=
        Expr.exists_operator operator separatedRight merged separatedMerged isLevel
      refine ⟨whole, ?_, separatedWhole⟩
      rw [yields, yieldsMerged, yield, List.append_assoc]
  | _, .pass _ _ inner, separatedInner, goesOn =>
      exists_merged separated inner separatedInner goesOn

/-! ### Two texts -/

/-- An open statement and one that goes on with it are one statement, which is closed as the
second one is. -/
theorem Statement.exists_merged {statement next : Statement} (isOpen : statement.ending = none)
    (goesOn : ∀ token ∈ next.yield.head?, token.kind ∈ continuing)
    (separated : statement.Separated) (separatedNext : next.Separated) :
    ∃ whole : Statement, whole.yield = statement.yield ++ next.yield ∧ whole.Separated ∧
      whole.ending = next.ending := by
  cases next with
  | letStatement word _ _ _ _ =>
      have starts : word.token.kind ∈ continuing := goesOn _ rfl
      rw [word.kind_eq] at starts
      exact absurd starts (by decide)
  | returnStatement word _ _ =>
      have starts : word.token.kind ∈ continuing := goesOn _ rfl
      rw [word.kind_eq] at starts
      exact absurd starts (by decide)
  | expressionStatement right ending =>
      obtain ⟨others, yieldsRight⟩ := right.yield_eq_cons
      have starts : right.first.kind ∈ continuing := by
        apply goesOn
        rw [yield, yieldsRight]
        rfl
      cases statement with
      | letStatement word name sign left _ =>
          cases isOpen
          obtain ⟨value, yields, separatedValue⟩ :=
            Expr.exists_merged separated right separatedNext starts
          refine ⟨.letStatement word name sign value ending, ?_, separatedValue, rfl⟩
          simp [yield, yields, yieldEnding]
      | returnStatement word left _ =>
          cases isOpen
          obtain ⟨value, yields, separatedValue⟩ :=
            Expr.exists_merged separated right separatedNext starts
          refine ⟨.returnStatement word value ending, ?_, separatedValue, rfl⟩
          simp [yield, yields, yieldEnding]
      | expressionStatement left _ =>
          cases isOpen
          obtain ⟨value, yields, separatedValue⟩ :=
            Expr.exists_merged separated right separatedNext starts
          refine ⟨.expressionStatement value ending, ?_, separatedValue, rfl⟩
          simp [yield, yields, yieldEnding]

/-- Some statements behind one, which swallows the first of them where that goes on with
it. -/
theorem exists_separated_cons {statement : Statement} {statements : List Statement}
    (separated : statement.Separated) (separatedAll : SeparatedAll statements) :
    ∃ whole, SeparatedAll whole ∧ yieldAll whole = statement.yield ++ yieldAll statements := by
  by_cases goesOn : statement.ending = none ∧
      ∃ token ∈ (yieldAll statements).head?, token.kind ∈ continuing
  · obtain ⟨isOpen, token, isHead, isContinuing⟩ := goesOn
    cases statements with
    | nil => cases isHead
    | cons next statements =>
        obtain ⟨separatedNext, follows, separatedLater⟩ := separatedAll
        obtain ⟨first, others, yieldsNext, -⟩ := next.yield_eq_cons
        have isFirst : ∀ token ∈ next.yield.head?, token.kind ∈ continuing := by
          rw [yieldAll, yieldsNext] at isHead
          cases isHead
          rw [yieldsNext]
          rintro _ ⟨⟩
          exact isContinuing
        obtain ⟨merged, yields, separatedMerged, sameEnding⟩ :=
          Statement.exists_merged isOpen isFirst separated separatedNext
        refine ⟨merged :: statements,
          ⟨separatedMerged, fun isOpen => follows (sameEnding ▸ isOpen), separatedLater⟩, ?_⟩
        rw [yieldAll, yields, yieldAll, List.append_assoc]
  · refine ⟨statement :: statements, ⟨separated, fun isOpen token isHead isContinuing => ?_,
      separatedAll⟩, rfl⟩
    exact goesOn ⟨isOpen, token, isHead, isContinuing⟩

/-- The tokens of two separated texts, one behind the other, are those of one. -/
theorem exists_separated_append {first second : List Statement} (separated : SeparatedAll first)
    (separatedSecond : SeparatedAll second) :
    ∃ whole, SeparatedAll whole ∧ yieldAll whole = yieldAll first ++ yieldAll second := by
  induction first with
  | nil => exact ⟨second, separatedSecond, rfl⟩
  | cons statement statements inductionHypothesis =>
      obtain ⟨separatedFirst, follows, separatedLater⟩ := separated
      obtain ⟨later, separatedWhole, yields⟩ := inductionHypothesis separatedLater
      obtain ⟨whole, separatedAll, yieldsWhole⟩ :=
        exists_separated_cons separatedFirst separatedWhole
      refine ⟨whole, separatedAll, ?_⟩
      rw [yieldsWhole, yields, yieldAll, List.append_assoc]

end Grammar

end MonkeySyntax
