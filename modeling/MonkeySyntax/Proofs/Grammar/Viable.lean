import MonkeySyntax.Proofs.Grammar.Phrase

/-!
Contract: tokens that a sentence of the language can start with.

Owns:
- viable tokens, behind which some tokens make a sentence;
- what may be read next behind them, as the categories whose phrases all keep the tokens
  viable;
- for each construct, what may be read behind each of its tokens.

Does not own: how a parser gets there.
-/

set_option autoImplicit false

namespace MonkeySyntax

namespace Grammar

/-- Some tokens with which a sentence starts. -/
def Viable (tokens : List Token) : Prop := ∃ behind, Sentence (tokens ++ behind)

theorem Viable.of_append {tokens others : List Token} (viable : Viable (tokens ++ others)) :
    Viable tokens := by
  obtain ⟨behind, isSentence⟩ := viable
  rw [List.append_assoc] at isSentence
  exact ⟨others ++ behind, isSentence⟩

theorem Viable.start {tokens passed others : List Token}
    (viable : Viable (tokens ++ (passed ++ others))) : Viable (tokens ++ passed) := by
  rw [← List.append_assoc] at viable
  exact viable.of_append

/-- Behind some tokens every phrase of a category may follow. -/
def Awaits (category : Category) (before : List Token) : Prop :=
  ∀ phrase, Phrase category phrase → Viable (before ++ phrase)

/-- A token of a kind, which stands for any of them. -/
def Terminal.sample (kind : TokenKind) : Terminal [kind] :=
  ⟨⟨kind, kind.text, 0, 0⟩, List.mem_singleton_self kind⟩

/-- An empty block, with which a conditional can be completed. -/
theorem isBlock_sample : Phrase .block
    [(Terminal.sample .leftBrace).token, (Terminal.sample .rightBrace).token] :=
  .block (.sample .leftBrace) Phrase.nothing (.sample .rightBrace)

theorem exists_phrase (category : Category) : ∃ phrase, Phrase category phrase := by
  have name := Phrase.identifier (.sample .ident)
  have isOperand := Phrase.operand [] name [] (List.forall_mem_nil _)
  cases category with
  | statements => exact ⟨[], Phrase.nothing⟩
  | statement => exact ⟨_, .expressionStatement name.expression_of_primary none⟩
  | expression => exact ⟨_, name.expression_of_primary⟩
  | operand => exact ⟨_, isOperand⟩
  | primary => exact ⟨_, name⟩
  | items => exact ⟨_, name.expression_of_primary.items_of_expression⟩
  | arguments => exact ⟨[], .noArguments⟩
  | block => exact ⟨_, isBlock_sample⟩
  | alternative => exact ⟨[], .noAlternative⟩

theorem awaits_nil : Awaits .statements [] :=
  fun phrase isSentence => ⟨[], (List.append_nil phrase).symm ▸ isSentence⟩

namespace Awaits

variable {category inner : Category} {before : List Token}

theorem viable (awaits : Awaits category before) : Viable before := by
  obtain ⟨phrase, isPhrase⟩ := exists_phrase category
  exact (awaits phrase isPhrase).of_append

/-- Within a phrase a phrase of another category may follow where it can be completed to one
of the first category. -/
theorem inside (awaits : Awaits category before) (passed : List Token)
    (completes : ∀ phrase, Phrase inner phrase →
      ∃ behind, Phrase category (passed ++ (phrase ++ behind))) :
    Awaits inner (before ++ passed) := by
  intro phrase isPhrase
  obtain ⟨behind, isWhole⟩ := completes phrase isPhrase
  have viable := awaits _ isWhole
  rw [← List.append_assoc, ← List.append_assoc] at viable
  exact viable.of_append

/-! ### Statements -/

section Statements

variable (awaits : Awaits .statements before)
include awaits

theorem behind_statement {statement : List Token} (isStatement : Phrase .statement statement) :
    Awaits .statements (before ++ statement) :=
  awaits.inside statement fun phrase isSentence => by
    refine ⟨[], ?_⟩
    rw [List.append_nil]
    exact isStatement.statements_of_statement.statements_append isSentence

theorem letValue (word : Terminal [.letWord]) (name : Terminal [.ident])
    (sign : Terminal [.assign]) :
    Awaits .expression (before ++ [word.token, name.token, sign.token]) :=
  awaits.inside _ fun _ isValue =>
    ⟨[], (Phrase.letStatement word name sign isValue none).statements_of_statement⟩

theorem returnValue (word : Terminal [.returnWord]) :
    Awaits .expression (before ++ [word.token]) :=
  awaits.inside _ fun _ isValue =>
    ⟨[], (Phrase.returnStatement word isValue none).statements_of_statement⟩

theorem expression : Awaits .expression before := by
  have awaitsInside := awaits.inside [] fun _ isValue =>
    ⟨[], (Phrase.expressionStatement isValue none).statements_of_statement⟩
  rwa [List.append_nil] at awaitsInside

end Statements

/-! ### Expressions -/

section Expressions

variable (awaits : Awaits .expression before)
include awaits

theorem operand (operator : Terminal [.bang, .minus]) :
    Awaits .expression (before ++ [operator.token]) :=
  awaits.inside _ fun _ isOperand => ⟨[], by
    rw [List.append_nil]
    exact isOperand.unary operator⟩

theorem rightOperand {left : List Token} (isLeft : Phrase .expression left)
    (operator : Terminal binaryOperators) :
    Awaits .expression (before ++ (left ++ [operator.token])) :=
  awaits.inside _ fun _ isRight => ⟨[], by
    rw [List.append_nil, List.append_assoc]
    exact isLeft.binary operator isRight⟩

theorem groupInside (opening : Terminal [.leftParen]) :
    Awaits .expression (before ++ [opening.token]) :=
  awaits.inside _ fun _ isInside =>
    ⟨_, (Phrase.group opening isInside (.sample .rightParen)).expression_of_primary⟩

theorem callArguments {callee : List Token} (isCallee : Phrase .expression callee)
    (opening : Terminal [.leftParen]) :
    Awaits .arguments (before ++ (callee ++ [opening.token])) :=
  awaits.inside _ fun phrase isArguments => ⟨[(Terminal.sample .rightParen).token], by
    rw [List.append_assoc]
    exact isCallee.call ⟨opening, phrase, .sample .rightParen⟩ isArguments⟩

theorem condition (word : Terminal [.ifWord]) (opening : Terminal [.leftParen]) :
    Awaits .expression (before ++ [word.token, opening.token]) :=
  awaits.inside _ fun _ isCondition =>
    ⟨_, (Phrase.conditional word opening isCondition (.sample .rightParen) isBlock_sample
      .noAlternative).expression_of_primary⟩

section Conditionals

variable (word : Terminal [.ifWord]) (opening : Terminal [.leftParen]) {test : List Token}
  (isTest : Phrase .expression test) (closing : Terminal [.rightParen])
include isTest

theorem consequence :
    Awaits .block
      (before ++ word.token :: opening.token :: (test ++ [closing.token])) :=
  awaits.inside _ fun _ isBlock => ⟨[], by
    simpa using (Phrase.conditional word opening isTest closing isBlock
      .noAlternative).expression_of_primary⟩

theorem alternative {block : List Token} (isBlock : Phrase .block block) :
    Awaits .alternative
      (before ++ word.token :: opening.token :: (test ++ closing.token :: block)) :=
  awaits.inside _ fun _ isAlternative => ⟨[], by
    simpa using (Phrase.conditional word opening isTest closing isBlock
      isAlternative).expression_of_primary⟩

end Conditionals

theorem body (word : Terminal [.functionWord]) (opening : Terminal [.leftParen])
    (parameters : Parameters) (closing : Terminal [.rightParen]) :
    Awaits .block
      (before ++ word.token :: opening.token :: (parameters.yield ++ [closing.token])) :=
  awaits.inside _ fun _ isBody => ⟨[], by
    simpa using (Phrase.function word opening parameters closing isBody).expression_of_primary⟩

end Expressions

/-! ### Arguments, alternatives and blocks -/

theorem firstArgument (awaits : Awaits .arguments before) : Awaits .expression before := by
  have awaitsInside := awaits.inside [] fun phrase isArgument => ⟨[], by
    rw [List.append_nil]
    exact .someArguments isArgument.items_of_expression⟩
  rwa [List.append_nil] at awaitsInside

theorem nextArgument (awaits : Awaits .arguments before) {items : List Token}
    (isItems : Phrase .items items) (comma : Terminal [.comma]) :
    Awaits .expression (before ++ (items ++ [comma.token])) :=
  awaits.inside _ fun _ isArgument => ⟨[], by
    rw [List.append_nil, List.append_assoc]
    exact .someArguments (isItems.items_concat comma isArgument)⟩

theorem otherwise (awaits : Awaits .alternative before) (word : Terminal [.elseWord]) :
    Awaits .block (before ++ [word.token]) :=
  awaits.inside _ fun _ isBlock => ⟨[], by
    rw [List.append_nil]
    exact .someAlternative word isBlock⟩

theorem blockInside (awaits : Awaits .block before) (opening : Terminal [.leftBrace]) :
    Awaits .statements (before ++ [opening.token]) :=
  awaits.inside _ fun _ isSentence =>
    ⟨_, Phrase.block opening isSentence (.sample .rightBrace)⟩

end Awaits

end Grammar

end MonkeySyntax
