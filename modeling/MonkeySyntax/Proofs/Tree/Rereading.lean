import Mathlib.Data.List.Forall2
import MonkeySyntax.Proofs.Grammar.Shape
import MonkeySyntax.Proofs.Token.Scanning
import MonkeySyntax.Proofs.Tree.Depth
import MonkeySyntax.Tree.Record

/-!
Contract: the rendering of a plain tree is scanned to the yield of a derivation of the
same tree.

Owns:
- when a derivation is a copy of a tree, up to the positions of tokens, whose need for
  nesting is the depth of the tree;
- the scan of what a plain expression, a statement and a list of statements render to.

The text is followed character by character. No two pieces of it run into each other:
a word or digits stand before a blank, a parenthesis, a comma or a semicolon, and an
operand never starts with the equals sign that would change the operator before it.
-/

set_option autoImplicit false

namespace MonkeySyntax

open Grammar

namespace Node

/-- A derivation whose tree is a node, up to the positions of tokens. -/
structure Copies (node : Node) {level : Precedence} (copy : Expr level) : Prop where
  record_eq : copy.tree.record = node.record
  render_eq : copy.tree.render = node.render
  need_eq : copy.need = node.depth
  separated : copy.Separated

/-- The scan of a node's rendering takes the yield of a copy, wherever the rendering is
followed by what ends a token. -/
structure Rereads (node : Node) : Prop where
  starts : ∀ char ∈ node.render.toList.head?, char ≠ '='
  scan : ∀ (cursor : Cursor) (behind : List Char), Ending behind →
    cursor.rest = node.render.toList ++ behind →
    ∃ (copy : Expr .call) (later : Cursor),
      cursor.tokens.upcoming = copy.yield ++ later.tokens.upcoming ∧ later.rest = behind ∧
      node.Copies copy

theorem Copies.looser {node : Node} {level : Precedence} {copy : Expr level}
    (copies : node.Copies copy) (looser : Precedence) (isLevel : .lowest < looser)
    (atMost : looser.rank ≤ level.rank) :
    ∃ other : Expr looser, other.yield = copy.yield ∧ node.Copies other := by
  obtain ⟨other, same⟩ := copy.exists_looser looser isLevel atMost
  refine ⟨other, same.yield, ?_, ?_, ?_, same.separated copies.separated⟩
  · rw [same.tree, copies.record_eq]
  · rw [same.tree, copies.render_eq]
  · rw [same.need, copies.need_eq]

/-- A copy that binds tightest is one of every level that has operators. -/
theorem Copies.whole {node : Node} {copy : Expr .call} (copies : node.Copies copy) :
    ∃ whole : Expr .equality, whole.yield = copy.yield ∧ node.Copies whole :=
  copies.looser .equality (by decide) (by decide)

end Node

open Node (Copies Rereads)

/-! ### Ends of tokens -/

/-- What stands between the pieces of a rendering ends the token before it. -/
theorem ending_delimiter {char : Char} {behind : List Char}
    (isDelimiter : char ∈ [' ', '(', ')', ',', ';']) : Ending (char :: behind) := by
  have all : [' ', '(', ')', ',', ';'].all fun char =>
      char ≠ '=' && !isWordChar char && !isDigitChar char := by decide
  have ends := List.all_eq_true.mp all char isDelimiter
  intro other isHead
  cases isHead
  simpa [and_assoc] using ends

theorem ending_nil : Ending [] := by
  intro other isHead
  cases isHead

theorem Ending.starts {behind : List Char} (ending : Ending behind) :
    ∀ char ∈ behind.head?, char ≠ '=' :=
  fun char isHead => (ending char isHead).1

theorem starts_append {text behind : List Char} (starts : ∀ char ∈ text.head?, char ≠ '=')
    (startsBehind : ∀ char ∈ behind.head?, char ≠ '=') :
    ∀ char ∈ (text ++ behind).head?, char ≠ '=' := by
  cases text with
  | nil => exact startsBehind
  | cons first text => exact starts

theorem Spelled.starts {kind : TokenKind} {literal : List Char} (spelled : Spelled kind literal)
    (notEquals : kind ∉ [.assign, .equal]) : ∀ char ∈ literal.head?, char ≠ '=' := by
  obtain ⟨first, others, rfl, -, starts⟩ := spelled.exists_first
  intro char isHead
  cases isHead
  exact starts notEquals

/-! ### Atoms -/

theorem rereads_identifier (name : Terminal [.ident])
    (spelled : Spelled name.token.kind name.token.literal.toList) : Rereads name.identifier where
  starts := spelled.starts (by simp [name.kind_eq])
  scan := by
    intro cursor behind ending unread
    obtain ⟨copy, later, scanned, -, sameLiteral, isBehind⟩ :=
      cursor.scan_terminal name spelled (ending.bounds _) unread
    refine ⟨.identifier copy, later, scanned, isBehind, ?_, ?_, rfl, trivial⟩
    · change Node.record (.identifier copy.token copy.token.literal) = _
      rw [Node.record, sameLiteral]
      rfl
    · exact sameLiteral

theorem rereads_integer (numeral : IntegerLiteral)
    (spelled : Spelled numeral.token.kind numeral.token.literal.toList) :
    Rereads (Expr.integer numeral).tree where
  starts := spelled.starts (by simp [numeral.kind_eq])
  scan := by
    intro cursor behind ending unread
    obtain ⟨token, later, scanned, sameKind, sameLiteral, isBehind⟩ :=
      cursor.scan_spelled spelled (ending.bounds _) unread
    rw [String.ofList_toList] at sameLiteral
    have isDigit := numeral.isDigit
    have inRange := numeral.inRange
    rw [← sameLiteral] at isDigit inRange
    refine ⟨.integer ⟨token, sameKind.trans numeral.kind_eq, isDigit, inRange⟩, later, scanned,
      isBehind, ?_, sameLiteral, rfl, trivial⟩
    change Node.record (.integer token (decimal token.literal.toList)) = _
    rw [Node.record, sameLiteral]
    rfl

theorem rereads_boolean (word : Terminal [.trueWord, .falseWord])
    (spelled : Spelled word.token.kind word.token.literal.toList) :
    Rereads (Expr.boolean word).tree where
  starts := by
    have all : ∀ kind ∈ [TokenKind.trueWord, .falseWord], kind ∉ [.assign, .equal] := by decide
    exact spelled.starts (all _ word.kind_mem)
  scan := by
    intro cursor behind ending unread
    obtain ⟨copy, later, scanned, sameKind, sameLiteral, isBehind⟩ :=
      cursor.scan_terminal word spelled (ending.bounds _) unread
    refine ⟨.boolean copy, later, scanned, isBehind, ?_, sameLiteral, rfl, trivial⟩
    change Node.record (.boolean copy.token (decide (copy.token.kind = .trueWord))) = _
    rw [Node.record, sameKind]
    rfl

/-! ### Operators -/

/-- A node in parentheses is scanned to a group of a copy of it. -/
theorem exists_group (node : Node) {level : Precedence} (opening : Terminal [.leftParen])
    (inside : Expr level) (closing : Terminal [.rightParen]) (isLevel : Precedence.equality.rank ≤ level.rank)
    (record_eq : inside.tree.record = node.record) (render_eq : inside.tree.render = node.render)
    (need_eq : 1 + inside.need = node.depth) (separated : inside.Separated) :
    ∃ copy : Expr .call, copy.yield = opening.token :: (inside.yield ++ [closing.token]) ∧
      node.Copies copy := by
  obtain ⟨whole, same⟩ := inside.exists_looser .equality (by decide) isLevel
  refine ⟨.group opening whole closing, ?_, ?_, ?_, ?_, same.separated separated⟩
  · rw [Expr.yield, same.yield]
  · rw [Expr.tree, same.tree, record_eq]
  · rw [Expr.tree, same.tree, render_eq]
  · rw [Expr.need, same.need, need_eq]

theorem rereads_unary {operand : Node} (operator : Terminal [.bang, .minus])
    (spelled : Spelled operator.token.kind operator.token.literal.toList)
    (rereads : Rereads operand) :
    Rereads (.unary operator.token operator.token.literal operand) where
  starts := by
    rw [Node.toList_render_unary]
    intro char isHead
    cases isHead
    decide
  scan := by
    intro cursor behind ending unread
    rw [Node.toList_render_unary, List.cons_append, List.append_assoc, List.append_assoc] at unread
    obtain ⟨opening, first, scannedOpening, unread⟩ :=
      cursor.scan_single .leftParen (by rfl) unread
    have bounds : Bounds operator.token.kind (operand.render.toList ++ ([')'] ++ behind)) := by
      have all : ∀ kind ∈ [TokenKind.bang, .minus],
          kind ∉ .ident :: TokenKind.keywords.map Prod.snd ∧ kind ≠ .int := by decide
      obtain ⟨notWord, notInt⟩ := all _ operator.kind_mem
      intro char isHead
      refine ⟨fun _ => ?_, fun isWord => absurd isWord notWord, fun isInt => absurd isInt notInt⟩
      exact starts_append rereads.starts (ending_delimiter (by simp)).starts char isHead
    obtain ⟨copy, second, scannedOperator, -, sameLiteral, unread⟩ :=
      first.scan_terminal operator spelled bounds unread
    obtain ⟨copyOperand, third, scannedOperand, unread, copies⟩ :=
      rereads.scan second ([')'] ++ behind) (ending_delimiter (by simp)) unread
    obtain ⟨closing, later, scannedClosing, isBehind⟩ :=
      third.scan_single .rightParen (by rfl) unread
    obtain ⟨inside, sameYield, copiesInside⟩ := copies.looser .unary (by decide) (by decide)
    obtain ⟨whole, isYield, copiesWhole⟩ := exists_group
      (.unary operator.token operator.token.literal operand) opening (.unary copy inside) closing
      (by decide)
      (by rw [Expr.tree, Node.record, Node.record, sameLiteral, copiesInside.record_eq])
      (by rw [Expr.tree, Node.render, Node.render, sameLiteral, copiesInside.render_eq])
      (by rw [Expr.need, Node.depth, copiesInside.need_eq]; omega)
      copiesInside.separated
    refine ⟨whole, later, ?_, isBehind, copiesWhole⟩
    rw [isYield, scannedOpening, scannedOperator, scannedOperand, scannedClosing, Expr.yield,
      sameYield]
    simp only [List.cons_append, List.append_assoc, List.nil_append]

theorem rereads_binary {level : Precedence} {left right : Node}
    (operator : Terminal (operatorsAt level))
    (spelled : Spelled operator.token.kind operator.token.literal.toList)
    (rereadsLeft : Rereads left) (rereadsRight : Rereads right) :
    Rereads (.binary operator.token left operator.token.literal right) where
  starts := by
    rw [Node.toList_render_binary]
    intro char isHead
    cases isHead
    decide
  scan := by
    intro cursor behind ending unread
    obtain ⟨isLevel, isBinary⟩ := operatorsAt_le_product operator.kind_mem
    simp only [Node.toList_render_binary, List.cons_append, List.append_assoc] at unread
    obtain ⟨opening, first, scannedOpening, unread⟩ :=
      cursor.scan_single .leftParen (by rfl) unread
    obtain ⟨copyLeft, second, scannedLeft, unread, copiesLeft⟩ :=
      rereadsLeft.scan first _ (ending_delimiter (by simp)) unread
    obtain ⟨third, scannedBlank, unread⟩ := second.scan_blank (by decide) unread
    obtain ⟨copy, fourth, scannedOperator, -, sameLiteral, unread⟩ :=
      third.scan_terminal operator spelled ((ending_delimiter (by simp)).bounds _) unread
    obtain ⟨fifth, scannedSecondBlank, unread⟩ := fourth.scan_blank (by decide) unread
    obtain ⟨copyRight, sixth, scannedRight, unread, copiesRight⟩ :=
      rereadsRight.scan fifth _ (ending_delimiter (by simp)) unread
    obtain ⟨closing, later, scannedClosing, isBehind⟩ :=
      sixth.scan_single .rightParen (by rfl) unread
    obtain ⟨insideLeft, sameYield, copiesLeft⟩ :=
      copiesLeft.looser level isLevel (Precedence.rank_le_call level)
    obtain ⟨insideRight, alsoSameYield, copiesRight⟩ :=
      copiesRight.looser level.tighter
        (Nat.lt_of_lt_of_le isLevel (Precedence.rank_le_tighter level)) (Precedence.rank_le_call _)
    obtain ⟨whole, isYield, copiesWhole⟩ := exists_group
      (.binary operator.token left operator.token.literal right) opening
      (.binary insideLeft copy insideRight) closing isLevel
      (by rw [Expr.tree, Node.record, Node.record, sameLiteral, copiesLeft.record_eq,
        copiesRight.record_eq])
      (by rw [Expr.tree, Node.render, Node.render, sameLiteral, copiesLeft.render_eq,
        copiesRight.render_eq])
      (by rw [Expr.need, Node.depth, copiesLeft.need_eq, copiesRight.need_eq]; omega)
      (Expr.separated_binary.mpr ⟨copiesLeft.separated, copiesRight.separated⟩)
    refine ⟨whole, later, ?_, isBehind, copiesWhole⟩
    rw [isYield, scannedOpening, scannedLeft, scannedBlank, scannedOperator, scannedSecondBlank,
      scannedRight, scannedClosing, Expr.yield, sameYield, alsoSameYield]
    simp only [List.cons_append, List.append_assoc, List.nil_append]

/-! ### Calls -/

/-- The scan of the arguments behind the first one. -/
theorem scan_otherArguments {nodes : List Node} (rereads : ∀ node ∈ nodes, Rereads node)
    {cursor : Cursor} {behind : List Char} (ending : Ending behind)
    (unread : cursor.rest =
      (nodes.flatMap fun node => ',' :: ' ' :: node.render.toList) ++ behind) :
    ∃ (others : List (Terminal [.comma] × Expr .equality)) (later : Cursor),
      cursor.tokens.upcoming = yieldOthers others ++ later.tokens.upcoming ∧ later.rest = behind ∧
      (treesOthers others).map Node.record = nodes.map Node.record ∧
      (treesOthers others).map Node.render = nodes.map Node.render ∧
      max 1 (needOthers others) = 1 + Node.greatestDepth nodes ∧ SeparatedOthers others := by
  induction nodes generalizing cursor with
  | nil => exact ⟨[], cursor, rfl, unread, rfl, rfl, rfl, trivial⟩
  | cons node nodes inductionHypothesis =>
      rw [List.flatMap_cons, List.append_assoc, List.cons_append, List.cons_append] at unread
      have endsNode : Ending
          ((nodes.flatMap fun node => ',' :: ' ' :: node.render.toList) ++ behind) := by
        cases nodes with
        | nil => exact ending
        | cons next nodes => exact ending_delimiter (by simp)
      obtain ⟨comma, first, scannedComma, unread⟩ :=
        cursor.scan_single .comma (by rfl) unread
      obtain ⟨second, scannedBlank, unread⟩ := first.scan_blank (by decide) unread
      obtain ⟨copy, third, scannedNode, unread, copies⟩ :=
        (rereads node List.mem_cons_self).scan second _ endsNode unread
      obtain ⟨argument, sameYield, copiesArgument⟩ :=
        copies.whole
      obtain ⟨others, later, scannedOthers, isBehind, sameRecords, sameRenders, sameNeed, separated⟩ :=
        inductionHypothesis
          (fun node listed => rereads node (List.mem_cons_of_mem _ listed)) unread
      refine ⟨(comma, argument) :: others, later, ?_, isBehind, ?_, ?_, ?_,
        copiesArgument.separated, separated⟩
      · rw [scannedComma, scannedBlank, scannedNode, scannedOthers, yieldOthers, sameYield]
        simp only [List.cons_append, List.append_assoc]
      · rw [treesOthers, List.map_cons, List.map_cons, copiesArgument.record_eq, sameRecords]
      · rw [treesOthers, List.map_cons, List.map_cons, copiesArgument.render_eq, sameRenders]
      · rw [needOthers, Node.greatestDepth, copiesArgument.need_eq]
        omega

theorem scan_arguments {nodes : List Node} (rereads : ∀ node ∈ nodes, Rereads node)
    {cursor : Cursor} {behind : List Char} (ending : Ending behind)
    (unread : cursor.rest = (Node.renderList nodes).toList ++ behind) :
    ∃ (copy : Arguments) (later : Cursor),
      cursor.tokens.upcoming = copy.yield ++ later.tokens.upcoming ∧ later.rest = behind ∧
      copy.trees.map Node.record = nodes.map Node.record ∧
      copy.trees.map Node.render = nodes.map Node.render ∧
      max 1 copy.need = 1 + Node.greatestDepth nodes ∧ copy.Separated := by
  cases nodes with
  | nil => exact ⟨.none, cursor, rfl, unread, rfl, rfl, rfl, trivial⟩
  | cons node nodes =>
      rw [Node.toList_renderList_cons, List.append_assoc] at unread
      have endsNode : Ending
          ((nodes.flatMap fun node => ',' :: ' ' :: node.render.toList) ++ behind) := by
        cases nodes with
        | nil => exact ending
        | cons next nodes => exact ending_delimiter (by simp)
      obtain ⟨copy, first, scannedNode, unread, copies⟩ :=
        (rereads node List.mem_cons_self).scan cursor _ endsNode unread
      obtain ⟨argument, sameYield, copiesArgument⟩ :=
        copies.whole
      obtain ⟨others, later, scannedOthers, isBehind, sameRecords, sameRenders, sameNeed, separated⟩ :=
        scan_otherArguments (fun node listed => rereads node (List.mem_cons_of_mem _ listed))
          ending unread
      refine ⟨.expressions argument others, later, ?_, isBehind, ?_, ?_, ?_,
        copiesArgument.separated, separated⟩
      · rw [scannedNode, scannedOthers, Arguments.yield, sameYield, List.append_assoc]
      · rw [Arguments.trees, List.map_cons, List.map_cons, copiesArgument.record_eq, sameRecords]
      · rw [Arguments.trees, List.map_cons, List.map_cons, copiesArgument.render_eq, sameRenders]
      · rw [Arguments.need, Node.greatestDepth, copiesArgument.need_eq]
        omega

theorem rereads_call {callee : Node} {arguments : List Node} (token : Token)
    (rereads : Rereads callee) (rereadsArguments : ∀ node ∈ arguments, Rereads node) :
    Rereads (.call token callee arguments) where
  starts := by
    rw [Node.toList_render_call]
    apply starts_append rereads.starts
    exact (ending_delimiter (by simp)).starts
  scan := by
    intro cursor behind ending unread
    simp only [Node.toList_render_call, List.cons_append, List.append_assoc] at unread
    obtain ⟨copy, first, scannedCallee, unread, copies⟩ :=
      rereads.scan cursor _ (ending_delimiter (by simp)) unread
    obtain ⟨opening, second, scannedOpening, unread⟩ :=
      first.scan_single .leftParen (by rfl) unread
    obtain ⟨copyArguments, third, scannedArguments, unread, sameRecords, sameRenders, sameNeed,
      separated⟩ := scan_arguments rereadsArguments (ending_delimiter (by simp)) unread
    obtain ⟨closing, later, scannedClosing, isBehind⟩ :=
      third.scan_single .rightParen (by rfl) unread
    have needed := copy.need_pos
    refine ⟨.call copy opening copyArguments closing, later, ?_, isBehind, ?_, ?_, ?_,
      copies.separated, separated⟩
    · rw [scannedCallee, scannedOpening, scannedArguments, scannedClosing, Expr.yield]
      simp only [List.cons_append, List.append_assoc, List.nil_append]
    · rw [Expr.tree, Node.record, Node.record, copies.record_eq, Node.recordAll_eq_map,
        Node.recordAll_eq_map, sameRecords]
    · rw [Expr.tree, Node.render, Node.render, copies.render_eq, Node.renderList_congr sameRenders]
    · rw [Expr.need, Node.depth, ← copies.need_eq]
      omega

/-! ### Expressions -/

mutual

theorem Expr.rereads : {level : Precedence} → (derivation : Expr level) →
    derivation.tree.Plain → SpelledAll derivation.yield → Rereads derivation.tree
  | _, .identifier name, _, spelled => rereads_identifier name (spelledAll_cons.mp spelled).1
  | _, .integer numeral, _, spelled => rereads_integer numeral (spelledAll_cons.mp spelled).1
  | _, .boolean word, _, spelled => rereads_boolean word (spelledAll_cons.mp spelled).1
  | _, .group _ inside _, plain, spelled => by
      have spelledInside := (spelledAll_append.mp (spelledAll_cons.mp spelled).2).1
      exact Expr.rereads inside plain spelledInside
  | _, .conditional _ _ _ _ _ _, plain, _ => by
      exact absurd rfl plain.self.1
  | _, .function _ _ _ _ _, plain, _ => absurd rfl plain.self.2
  | _, .call callee opening arguments _, plain, spelled => by
      obtain ⟨spelledCallee, spelledOthers⟩ := spelledAll_append.mp spelled
      have spelledArguments := (spelledAll_append.mp (spelledAll_cons.mp spelledOthers).2).1
      exact rereads_call opening.token
        (Expr.rereads callee (plain.child List.mem_cons_self) spelledCallee)
        (Arguments.rereads arguments
          (fun node listed => plain.child (List.mem_cons_of_mem _ listed)) spelledArguments)
  | _, .unary operator operand, plain, spelled => by
      obtain ⟨spelledOperator, spelledOperand⟩ := spelledAll_cons.mp spelled
      exact rereads_unary operator spelledOperator
        (Expr.rereads operand (plain.child List.mem_cons_self) spelledOperand)
  | _, .binary left operator right, plain, spelled => by
      rw [Expr.yield] at spelled
      rw [Expr.tree] at plain ⊢
      obtain ⟨spelledLeft, spelledOthers⟩ := spelledAll_append.mp spelled
      obtain ⟨spelledOperator, spelledRight⟩ := spelledAll_cons.mp spelledOthers
      exact rereads_binary operator spelledOperator
        (Expr.rereads left (plain.child List.mem_cons_self) spelledLeft)
        (Expr.rereads right (plain.child (List.mem_cons_of_mem _ List.mem_cons_self)) spelledRight)
  | _, .pass _ _ inside, plain, spelled => Expr.rereads inside plain spelled

theorem Arguments.rereads : (arguments : Arguments) →
    (∀ node ∈ arguments.trees, node.Plain) → SpelledAll arguments.yield →
    ∀ node ∈ arguments.trees, Rereads node
  | .none, _, _ => fun _ absent => absurd absent List.not_mem_nil
  | .expressions first others, plain, spelled => by
      obtain ⟨spelledFirst, spelledOthers⟩ := spelledAll_append.mp spelled
      obtain ⟨plainFirst, plainOthers⟩ := List.forall_mem_cons.mp plain
      exact List.forall_mem_cons.mpr ⟨Expr.rereads first plainFirst spelledFirst,
        rereadsOthers others plainOthers spelledOthers⟩

theorem rereadsOthers : (others : List (Terminal [.comma] × Expr .equality)) →
    (∀ node ∈ treesOthers others, node.Plain) → SpelledAll (yieldOthers others) →
    ∀ node ∈ treesOthers others, Rereads node
  | [], _, _ => fun _ absent => absurd absent List.not_mem_nil
  | (_, argument) :: others, plain, spelled => by
      obtain ⟨spelledArgument, spelledOthers⟩ :=
        spelledAll_append.mp (spelledAll_cons.mp spelled).2
      obtain ⟨plainArgument, plainOthers⟩ := List.forall_mem_cons.mp plain
      exact List.forall_mem_cons.mpr ⟨Expr.rereads argument plainArgument spelledArgument,
        rereadsOthers others plainOthers spelledOthers⟩

end

/-! ### Statements -/

/-- A derivation whose tree is the node of a statement, up to the positions of tokens. -/
structure Node.CopiesStatement (node : Node) (copy : Statement) : Prop where
  record_eq : copy.tree.record = node.record
  render_eq : copy.tree.render = node.render
  need_eq : copy.need = node.depth
  separated : copy.Separated

/-- The scan of a statement's rendering takes the yield of a copy, which has a semicolon
unless nothing is behind it. -/
def Node.RereadsStatement (node : Node) : Prop :=
  ∀ (cursor : Cursor) (behind : List Char),
    behind = [] ∨ node.className = "LetStatement" ∨ node.className = "ReturnStatement" →
    cursor.rest = node.render.toList ++ behind →
    ∃ (copy : Statement) (later : Cursor),
      cursor.tokens.upcoming = copy.yield ++ later.tokens.upcoming ∧ later.rest = behind ∧
      node.CopiesStatement copy ∧ (copy.ending = none → behind = [])

open Node (RereadsStatement)

theorem rereads_letStatement {value : Node} (word : Terminal [.letWord]) (name : Terminal [.ident])
    (spelled : Spelled word.token.kind word.token.literal.toList)
    (spelledName : Spelled name.token.kind name.token.literal.toList) (rereads : Rereads value) :
    RereadsStatement (.letStatement word.token name.identifier value) := by
  intro cursor behind _ unread
  simp only [Node.toList_render_letStatement, List.cons_append, List.append_assoc] at unread
  obtain ⟨copyWord, first, scannedWord, -, sameWord, unread⟩ :=
    cursor.scan_terminal word spelled ((ending_delimiter (by simp)).bounds _) unread
  obtain ⟨second, scannedBlank, unread⟩ := first.scan_blank (by decide) unread
  obtain ⟨copyName, third, scannedName, -, sameName, unread⟩ :=
    second.scan_terminal name spelledName ((ending_delimiter (by simp)).bounds _) unread
  obtain ⟨fourth, scannedSecondBlank, unread⟩ := third.scan_blank (by decide) unread
  obtain ⟨sign, fifth, scannedSign, unread⟩ := fourth.scan_assign (ending_delimiter (by simp)) unread
  obtain ⟨sixth, scannedThirdBlank, unread⟩ := fifth.scan_blank (by decide) unread
  obtain ⟨copy, seventh, scannedValue, unread, copies⟩ :=
    rereads.scan sixth _ (ending_delimiter (by simp)) unread
  obtain ⟨semicolon, later, scannedSemicolon, isBehind⟩ :=
    seventh.scan_single .semicolon (by rfl) unread
  obtain ⟨whole, sameYield, copiesWhole⟩ :=
    copies.whole
  refine ⟨.letStatement copyWord copyName sign whole (some semicolon), later, ?_, isBehind,
    ⟨?_, ?_, copiesWhole.need_eq, copiesWhole.separated⟩, fun isOpen => by cases isOpen⟩
  · rw [scannedWord, scannedBlank, scannedName, scannedSecondBlank, scannedSign,
      scannedThirdBlank, scannedValue, scannedSemicolon, Statement.yield, sameYield]
    simp only [yieldEnding, List.cons_append, List.append_assoc]
    rfl
  · rw [Statement.tree, Node.record, Node.record, copiesWhole.record_eq, Terminal.identifier,
      Node.record, sameName]
    rfl
  · rw [Statement.tree, Node.render, Node.render, copiesWhole.render_eq, Terminal.identifier,
      Node.render, sameName, sameWord]
    rfl

theorem rereads_returnStatement {value : Node} (word : Terminal [.returnWord])
    (spelled : Spelled word.token.kind word.token.literal.toList) (rereads : Rereads value) :
    RereadsStatement (.returnStatement word.token value) := by
  intro cursor behind _ unread
  simp only [Node.toList_render_returnStatement, List.cons_append, List.append_assoc] at unread
  obtain ⟨copyWord, first, scannedWord, -, sameWord, unread⟩ :=
    cursor.scan_terminal word spelled ((ending_delimiter (by simp)).bounds _) unread
  obtain ⟨second, scannedBlank, unread⟩ := first.scan_blank (by decide) unread
  obtain ⟨copy, third, scannedValue, unread, copies⟩ :=
    rereads.scan second _ (ending_delimiter (by simp)) unread
  obtain ⟨semicolon, later, scannedSemicolon, isBehind⟩ :=
    third.scan_single .semicolon (by rfl) unread
  obtain ⟨whole, sameYield, copiesWhole⟩ :=
    copies.whole
  refine ⟨.returnStatement copyWord whole (some semicolon), later, ?_, isBehind,
    ⟨?_, ?_, copiesWhole.need_eq, copiesWhole.separated⟩, fun isOpen => by cases isOpen⟩
  · rw [scannedWord, scannedBlank, scannedValue, scannedSemicolon, Statement.yield, sameYield]
    simp only [yieldEnding, List.cons_append, List.append_assoc]
    rfl
  · rw [Statement.tree, Node.record, Node.record, copiesWhole.record_eq]
  · rw [Statement.tree, Node.render, Node.render, copiesWhole.render_eq, sameWord]

theorem rereads_expressionStatement {value : Node} (token : Token) (rereads : Rereads value) :
    RereadsStatement (.expressionStatement token value) := by
  intro cursor behind isLast unread
  have noneBehind : behind = [] := by
    rcases isLast with isNil | isLet | isReturn
    · exact isNil
    · have apart : "ExpressionStatement" ≠ "LetStatement" := by decide
      exact absurd isLet apart
    · have apart : "ExpressionStatement" ≠ "ReturnStatement" := by decide
      exact absurd isReturn apart
  subst noneBehind
  obtain ⟨copy, later, scanned, isBehind, copies⟩ := rereads.scan cursor [] ending_nil unread
  obtain ⟨whole, sameYield, copiesWhole⟩ :=
    copies.whole
  refine ⟨.expressionStatement whole none, later, ?_, isBehind,
    ⟨?_, copiesWhole.render_eq, copiesWhole.need_eq, copiesWhole.separated⟩, fun _ => rfl⟩
  · rw [scanned, Statement.yield, sameYield]
    simp only [yieldEnding, Option.toList_none, List.map_nil, List.append_nil]
  · rw [Statement.tree, Node.record, Node.record, copiesWhole.record_eq]

theorem Statement.rereads (statement : Statement) (plain : statement.tree.Plain)
    (spelled : SpelledAll statement.yield) : RereadsStatement statement.tree := by
  cases statement with
  | letStatement word name sign value ending =>
      obtain ⟨spelledWord, spelledOthers⟩ := spelledAll_cons.mp spelled
      obtain ⟨spelledName, spelledLater⟩ := spelledAll_cons.mp spelledOthers
      have spelledValue := (spelledAll_append.mp (spelledAll_cons.mp spelledLater).2).1
      have plainValue := plain.child (List.mem_cons_of_mem _ List.mem_cons_self)
      exact rereads_letStatement word name spelledWord spelledName
        (Expr.rereads value plainValue spelledValue)
  | returnStatement word value ending =>
      obtain ⟨spelledWord, spelledOthers⟩ := spelledAll_cons.mp spelled
      have spelledValue := (spelledAll_append.mp spelledOthers).1
      exact rereads_returnStatement word spelledWord
        (Expr.rereads value (plain.child List.mem_cons_self) spelledValue)
  | expressionStatement value ending =>
      have spelledValue := (spelledAll_append.mp spelled).1
      exact rereads_expressionStatement value.first
        (Expr.rereads value (plain.child List.mem_cons_self) spelledValue)

/-! ### Programs -/

/-- The scan of a program's rendering takes the yield of copies of its statements, when
all but the last one are closed by a semicolon. -/
theorem scan_statements {statements : List Statement}
    (plain : ∀ statement ∈ statements, statement.tree.Plain)
    (spelled : SpelledAll (yieldAll statements))
    (closed : ∀ node ∈ (treesAll statements).dropLast,
      node.className = "LetStatement" ∨ node.className = "ReturnStatement")
    {cursor : Cursor} (unread : cursor.rest = (Node.renderAll (treesAll statements)).toList) :
    ∃ copies : List Statement, cursor.tokens.upcoming = yieldAll copies ∧ SeparatedAll copies ∧
      List.Forall₂ (fun node copy => node.CopiesStatement copy) (treesAll statements) copies := by
  induction statements generalizing cursor with
  | nil => exact ⟨[], cursor.scan_nil unread, trivial, .nil⟩
  | cons statement statements inductionHypothesis =>
      obtain ⟨plainFirst, plainOthers⟩ := List.forall_mem_cons.mp plain
      obtain ⟨spelledFirst, spelledOthers⟩ := spelledAll_append.mp spelled
      rw [treesAll, Node.renderAll, String.toList_append] at unread
      have isClosed : (Node.renderAll (treesAll statements)).toList = [] ∨
          statement.tree.className = "LetStatement" ∨
          statement.tree.className = "ReturnStatement" := by
        cases statements with
        | nil => exact Or.inl rfl
        | cons next statements => exact Or.inr (closed statement.tree List.mem_cons_self)
      have closedOthers : ∀ node ∈ (treesAll statements).dropLast,
          node.className = "LetStatement" ∨ node.className = "ReturnStatement" := by
        intro node listed
        cases statements with
        | nil => exact absurd listed List.not_mem_nil
        | cons next statements => exact closed node (List.mem_cons_of_mem _ listed)
      obtain ⟨copy, later, scanned, unreadLater, copies, isLast⟩ :=
        Statement.rereads statement plainFirst spelledFirst cursor _ isClosed unread
      obtain ⟨others, scannedOthers, separated, alsoCopies⟩ :=
        inductionHypothesis plainOthers spelledOthers closedOthers unreadLater
      refine ⟨copy :: others, ?_, ⟨copies.separated, ?_, separated⟩, .cons copies alsoCopies⟩
      · rw [scanned, scannedOthers, yieldAll]
      · intro isOpen token isHead
        have ended := later.scan_nil (unreadLater.trans (isLast isOpen))
        rw [← scannedOthers, ended] at isHead
        cases isHead

end MonkeySyntax
