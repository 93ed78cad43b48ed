import MonkeySyntax.Program
import MonkeySyntax.Proofs.Grammar.Chain
import MonkeySyntax.Proofs.Parser.Completeness
import MonkeySyntax.Proofs.Parser.Counting
import MonkeySyntax.Tree.Rendering

/-!
Contract: a chain of operators is read up to a level, and grouped as a whole.

Owns:
- what it means that a reader reads a chain up to a level;
- an operand and the loop behind it, which reads the chain beyond each operator it takes;
- the induction over the levels of nesting that are left.

Does not own: how a chain is grouped, which is said without the loop.

The loop holds the tree of the links taken so far. No operator among them is looser than the
next one, since whatever was read behind an operator ended in front of the next one that is not
above it. So the next operator taken is the place at which the longer chain is divided.
-/

set_option autoImplicit false

namespace MonkeySyntax

open Grammar

namespace Parser

variable {reader : ExpressionReader} {level : Precedence} {state after : State} {rest : List Token}

/-! ### Operators -/

theorem unary_facing {sign : Token} {others : List Token} {operand : Node}
    (read : reader .unary (state.facing others) = .ok (some operand) after) :
    unary reader (state.facing (sign :: others)) =
      .ok (some (.unary sign sign.literal operand)) after := by
  unfold unary
  rw [bind_of_ok (current_run _), bind_of_ok (advance_run _)]
  exact bind_of_ok read

theorem binary_facing {operator : Token} {others : List Token} {left right : Node}
    (read : reader operator.kind.precedence (state.facing others) = .ok (some right) after) :
    binary reader (some left) (state.facing (operator :: others)) =
      .ok (some (.binary operator left operator.literal right)) after := by
  unfold binary
  rw [bind_of_ok (current_run _), bind_of_ok (advance_run _)]
  exact bind_of_ok read

theorem expressionBy_facing {token : Token} {others : List Token} {left : Option Node}
    (rule : OpeningRule) (opens : Rules.Opens token.kind rule)
    (read : rule.read reader (state.facing (token :: others)) = .ok left after) :
    Rules.standard.expressionBy reader level (state.facing (token :: others)) =
      repeatTurns (Rules.standard.continuationTurn reader level) left after := by
  have found : Rules.standard.opening (state.facing (token :: others)).stream.current.kind =
      some rule := Rules.opening_of_opens opens
  unfold Rules.expressionBy
  rw [bind_of_ok (current_run _), found]
  exact bind_of_ok read

/-- The loop takes an operator above its level, and what is read behind it as the right part. -/
theorem continuations_link (link : Link) {left right : Node} {last : Token} {others : List Token}
    (proceeds : ∀ level state, Proceeds (reader level) state) (above : level < link.level)
    (read : reader link.level (state.facing others) = .ok (some right) after) :
    repeatTurns (Rules.standard.continuationTurn reader level) (some left)
        (state.facing (last :: link.operator.token :: others)) =
      repeatTurns (Rules.standard.continuationTurn reader level)
        (some (.binary link.operator.token left link.operator.token.literal right)) after := by
  have isNext : (state.facing (last :: link.operator.token :: others)).stream.next =
      link.operator.token := rfl
  have found : Rules.standard.continuation link.operator.token.kind = some .binary :=
    Rules.continuation_of_operator link.lowest_lt_level link.operator_ne_leftParen
  apply repeatTurns_again (taking_continuationTurn proceeds Rules.standard level)
  rw [continuationTurn_of_some (by rw [isNext]; exact above) (by rw [isNext]; exact found)]
  exact bind_of_ok (binary_facing read)

theorem continuations_stop {left : Option Node} {last : Token}
    (stops : ¬ level < (ahead rest).precedence) :
    repeatTurns (Rules.standard.continuationTurn reader level) left (state.facing (last :: rest)) =
      .ok left (state.facing (last :: rest)) := by
  apply repeatTurns_done
  apply continuationTurn_of_not_lt
  rw [next_facing]
  exact stops

/-! ### Operands -/

theorem expressionBy_atom (atom : Atom) (state : State) :
    Rules.standard.expressionBy reader level (state.facing (atom.token :: rest)) =
      repeatTurns (Rules.standard.continuationTurn reader level) (some atom.tree)
        (state.facing (atom.token :: rest)) := by
  cases atom with
  | identifier name =>
      have opens : Rules.Opens name.token.kind .identifier := by
        rw [name.kind_eq]
        exact .identifier
      exact expressionBy_facing .identifier opens rfl
  | integer numeral =>
      have opens : Rules.Opens numeral.token.kind .integer := by
        rw [numeral.kind_eq]
        exact .integer
      exact expressionBy_facing .integer opens (integer_facing state numeral rest)
  | boolean word => exact expressionBy_facing .boolean (.boolean word.kind_mem) rfl

/-- An operand is read to its last token, and the loop goes on from there with its tree. -/
theorem expressionBy_operand (operand : Operand) {levels : Nat}
    (enough : operand.signs.length ≤ levels) (stops : ¬ .unary < (ahead rest).precedence)
    (level : Precedence) (state : State) :
    Rules.standard.expressionBy (Rules.standard.expression levels) level
        (state.facing (operand.tokens ++ rest)) =
      repeatTurns (Rules.standard.continuationTurn (Rules.standard.expression levels) level)
        (some operand.tree) (state.facing (operand.atom.token :: rest)) := by
  obtain ⟨signs, atom⟩ := operand
  induction signs generalizing levels level with
  | nil => exact expressionBy_atom atom state
  | cons sign signs inductionHypothesis =>
      rw [List.length_cons] at enough
      obtain ⟨fewer, rfl⟩ : ∃ fewer, levels = fewer + 1 := ⟨levels - 1, by omega⟩
      have read : Rules.standard.expression (fewer + 1) .unary
          (state.facing ((⟨signs, atom⟩ : Operand).tokens ++ rest)) =
            .ok (some (⟨signs, atom⟩ : Operand).tree) (state.facing (atom.token :: rest)) := by
        rw [Rules.expression, inductionHypothesis .unary (Nat.le_of_succ_le_succ enough)]
        exact continuations_stop stops
      exact expressionBy_facing .unary (.unary sign.kind_mem) (unary_facing read)

/-! ### Chains -/

/-- A reader reads a chain in front of some tokens up to a level: it answers with the tree of
the part above the level, on whose last token it stops. -/
def ReadsChain (reader : ExpressionReader) (level : Precedence) (chain : Chain)
    (rest : List Token) : Prop :=
  ∀ state : State, reader level (state.facing (chain.tokens ++ rest)) =
    .ok (some (chain.upTo level).tree)
      (state.facing ((chain.upTo level).last ::
        ((Link.beyond level chain.links).flatMap Link.tokens ++ rest)))

section Loop

variable (proceeds : ∀ level state, Proceeds (reader level) state)
include proceeds

/-- The loop takes one operator and all the links above it. The links taken so far are divided
at that operator, when none of theirs is looser. -/
theorem continuations_step (first : Operand) {taken others : List Link} {link : Link}
    (isAbove : level < link.level) (notLooser : ∀ other ∈ taken, ¬ other.level < link.level)
    (reads : ReadsChain reader link.level ⟨link.operand, others⟩ rest) (state : State) :
    let read := taken ++ link :: Link.above link.level others
    repeatTurns (Rules.standard.continuationTurn reader level) (some (⟨first, taken⟩ : Chain).tree)
        (state.facing ((⟨first, taken⟩ : Chain).last ::
          ((link :: others).flatMap Link.tokens ++ rest))) =
      repeatTurns (Rules.standard.continuationTurn reader level) (some (⟨first, read⟩ : Chain).tree)
        (state.facing ((⟨first, read⟩ : Chain).last ::
          ((Link.beyond link.level others).flatMap Link.tokens ++ rest))) := by
  intro read
  rw [Chain.tree_divided first (.ofAbove taken link others notLooser), Chain.last_append]
  exact continuations_link link proceeds isAbove (reads state)

/-- The loop goes through the links above its level, when the chain behind each of their
operators is read up to the level of that operator. -/
theorem continuations_chain (stops : ¬ level < (ahead rest).precedence) (first : Operand)
    (links taken : List Link)
    (notLooser : ∀ next ∈ links.head?, ∀ link ∈ taken, ¬ link.level < next.level)
    (reads : ∀ link others, link :: others <:+ links → level < link.level →
      ReadsChain reader link.level ⟨link.operand, others⟩ rest) (state : State) :
    let read := taken ++ Link.above level links
    repeatTurns (Rules.standard.continuationTurn reader level) (some (⟨first, taken⟩ : Chain).tree)
        (state.facing ((⟨first, taken⟩ : Chain).last :: (links.flatMap Link.tokens ++ rest))) =
      .ok (some (⟨first, read⟩ : Chain).tree)
        (state.facing ((⟨first, read⟩ : Chain).last ::
          ((Link.beyond level links).flatMap Link.tokens ++ rest))) := by
  dsimp only
  obtain ⟨count, counted⟩ : ∃ count, links.length = count := ⟨_, rfl⟩
  induction count using Nat.strongRecOn generalizing links taken with
  | ind count inductionHypothesis =>
      cases links with
      | nil =>
          rw [Link.above, List.takeWhile_nil, List.append_nil]
          exact continuations_stop stops
      | cons link others =>
          by_cases isAbove : level < link.level
          · have suffix := (Link.beyond_suffix link.level others).trans (List.suffix_cons link _)
            have fewer : (Link.beyond link.level others).length < count := by
              have atMost := (Link.beyond_suffix link.level others).length_le
              rw [List.length_cons] at counted
              omega
            have stillNotLooser : ∀ next ∈ (Link.beyond link.level others).head?,
                ∀ other ∈ taken ++ link :: Link.above link.level others,
                  ¬ other.level < next.level := by
              intro next isHead other listed looser
              have notAbove := Nat.le_of_not_lt (Link.not_lt_level_of_head? isHead)
              exact (Chain.Division.ofAbove taken link others (notLooser link rfl)).not_lt_middle
                other listed (Nat.lt_of_lt_of_le looser notAbove)
            rw [continuations_step proceeds first isAbove (notLooser link rfl)
                (reads link others (List.suffix_refl _) isAbove) state,
              inductionHypothesis _ fewer _ _ stillNotLooser
                (fun next behind listed => reads next behind (listed.trans suffix)) rfl,
              Link.above_cons_of_lt isAbove, Link.beyond_cons_of_lt isAbove,
              List.append_assoc, List.cons_append]
          · rw [Link.above_cons_of_not_lt isAbove, Link.beyond_cons_of_not_lt isAbove,
              List.append_nil]
            exact continuations_stop isAbove

end Loop

theorem stops_of_ends {kind : TokenKind} (ends : kind ∉ continuing) (level : Precedence) :
    ¬ level < kind.precedence := fun goesOn =>
  ends ((TokenKind.lowest_lt_precedence_iff kind).mp (Precedence.lowest_lt_of_lt goesOn))

/-- No operator of a chain binds tighter than a sign, nor does what is behind the chain. -/
theorem stops_behind_operand (ends : ahead rest ∉ continuing) (links : List Link) :
    ¬ .unary < (ahead (links.flatMap Link.tokens ++ rest)).precedence := by
  cases links with
  | nil => exact stops_of_ends ends .unary
  | cons link others => exact Nat.lt_asymm link.level_lt_unary

/-- A chain is read when there is a level for each of its levels of binding above the one read
up to, one for an operand, and one for each sign in front of an operand. -/
theorem readsChain_expression {signs levels : Nat} (ends : ahead rest ∉ continuing)
    (level : Precedence) (chain : Chain)
    (fewSigns : ∀ operand ∈ chain.operands, operand.signs.length ≤ signs)
    (enough : signs + 1 + (Precedence.product.rank - level.rank) ≤ levels) :
    ReadsChain (Rules.standard.expression levels) level chain rest := by
  induction levels generalizing level chain with
  | zero => omega
  | succ levels inductionHypothesis =>
      intro state
      obtain ⟨first, links⟩ := chain
      have enoughFirst : first.signs.length ≤ levels := by
        have few := fewSigns first List.mem_cons_self
        omega
      -- Behind an operator above the level there are fewer levels of binding to climb, so one level
      -- of nesting less is enough for the rest of the chain.
      have reads : ∀ link others, link :: others <:+ links → level < link.level →
          ReadsChain (Rules.standard.expression levels) link.level ⟨link.operand, others⟩ rest := by
        intro link others suffix isAbove
        apply inductionHypothesis
        · intro operand listed
          have among : operand ∈ (link :: others).map Link.operand := listed
          exact fewSigns operand
            (List.mem_cons_of_mem _ ((suffix.sublist.map Link.operand).subset among))
        · have atMost : link.level.rank ≤ Precedence.product.rank :=
            Nat.le_of_lt_succ link.level_lt_unary
          have above : level.rank < link.level.rank := isAbove
          omega
      have tokens : (⟨first, links⟩ : Chain).tokens ++ rest =
          first.tokens ++ (links.flatMap Link.tokens ++ rest) := List.append_assoc ..
      rw [Rules.expression, tokens,
        expressionBy_operand first enoughFirst (stops_behind_operand ends links) level state,
        ← Chain.tree_single first]
      exact continuations_chain (proceeds_expression levels) (stops_of_ends ends level) first links
        [] (by simp) reads state

/-- Ahead of a chain of operators, behind which no operator and no call goes on, an expression
is read up to any level without a report: the tokens in front of the first operator that is not
above the level are taken, the last of them being the current token, and the answer is the tree
of that part, which is divided at its last operator of the loosest level again and again. -/
theorem reader_chain (state : State) (chain : Chain) (rest : List Token) (signs : Nat)
    (level : Precedence) (isAhead : state.stream.upcoming = chain.tokens ++ rest)
    (ends : ahead rest ∉ continuing)
    (fewSigns : ∀ operand ∈ chain.operands, operand.signs.length ≤ signs)
    (room : state.depth + signs ≤ 95) :
    ∃ last, (chain.upTo level).tokens.getLast? = some last ∧
      Rules.standard.reader nestingLimit level state =
        .ok (some (chain.upTo level).tree)
          { state with stream := { state.stream with
              upcoming := last :: ((Link.beyond level chain.links).flatMap Link.tokens ++ rest) } } := by
  refine ⟨(chain.upTo level).last, (chain.upTo level).getLast?_tokens, ?_⟩
  have enough : signs + 1 + (Precedence.product.rank - level.rank) ≤
      nestingLimit - state.depth := by
    have limit : nestingLimit = 100 := rfl
    have tightest : Precedence.product.rank = 5 := rfl
    have loosest : 1 ≤ level.rank := by cases level <;> decide
    omega
  have counts := runsAtDepth_expressionBelow Rules.standard
    (show state.depth ≤ nestingLimit by unfold nestingLimit; omega)
    (show nestingLimit < state.depth + (nestingLimit + 1) by omega) level state
  have reads := readsChain_expression ends level chain fewSigns enough state
  have faces : state.facing (chain.tokens ++ rest) = state := by
    rw [← isAhead]
    rfl
  rw [faces] at reads
  unfold RunsAtDepth at counts
  rw [reads] at counts
  exact counts

/-- The name at a column of the first line. -/
def nameAt (column : Nat) (literal : String) : Operand :=
  ⟨[], .identifier ⟨⟨.ident, literal, 1, column⟩, List.mem_singleton_self _⟩⟩

/-- The chain `a - b * !c - d == e`, written without blanks. -/
def differences : Chain :=
  let bang : Terminal [.bang, .minus] := ⟨⟨.bang, "!", 1, 5⟩, by decide⟩
  ⟨nameAt 1 "a", [⟨⟨⟨.minus, "-", 1, 2⟩, by decide⟩, nameAt 3 "b"⟩,
    ⟨⟨⟨.asterisk, "*", 1, 4⟩, by decide⟩, ⟨[bang], (nameAt 6 "c").atom⟩⟩,
    ⟨⟨⟨.minus, "-", 1, 7⟩, by decide⟩, nameAt 8 "d"⟩,
    ⟨⟨⟨.equal, "==", 1, 9⟩, by decide⟩, nameAt 11 "e"⟩]⟩

/-- At the depth where one sign is still safe, the differences are read up to the level of
equality: in front of the equals sign, and grouped as `(a - (b * (!c))) - d`. -/
theorem reader_chain_differences :
    let state : State := ⟨.ofString "a-b*!c-d==e;", [], 94⟩
    let semicolon : Token := ⟨.semicolon, ";", 1, 12⟩
    state.stream.upcoming = differences.tokens ++ [semicolon] ∧
      ahead [semicolon] ∉ continuing ∧
      (∀ operand ∈ differences.operands, operand.signs.length ≤ 1) ∧
      state.depth + 1 ≤ 95 ∧
      (differences.upTo .equality).tree.render = "((a - (b * (!c))) - d)" ∧
      ∃ last, (differences.upTo .equality).tokens.getLast? = some last ∧
        Rules.standard.reader nestingLimit .equality state =
          .ok (some (differences.upTo .equality).tree)
            { state with stream := { state.stream with
                upcoming := last ::
                  ((Link.beyond .equality differences.links).flatMap Link.tokens ++
                    [semicolon]) } } := by
  intro state semicolon
  have isAhead : state.stream.upcoming = differences.tokens ++ [semicolon] := by decide +kernel
  have ends : ahead [semicolon] ∉ continuing := by decide
  have fewSigns : ∀ operand ∈ differences.operands, operand.signs.length ≤ 1 := by decide
  have room : state.depth + 1 ≤ 95 := by decide
  have text : (differences.upTo .equality).tree.render = "((a - (b * (!c))) - d)" := by
    decide +kernel
  exact ⟨isAhead, ends, fewSigns, room, text,
    reader_chain state differences [semicolon] 1 .equality isAhead ends fewSigns room⟩

end Parser

end MonkeySyntax
