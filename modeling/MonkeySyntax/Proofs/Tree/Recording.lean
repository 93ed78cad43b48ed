import MonkeySyntax.Proofs.Parser.Formation
import MonkeySyntax.Proofs.Tree.Depth
import MonkeySyntax.Tree.Record

/-!
Contract: what the JSON value of a tree keeps of it.

Owns:
- a tree with other tokens, and that its classes and its JSON value do not change with them;
- the nodes whose text is that of their token, and that a rendering shows no other token;
- that a JSON value loses the tokens of a tree and nothing else;
- the literals of the tokens that the tree of a text shows, which its JSON value tells as well.

Main statement: texts whose trees have the same JSON value have trees of the same shape, and the
same rendering but for zeros in front of numbers.
-/

set_option autoImplicit false

namespace MonkeySyntax

open Grammar (decimal Terminal)

namespace Node

/-! ### Other tokens -/

mutual

/-- A tree with other tokens, each of which is chosen for its node. -/
def retokened (choose : Node → Token → Token) : Node → Node
  | node@(.identifier token value) => .identifier (choose node token) value
  | node@(.integer token value) => .integer (choose node token) value
  | node@(.boolean token value) => .boolean (choose node token) value
  | node@(.unary token operator operand) =>
      .unary (choose node token) operator (operand.retokened choose)
  | node@(.binary token left operator right) =>
      .binary (choose node token) (left.retokened choose) operator (right.retokened choose)
  | node@(.conditional token condition consequence none) =>
      .conditional (choose node token) (condition.retokened choose)
        (consequence.retokened choose) none
  | node@(.conditional token condition consequence (some alternative)) =>
      .conditional (choose node token) (condition.retokened choose)
        (consequence.retokened choose) (some (alternative.retokened choose))
  | node@(.function token parameters body) =>
      .function (choose node token) (retokenedAll choose parameters) (body.retokened choose)
  | node@(.call token callee arguments) =>
      .call (choose node token) (callee.retokened choose) (retokenedAll choose arguments)
  | node@(.letStatement token name value) =>
      .letStatement (choose node token) (name.retokened choose) (value.retokened choose)
  | node@(.returnStatement token value) =>
      .returnStatement (choose node token) (value.retokened choose)
  | node@(.expressionStatement token expression) =>
      .expressionStatement (choose node token) (expression.retokened choose)
  | node@(.block token statements) =>
      .block (choose node token) (retokenedAll choose statements)
  | .program statements => .program (retokenedAll choose statements)
  | .sequence items => .sequence (retokenedAll choose items)
  | .level value => .level value

/-- Some trees with other tokens. -/
def retokenedAll (choose : Node → Token → Token) : List Node → List Node
  | [] => []
  | node :: nodes => node.retokened choose :: retokenedAll choose nodes

end

variable (choose : Node → Token → Token)

theorem retokenedAll_eq_map (nodes : List Node) :
    retokenedAll choose nodes = nodes.map (retokened choose) := by
  induction nodes with
  | nil => rfl
  | cons node nodes inductionHypothesis =>
      rw [retokenedAll, inductionHypothesis, List.map_cons]

theorem retokened_conditional (token : Token) (condition consequence : Node)
    (alternative : Option Node) :
    (conditional token condition consequence alternative).retokened choose =
      .conditional (choose (.conditional token condition consequence alternative) token)
        (condition.retokened choose) (consequence.retokened choose)
        (alternative.map (retokened choose)) := by
  cases alternative <;> rw [retokened] <;> rfl

theorem className_retokened (node : Node) :
    (node.retokened choose).className = node.className := by
  cases node with
  | conditional => rw [retokened_conditional]; rfl
  | _ => rfl

theorem children_retokened (node : Node) :
    (node.retokened choose).children = node.children.map (retokened choose) := by
  cases node with
  | conditional _ _ _ alternative =>
      rw [retokened_conditional]
      cases alternative <;> rfl
  | _ => simp [retokened, children, retokenedAll_eq_map]

/-- The walk over a tree meets the same classes whatever its tokens are. -/
theorem map_className_preorder_retokened (node : Node) :
    (node.retokened choose).preorder.map className = node.preorder.map className := by
  induction node using children_induction with
  | step node inductionHypothesis =>
      rw [preorder_eq_cons, preorder_eq_cons node, children_retokened, preorderAll_eq_flatMap,
        preorderAll_eq_flatMap, List.flatMap_map, List.map_cons, List.map_cons,
        className_retokened, List.map_flatMap, List.map_flatMap]
      exact congrArg _ (List.flatMap_congr inductionHypothesis)

mutual

theorem retokened_id : ∀ node : Node, node.retokened (fun _ token => token) = node
  | .identifier .. | .integer .. | .boolean .. | .level .. => rfl
  | .unary _ _ operand => by rw [retokened, retokened_id operand]
  | .binary _ left _ right => by rw [retokened, retokened_id left, retokened_id right]
  | .conditional _ condition consequence none => by
      rw [retokened, retokened_id condition, retokened_id consequence]
  | .conditional _ condition consequence (some alternative) => by
      rw [retokened, retokened_id condition, retokened_id consequence, retokened_id alternative]
  | .function _ parameters body => by
      rw [retokened, retokenedAll_id parameters, retokened_id body]
  | .call _ callee arguments => by
      rw [retokened, retokened_id callee, retokenedAll_id arguments]
  | .letStatement _ name value => by rw [retokened, retokened_id name, retokened_id value]
  | .returnStatement _ value => by rw [retokened, retokened_id value]
  | .expressionStatement _ expression => by rw [retokened, retokened_id expression]
  | .block _ statements => by rw [retokened, retokenedAll_id statements]
  | .program statements => by rw [retokened, retokenedAll_id statements]
  | .sequence items => by rw [retokened, retokenedAll_id items]

theorem retokenedAll_id : ∀ nodes : List Node,
    retokenedAll (fun _ token => token) nodes = nodes
  | [] => rfl
  | node :: nodes => by rw [retokenedAll, retokened_id node, retokenedAll_id nodes]

end

/-! ### JSON values -/

theorem record_conditional (token : Token) (condition consequence : Node)
    (alternative : Option Node) :
    (conditional token condition consequence alternative).record =
      .object [("kind", .string "IfExpression"), ("condition", condition.record),
        ("consequence", consequence.record),
        ("alternative", (alternative.map record).getD .null)] := by
  cases alternative <;> rw [record] <;> rfl

mutual

theorem record_retokened : ∀ node : Node, (node.retokened choose).record = node.record
  | .identifier .. | .integer .. | .boolean .. | .level .. => rfl
  | .unary _ _ operand => by simp [retokened, record, record_retokened operand]
  | .binary _ left _ right => by
      simp [retokened, record, record_retokened left, record_retokened right]
  | .conditional _ condition consequence none => by
      simp [retokened, record, record_retokened condition, record_retokened consequence]
  | .conditional _ condition consequence (some alternative) => by
      simp [retokened, record, record_retokened condition, record_retokened consequence,
        record_retokened alternative]
  | .function _ parameters body => by
      simp [retokened, record, recordAll_retokenedAll parameters, record_retokened body]
  | .call _ callee arguments => by
      simp [retokened, record, record_retokened callee, recordAll_retokenedAll arguments]
  | .letStatement _ name value => by
      simp [retokened, record, record_retokened name, record_retokened value]
  | .returnStatement _ value => by simp [retokened, record, record_retokened value]
  | .expressionStatement _ expression => by
      simp [retokened, record, record_retokened expression]
  | .block _ statements => by simp [retokened, record, recordAll_retokenedAll statements]
  | .program statements => by simp [retokened, record, recordAll_retokenedAll statements]
  | .sequence items => by simp [retokened, record, recordAll_retokenedAll items]

theorem recordAll_retokenedAll : ∀ nodes : List Node,
    recordAll (retokenedAll choose nodes) = recordAll nodes
  | [] => rfl
  | node :: nodes => by
      simp [retokenedAll, recordAll, record_retokened node, recordAll_retokenedAll nodes]

end

theorem record_ne_null (node : Node) : node.record ≠ .null := by
  cases node with
  | conditional => rw [record_conditional]; nofun
  | _ => rw [record]; nofun

/-- What a node is rendered by, if it is rendered by the literal of its token: the digits of its
value, or the word that its class is read from. -/
def word : Node → Option String
  | .integer _ value => some (toString value)
  | .boolean _ value => some (if value then "true" else "false")
  | .function .. => some "fn"
  | .letStatement .. => some "let"
  | .returnStatement .. => some "return"
  | _ => none

/-- A token that tells nothing that its node does not. -/
def bare (node : Node) (_ : Token) : Token := ⟨.illegal, node.word.getD "", 0, 0⟩

mutual

/-- Trees with the same JSON value differ in nothing but their tokens. -/
theorem bare_eq_of_record : ∀ node other : Node, node.record = other.record →
    node.retokened bare = other.retokened bare := by
  intro node other same
  -- The first member of an object tells its class, so only nodes of one class are left.
  cases node <;> cases other <;>
    simp only [record, record_conditional, Json.object.injEq, Json.array.injEq, Json.string.injEq,
      Json.int.injEq, Json.bool.injEq, List.cons.injEq, Prod.mk.injEq, String.reduceEq,
      reduceCtorEq, true_and, and_true, false_and, and_false] at same
  case identifier.identifier | integer.integer | boolean.boolean => rw [same]; rfl
  case unary.unary =>
    simp only [retokened, same.1, bare_eq_of_record _ _ same.2]
    rfl
  case binary.binary =>
    simp only [retokened, same.1, bare_eq_of_record _ _ same.2.1, bare_eq_of_record _ _ same.2.2]
    rfl
  case conditional.conditional alternative _ _ _ otherAlternative =>
    have sameAlternative : alternative.map (retokened bare) =
        otherAlternative.map (retokened bare) := by
      cases alternative <;> cases otherAlternative
      · rfl
      · exact absurd same.2.2.symm (record_ne_null _)
      · exact absurd same.2.2 (record_ne_null _)
      · exact congrArg some (bare_eq_of_record _ _ same.2.2)
    simp only [retokened_conditional, bare_eq_of_record _ _ same.1,
      bare_eq_of_record _ _ same.2.1, sameAlternative]
    rfl
  case function.function =>
    simp only [retokened, bareAll_eq_of_record _ _ same.1, bare_eq_of_record _ _ same.2]
    rfl
  case call.call =>
    simp only [retokened, bare_eq_of_record _ _ same.1, bareAll_eq_of_record _ _ same.2]
    rfl
  case letStatement.letStatement =>
    simp only [retokened, bare_eq_of_record _ _ same.1, bare_eq_of_record _ _ same.2]
    rfl
  case returnStatement.returnStatement | expressionStatement.expressionStatement =>
    simp only [retokened, bare_eq_of_record _ _ same]
    rfl
  case block.block =>
    simp only [retokened, bareAll_eq_of_record _ _ same]
    rfl
  case program.program | sequence.sequence =>
    simp only [retokened, bareAll_eq_of_record _ _ same]
  case level.level => rw [Precedence.eq_of_rank_eq (Int.ofNat_inj.mp same)]

theorem bareAll_eq_of_record : ∀ nodes others : List Node, recordAll nodes = recordAll others →
    retokenedAll bare nodes = retokenedAll bare others
  | [], [], _ => rfl
  | [], _ :: _, same => by cases same
  | _ :: _, [], same => by cases same
  | node :: nodes, other :: others, same => by
      rw [recordAll, recordAll, List.cons.injEq] at same
      rw [retokenedAll, retokenedAll, bare_eq_of_record node other same.1,
        bareAll_eq_of_record nodes others same.2]

end

/-- A JSON value tells everything of its tree but the tokens. -/
theorem record_eq_iff {node other : Node} :
    node.record = other.record ↔ node.retokened bare = other.retokened bare := by
  refine ⟨bare_eq_of_record node other, fun same => ?_⟩
  rw [← record_retokened bare node, same, record_retokened]

/-! ### Renderings -/

/-- A rendering shows no other tokens than those of the nodes with a word. -/
theorem render_retokened {choose other : Node → Token → Token} {node : Node}
    (same : ∀ visited ∈ node.preorder, visited.word ≠ none → ∀ token ∈ visited.token?,
      (choose visited token).literal = (other visited token).literal) :
    (node.retokened choose).render = (node.retokened other).render := by
  induction node using children_induction with
  | step node inductionHypothesis =>
      have below : ∀ child ∈ node.children,
          (child.retokened choose).render = (child.retokened other).render :=
        fun child isChild => inductionHypothesis child isChild fun visited met =>
          same visited (mem_preorder.mpr (Or.inr ⟨child, isChild, met⟩))
      have here := same node (self_mem_preorder node)
      have allSame : ∀ nodes : List Node,
          (∀ child ∈ nodes, (child.retokened choose).render = (child.retokened other).render) →
          (retokenedAll choose nodes).map render = (retokenedAll other nodes).map render :=
        fun nodes same => by
          simpa [retokenedAll_eq_map] using same
      cases node with
      | identifier | level => rfl
      | integer | boolean => exact here (Option.some_ne_none _) _ rfl
      | unary _ _ operand =>
          simp only [children, List.forall_mem_singleton] at below
          simp only [retokened, render, below]
      | binary _ left _ right =>
          simp only [children, List.forall_mem_cons] at below
          simp only [retokened, render, below.1, below.2.1]
      | conditional _ condition consequence alternative =>
          cases alternative with
          | none =>
              simp only [children, List.forall_mem_cons] at below
              simp only [retokened, render, below.1, below.2.1]
          | some alternative =>
              simp only [children, Option.toList_some, List.forall_mem_cons] at below
              simp only [retokened, render, below.1, below.2.1, below.2.2.1]
      | function _ parameters body =>
          simp only [children, List.forall_mem_append, List.forall_mem_singleton] at below
          simp only [retokened, render, below.2, here (Option.some_ne_none _) _ rfl,
            renderList_congr (allSame parameters below.1)]
      | call _ callee arguments =>
          simp only [children, List.forall_mem_cons] at below
          simp only [retokened, render, below.1, renderList_congr (allSame arguments below.2)]
      | letStatement _ name value =>
          simp only [children, List.forall_mem_cons] at below
          simp only [retokened, render, below.1, below.2.1, here (Option.some_ne_none _) _ rfl]
      | returnStatement _ value =>
          simp only [children, List.forall_mem_singleton] at below
          simp only [retokened, render, below, here (Option.some_ne_none _) _ rfl]
      | expressionStatement _ expression =>
          simp only [children, List.forall_mem_singleton] at below
          simp only [retokened, render, below]
      | block _ statements => exact renderAll_congr (allSame statements below)
      | program statements => exact renderAll_congr (allSame statements below)
      | sequence items =>
          simp only [retokened, render, renderList_congr (allSame items below)]

/-! ### Numerals -/

/-- A tree whose integer literals are spelled by the decimal digits of their values. -/
def inDecimal : Node → Node :=
  retokened fun node token =>
    match node with
    | .integer _ value => { token with literal := toString value }
    | _ => token

/-- Whether a node's token is spelled by the node's word. An integer literal may have zeros in
front of the digits of its value. -/
def Worded : Node → Prop
  | .integer token value => IsNumeral token.literal value
  | node => ∀ token ∈ node.token?, ∀ word ∈ node.word, token.literal = word

/-- Whether a node is an integer literal with a zero in front that its number does not need. -/
def HasSuperfluousZero (node : Node) : Prop :=
  node.className = "IntegerLiteral" ∧ node.tokenLiteral ≠ "0" ∧
    node.tokenLiteral.toList.head? = some '0'

instance : DecidablePred HasSuperfluousZero := fun node =>
  inferInstanceAs (Decidable (node.className = "IntegerLiteral" ∧ node.tokenLiteral ≠ "0" ∧
    node.tokenLiteral.toList.head? = some '0'))

theorem toString_of_isNumeral {token : Token} {value : Int}
    (isNumeral : IsNumeral token.literal value)
    (noZero : ¬(integer token value).HasSuperfluousZero) : toString value = token.literal := by
  obtain ⟨isNonempty, isDigit, rfl⟩ := isNumeral
  have isNumber : toString (decimal token.literal.toList : Int) =
      (decimal token.literal.toList).repr := rfl
  rw [isNumber, ← String.toList_inj, Nat.toList_repr]
  refine Grammar.toDigits_decimal _ (mt String.toList_eq_nil_iff.mp isNonempty) isDigit ?_
  by_cases isZero : token.literal = "0"
  · exact Or.inl (congrArg String.toList isZero)
  · exact Or.inr fun starts => noZero ⟨rfl, isZero, starts⟩

theorem render_inDecimal {node : Node} (worded : ∀ visited ∈ node.preorder, visited.Worded) :
    node.inDecimal.render = (node.retokened bare).render := by
  refine render_retokened fun visited met hasWord token isToken => ?_
  have isWorded := worded visited met
  cases visited with
  | integer => rfl
  | boolean | function | letStatement | returnStatement => exact isWorded token isToken _ rfl
  | _ => exact absurd rfl hasWord

/-- Numbers without superfluous zeros are spelled in decimal digits already. -/
theorem render_inDecimal_of_noZero {node : Node}
    (worded : ∀ visited ∈ node.preorder, visited.Worded)
    (noZero : ∀ visited ∈ node.preorder, ¬visited.HasSuperfluousZero) :
    node.inDecimal.render = node.render := by
  conv_rhs => rw [← retokened_id node]
  refine render_retokened fun visited met _ token isToken => ?_
  have isWorded := worded visited met
  cases visited with
  | integer other value =>
      cases isToken
      exact toString_of_isNumeral isWorded (noZero _ met)
  | _ => rfl

end Node

/-! ### The tree of a text -/

theorem Grammar.Terminal.literal_eq {kinds : List TokenKind} (terminal : Terminal kinds)
    (spelled : Spelled terminal.token.kind terminal.token.literal.toList) {word : String}
    (isKeyword : (word, terminal.token.kind) ∈ TokenKind.keywords) :
    terminal.token.literal = word := by
  have isWord := spelled.eq_of_keyword isKeyword
  rwa [String.ofList_toList] at isWord

theorem Formed.worded {role : Role} {tokens : List Token} {levels : Nat} {node : Node}
    (formed : Formed role tokens levels node) (spelled : SpelledAll tokens) : node.Worded := by
  induction formed with
  | integer numeral isAhead isRead => exact (Terminal.isNumeral (spelled _ isAhead) isRead).1
  | group _ inside => exact inside spelled
  | boolean word isAhead =>
      rintro _ ⟨⟩ _ ⟨⟩
      have isSpelled := spelled _ isAhead
      rcases List.mem_pair.mp word.kind_mem with isTrue | isFalse
      · rw [isTrue]
        exact word.literal_eq isSpelled (by rw [isTrue]; decide)
      · rw [isFalse]
        exact word.literal_eq isSpelled (by rw [isFalse]; decide)
  | function word isAhead | letStatement word isAhead | returnStatement word isAhead =>
      rintro _ ⟨⟩ _ ⟨⟩
      exact word.literal_eq (spelled _ isAhead) (by rw [word.kind_eq]; decide)
  | _ => exact fun _ _ => nofun

theorem worded_of_mem_preorder {source : String} {visited : Node}
    (met : visited ∈ (parse source).program.preorder) : visited.Worded := by
  rcases Node.mem_preorder.mp met with rfl | ⟨statement, listed, met⟩
  · exact fun _ => nofun
  · obtain ⟨_, _, _, isSuffix, formed⟩ :=
      Formed.somewhere_of_mem_preorder (formed_of_mem_parseWith listed).here met
    exact formed.worded fun token isAhead =>
      TokenStream.lexed_ofString source token (isSuffix.subset isAhead)

/-- Texts whose trees have the same JSON value, whether there are errors in them or not, have
trees of the same shape. The trees are rendered alike once every integer literal is spelled by
the decimal digits of its value, and as they stand if no literal has a superfluous zero. -/
theorem render_of_same_record (first second : String)
    (same : (parse first).program.record = (parse second).program.record) :
    (parse first).abandoned = none ∧ (parse second).abandoned = none ∧
      (parse first).program.preorder.map Node.className =
        (parse second).program.preorder.map Node.className ∧
      (parse first).program.inDecimal.render = (parse second).program.inDecimal.render ∧
      ((∀ node ∈ (parse first).program.preorder ++ (parse second).program.preorder,
          ¬node.HasSuperfluousZero) →
        (parse first).program.render = (parse second).program.render) := by
  have sameBare := Node.bare_eq_of_record _ _ same
  have sameDecimal : (parse first).program.inDecimal.render =
      (parse second).program.inDecimal.render := by
    rw [Node.render_inDecimal fun _ => worded_of_mem_preorder, sameBare,
      Node.render_inDecimal fun _ => worded_of_mem_preorder]
  refine ⟨abandoned_parse first, abandoned_parse second, ?_, sameDecimal, fun noZero => ?_⟩
  · rw [← Node.map_className_preorder_retokened Node.bare, sameBare,
      Node.map_className_preorder_retokened]
  · obtain ⟨noZeroFirst, noZeroSecond⟩ := List.forall_mem_append.mp noZero
    rw [← Node.render_inDecimal_of_noZero (fun _ => worded_of_mem_preorder) noZeroFirst,
      sameDecimal, Node.render_inDecimal_of_noZero (fun _ => worded_of_mem_preorder) noZeroSecond]

/-- A call behind a binding that could not be read, with and without a zero in front of its
argument, where the rendering shows the zero, and with other blanks, where it does not change. -/
theorem render_of_same_record_call :
    let first := parse "let 5; f(07, fn(x) \x7b !true \x7d)"
    let second := parse "let 5; f(7, fn(x) \x7b !true \x7d)"
    let third := parse "let 5;f ( 7, (fn(x)\x7b!true\x7d) );"
    first.errors ≠ [] ∧ first.program.record = second.program.record ∧
      first.program.preorder.map Node.className = second.program.preorder.map Node.className ∧
      first.program.inDecimal.render = second.program.inDecimal.render ∧
      first.program.render ≠ second.program.render ∧
      second.program.record = third.program.record ∧
      (∀ node ∈ second.program.preorder ++ third.program.preorder, ¬node.HasSuperfluousZero) ∧
      second.program.render = third.program.render := by
  intro first second third
  have sameFirst : first.program.record = second.program.record :=
    Node.record_eq_iff.mpr (by decide +kernel)
  have sameThird : second.program.record = third.program.record :=
    Node.record_eq_iff.mpr (by decide +kernel)
  have noZero : ∀ node ∈ second.program.preorder ++ third.program.preorder,
      ¬node.HasSuperfluousZero := by decide +kernel
  obtain ⟨-, -, sameWalk, sameDecimal, -⟩ := render_of_same_record _ _ sameFirst
  obtain ⟨-, -, -, -, sameRendering⟩ := render_of_same_record _ _ sameThird
  exact ⟨by decide +kernel, sameFirst, sameWalk, sameDecimal, by decide +kernel, sameThird,
    noZero, sameRendering noZero⟩

end MonkeySyntax
