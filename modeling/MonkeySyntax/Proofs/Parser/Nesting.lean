import MonkeySyntax.Proofs.Parser.Completeness
import MonkeySyntax.Proofs.Parser.Formation
import MonkeySyntax.Proofs.Token.Joining
import MonkeySyntax.Proofs.Tree.Nesting

/-!
Contract: what the nesting limit says about the height of a tree.

Owns:
- the nesting of the tree of a text, which the limit bounds, and its height, which the limit
  bounds together with the longest chain of left parts;
- texts without errors whose trees are as high as one likes, since a chain costs no level.

Does not own: how deep a rendering nests, which counts its parentheses.
-/

set_option autoImplicit false

namespace MonkeySyntax

open Grammar

/-- Within every limit, a tree has so many nodes at most on a path down when steps to left
parts are not counted, and its height is at most that for each part of its longest chain. -/
theorem nesting_le_of_parseWith (limit : Nat) (source : String) :
    (parseWith .standard limit source).program.nesting ≤ 3 * limit + 1 ∧
      (parseWith .standard limit source).program.height ≤
        (3 * limit + 1) * ((parseWith .standard limit source).program.longestChain + 1) := by
  have nested : (parseWith .standard limit source).program.nesting ≤ 3 * limit + 1 :=
    Node.nesting_program_le fun statement listed => formed_of_mem_parseWith listed
  exact ⟨nested, (Node.height_le _).trans (Nat.mul_le_mul_right _ nested)⟩

/-! ### Long sums -/

/-- A sum with so many signs. -/
def sumText : Nat → String
  | 0 => "a"
  | signs + 1 => sumText signs ++ "+" ++ "a"

/-- The tokens of a longer sum: a sign and a name behind those of the sum. -/
theorem TokenStream.upcoming_sumText (signs : Nat) :
    ∃ (sign : Terminal [.plus]) (name : Terminal [.ident]),
      (ofString (sumText (signs + 1))).upcoming =
        (ofString (sumText signs)).upcoming ++ [sign.token, name.token] := by
  have isSign : TokenKind.singles.lookup '+' = some .plus := rfl
  have withSign : (ofString (sumText signs ++ "+")).upcoming =
      (ofString (sumText signs)).upcoming ++
        [Token.ofPlace (.behind (sumText signs).toList) .plus "+"] :=
    upcoming_ofString_single isSign rfl (sumText signs)
  have bounds : ∀ last ∈ (ofString (sumText signs ++ "+")).upcoming.getLast?,
      Bounds last.kind "a".toList := by
    have boundsSign : Bounds .plus "a".toList := bounds_of_other (by decide) _
    rw [withSign, List.getLast?_concat]
    rintro last ⟨⟩
    exact boundsSign
  have spelled : Spelled .ident "a".toList :=
    Spelled.word (List.cons_ne_nil 'a' []) (List.forall_mem_singleton.mpr (by decide))
  have withName := upcoming_ofString_spelled spelled bounds
  rw [withSign, List.append_assoc] at withName
  exact ⟨⟨_, List.mem_singleton_self _⟩, ⟨_, List.mem_singleton_self _⟩, withName⟩

/-- A name is an operand of every level. -/
theorem exists_operand (name : Terminal [.ident]) (level : Precedence)
    (isLevel : .lowest < level) : ∃ operand : Expr level, operand.Separated ∧
      operand.yield = [name.token] ∧ operand.need = 1 ∧ operand.tree = name.identifier := by
  obtain ⟨operand, same⟩ :=
    (Expr.identifier name).exists_looser level isLevel (Precedence.rank_le_call level)
  exact ⟨operand, same.separated trivial, same.yield, same.need, same.tree⟩

/-- The left operands of a sum are one under the other, all on one level. -/
theorem exists_sum (signs : Nat) : ∃ sum : Expr .sum, sum.Separated ∧
    (TokenStream.ofString (sumText signs)).upcoming = sum.yield ∧ sum.need ≤ 2 ∧
      sum.tree.height = signs + 1 := by
  induction signs with
  | zero =>
      let name : Terminal [.ident] := ⟨⟨.ident, "a", 1, 1⟩, List.mem_singleton_self _⟩
      have isName : (TokenStream.ofString "a").upcoming = [name.token] := by decide +kernel
      obtain ⟨sum, separated, yields, need, isTree⟩ := exists_operand name .sum (by decide)
      exact ⟨sum, separated, isName.trans yields.symm, by omega, by rw [isTree]; rfl⟩
  | succ signs inductionHypothesis =>
      obtain ⟨left, separated, yields, need, isHeight⟩ := inductionHypothesis
      obtain ⟨sign, name, longer⟩ := TokenStream.upcoming_sumText signs
      obtain ⟨right, separatedRight, yieldsRight, needRight, isTree⟩ :=
        exists_operand name (Precedence.tighter .sum) (by decide)
      have isOperator : sign.token.kind ∈ operatorsAt .sum := by rw [sign.kind_eq]; decide
      refine ⟨.binary left ⟨sign.token, isOperator⟩ right, ⟨separated, separatedRight⟩, ?_, ?_, ?_⟩
      · rw [longer, yields, Expr.yield, yieldsRight]
      · rw [Expr.need, needRight]
        omega
      · have heightRight : right.tree.extent 1 = 1 := by rw [isTree]; rfl
        rw [Node.height] at isHeight ⊢
        rw [Expr.tree, Node.extent, isHeight, heightRight]
        exact Nat.max_eq_left (by omega)

/-- A sum has no errors and is as high as it has signs, however many these are. -/
theorem height_sumText (signs : Nat) :
    (parse (sumText signs)).errors = [] ∧
      (parse (sumText signs)).program.height = signs + 3 := by
  obtain ⟨sum, separated, yields, need, isHeight⟩ := exists_sum signs
  obtain ⟨value, same⟩ := sum.exists_looser .equality (by decide) (by decide)
  let statement : Statement := .expressionStatement value none
  have separatedAll : SeparatedAll [statement] :=
    ⟨same.separated separated, fun _ => nofun, trivial⟩
  have isYield : (tokenize (sumText signs)).dropLast = yieldAll [statement] := by
    rw [tokenize_dropLast, yields, ← same.yield]
    simp [statement, yieldAll, Statement.yield, yieldEnding]
  have enough : ∀ one ∈ [statement], one.need ≤ 100 := by
    rw [List.forall_mem_singleton, Statement.need, same.need]
    omega
  rw [parse_eq_of_need_le separatedAll isYield enough]
  refine ⟨rfl, ?_⟩
  rw [Node.height] at isHeight
  rw [Parsed.program, treesAll, treesAll, Statement.tree, same.tree, Node.height, Node.extent,
    Node.greatestExtent, Node.greatestExtent, Node.extent, isHeight]
  rfl

/-- No height bounds the trees of all texts. -/
theorem not_exists_height_bound :
    ¬ ∃ bound, ∀ source, (parse source).program.height ≤ bound := by
  rintro ⟨bound, bounds⟩
  have atMost := bounds (sumText bound)
  rw [(height_sumText bound).2] at atMost
  omega

end MonkeySyntax
