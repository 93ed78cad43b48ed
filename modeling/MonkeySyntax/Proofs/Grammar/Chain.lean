import Mathlib.Data.List.TakeWhile
import MonkeySyntax.Proofs.Grammar.Phrase

/-!
Contract: operands with binary operators between them, and how they are grouped.

Owns:
- chains of operands, which are names and literals behind any signs, with their tokens;
- the place at which a chain is divided: its last operator of the loosest level;
- the tree of a chain, which divides it there again and again;
- the part of a chain that is above a level.

Does not own: parsing. The tree is said for the chain as a whole, without an order in which
its tokens are read.
-/

set_option autoImplicit false

namespace MonkeySyntax

namespace Grammar

/-! ### Operands -/

/-- A name or a literal. -/
inductive Atom where
  | identifier (name : Terminal [.ident])
  | integer (numeral : IntegerLiteral)
  | boolean (word : Terminal [.trueWord, .falseWord])

def Atom.token : Atom → Token
  | .identifier name => name.token
  | .integer numeral => numeral.token
  | .boolean word => word.token

def Atom.tree : Atom → Node
  | .identifier name => name.identifier
  | .integer numeral => .integer numeral.token (decimal numeral.token.literal.toList)
  | .boolean word => .boolean word.token (decide (word.token.kind = .trueWord))

/-- A name or a literal behind any number of signs. -/
structure Operand where
  signs : List (Terminal [.bang, .minus])
  atom : Atom

def Operand.tokens (operand : Operand) : List Token :=
  operand.signs.map Terminal.token ++ [operand.atom.token]

/-- The first sign is the outermost one. -/
def Operand.tree (operand : Operand) : Node :=
  operand.signs.foldr (fun sign inside => .unary sign.token sign.token.literal inside)
    operand.atom.tree

/-! ### Chains -/

/-- A binary operator and the operand behind it. -/
structure Link where
  operator : Terminal binaryOperators
  operand : Operand

namespace Link

/-- The level of the operator. -/
def level (link : Link) : Precedence := link.operator.token.kind.precedence

def tokens (link : Link) : List Token := link.operator.token :: link.operand.tokens

theorem lowest_lt_level (link : Link) : .lowest < link.level := by
  have all : ∀ kind ∈ binaryOperators, .lowest < kind.precedence := by decide
  exact all _ link.operator.kind_mem

theorem level_lt_unary (link : Link) : link.level < .unary := by
  have all : ∀ kind ∈ binaryOperators, kind.precedence < .unary := by decide
  exact all _ link.operator.kind_mem

theorem operator_ne_leftParen (link : Link) : link.operator.token.kind ≠ .leftParen := by
  have all : ∀ kind ∈ binaryOperators, kind ≠ .leftParen := by decide
  exact all _ link.operator.kind_mem

/-! ### Links above a level -/

/-- The links in front of the first operator that is not above a level. -/
def above (level : Precedence) (links : List Link) : List Link :=
  links.takeWhile fun link => level < link.level

/-- The links from that operator on. -/
def beyond (level : Precedence) (links : List Link) : List Link :=
  links.dropWhile fun link => level < link.level

variable {level : Precedence} {link : Link} {others : List Link}

theorem lt_level_of_mem_above {links : List Link} (listed : link ∈ above level links) :
    level < link.level := by
  simpa using List.mem_takeWhile_imp listed

theorem beyond_suffix (level : Precedence) (links : List Link) : beyond level links <:+ links :=
  List.dropWhile_suffix _

theorem not_lt_level_of_head? {links : List Link} (isHead : link ∈ (beyond level links).head?) :
    ¬ level < link.level := by
  have stops := List.head?_dropWhile_not (fun link => decide (level < Link.level link)) links
  unfold beyond at isHead
  rw [Option.mem_def.mp isHead] at stops
  simpa using stops

theorem above_cons_of_not_lt (stops : ¬ level < link.level) : above level (link :: others) = [] :=
  List.takeWhile_cons_of_neg (by simpa using stops)

theorem beyond_cons_of_not_lt (stops : ¬ level < link.level) :
    beyond level (link :: others) = link :: others :=
  List.dropWhile_cons_of_neg (by simpa using stops)

theorem decide_lt_of_mem_above (isAbove : level < link.level) {other : Link}
    (listed : other ∈ above link.level others) : decide (level < other.level) = true :=
  decide_eq_true (Nat.lt_trans isAbove (lt_level_of_mem_above listed))

/-- Behind a link above a level, the ones above that link come first. -/
theorem above_cons_of_lt (isAbove : level < link.level) :
    above level (link :: others) =
      link :: (above link.level others ++ above level (beyond link.level others)) := by
  calc
    above level (link :: others) = link :: above level others :=
      List.takeWhile_cons_of_pos (by simpa using isAbove)
    _ = link :: above level (above link.level others ++ beyond link.level others) := by
      unfold beyond
      rw [above.eq_def link.level, List.takeWhile_append_dropWhile]
    _ = _ := congrArg (List.cons link)
      (List.takeWhile_append_of_pos fun _ listed => decide_lt_of_mem_above isAbove listed)

theorem beyond_cons_of_lt (isAbove : level < link.level) :
    beyond level (link :: others) = beyond level (beyond link.level others) := by
  calc
    beyond level (link :: others) = beyond level others :=
      List.dropWhile_cons_of_pos (by simpa using isAbove)
    _ = beyond level (above link.level others ++ beyond link.level others) := by
      unfold above
      rw [beyond.eq_def link.level, List.takeWhile_append_dropWhile]
    _ = _ := List.dropWhile_append_of_pos fun _ listed => decide_lt_of_mem_above isAbove listed

end Link

/-- Operands with binary operators between them. -/
structure Chain where
  first : Operand
  links : List Link

namespace Chain

variable {first : Operand} {links before behind : List Link} {middle : Link}

def tokens (chain : Chain) : List Token :=
  chain.first.tokens ++ chain.links.flatMap Link.tokens

def operands (chain : Chain) : List Operand := chain.first :: chain.links.map Link.operand

/-- The last token. -/
def last (chain : Chain) : Token :=
  ((chain.links.getLast?.map Link.operand).getD chain.first).atom.token

/-- The part of a chain in front of the first operator that is not above a level. -/
def upTo (chain : Chain) (level : Precedence) : Chain :=
  ⟨chain.first, Link.above level chain.links⟩

theorem last_append : (⟨first, before ++ middle :: behind⟩ : Chain).last =
    (⟨middle.operand, behind⟩ : Chain).last := by
  unfold last
  rw [List.getLast?_append, List.getLast?_cons]
  cases behind.getLast? <;> rfl

theorem getLast?_tokens (chain : Chain) : chain.tokens.getLast? = some chain.last := by
  obtain ⟨first, links⟩ := chain
  rcases List.eq_nil_or_concat links with rfl | ⟨before, link, rfl⟩
  · simp [tokens, last, Operand.tokens]
  · have parts : (⟨first, before ++ [link]⟩ : Chain).tokens =
        (first.tokens ++ before.flatMap Link.tokens ++ link.operator.token ::
          link.operand.signs.map Terminal.token) ++ [link.operand.atom.token] := by
      simp [tokens, Link.tokens, Operand.tokens]
    rw [List.concat_eq_append, parts, List.getLast?_concat, last_append]
    rfl

/-! ### Where a chain is divided -/

/-- Some links, divided at the last of those whose operator is the loosest: no operator in front
of it is looser, and every one behind it is tighter. -/
structure Division (links : List Link) where
  before : List Link
  middle : Link
  behind : List Link
  parts : links = before ++ middle :: behind
  notLooser : ∀ link ∈ before, ¬ link.level < middle.level
  tighter : ∀ link ∈ behind, middle.level < link.level

namespace Division

/-- No operator at all is looser than the one at which links are divided. -/
theorem not_lt_middle (division : Division links) :
    ∀ link ∈ links, ¬ link.level < division.middle.level := by
  intro link listed
  rw [division.parts] at listed
  rcases List.mem_append.mp listed with inFront | inRest
  · exact division.notLooser link inFront
  · rcases List.mem_cons.mp inRest with rfl | isBehind
    · exact Nat.lt_irrefl _
    · exact Nat.lt_asymm (division.tighter link isBehind)

/-- Links are divided at one of them when no operator in front of it is looser and only those
above it stand behind it. -/
def ofAbove (before : List Link) (link : Link) (others : List Link)
    (notLooser : ∀ other ∈ before, ¬ other.level < link.level) :
    Division (before ++ link :: Link.above link.level others) where
  before := before
  middle := link
  behind := Link.above link.level others
  parts := rfl
  notLooser := notLooser
  tighter := fun _ => Link.lt_level_of_mem_above

theorem before_shorter (division : Division links) : division.before.length < links.length := by
  have counted := congrArg List.length division.parts
  simp only [List.length_append, List.length_cons] at counted
  omega

theorem behind_shorter (division : Division links) : division.behind.length < links.length := by
  have counted := congrArg List.length division.parts
  simp only [List.length_append, List.length_cons] at counted
  omega

/-- A link in front of divided ones is the place of division if it is looser than the place
behind it. -/
def cons (link : Link) (later : Division links) : Division (link :: links) :=
  if looser : link.level < later.middle.level then
    { before := []
      middle := link
      behind := links
      parts := rfl
      notLooser := List.forall_mem_nil _
      tighter := fun other listed =>
        Nat.lt_of_lt_of_le looser (Nat.le_of_not_lt (later.not_lt_middle other listed)) }
  else
    { before := link :: later.before
      middle := later.middle
      behind := later.behind
      parts := congrArg (List.cons link) later.parts
      notLooser := List.forall_mem_cons.mpr ⟨looser, later.notLooser⟩
      tighter := later.tighter }

/-- Links can be divided in one place only. -/
theorem eq (division other : Division links) : division = other := by
  obtain ⟨before, middle, behind, parts, notLooser, tighter⟩ := division
  obtain ⟨before', middle', behind', parts', notLooser', tighter'⟩ := other
  subst parts
  rcases List.append_eq_append_iff.mp parts' with ⟨between, isBefore', isRest⟩ |
    ⟨between, isBefore, isRest⟩
  · cases between with
    | nil =>
        cases isRest
        simp [isBefore']
    | cons link between =>
        cases isRest
        have inFront := notLooser' middle (by simp [isBefore'])
        exact absurd (tighter middle' (by simp)) inFront
  · cases between with
    | nil =>
        cases isRest
        simp [isBefore]
    | cons link between =>
        cases isRest
        have inFront := notLooser middle' (by simp [isBefore])
        exact absurd (tighter' middle (by simp)) inFront

end Division

/-- Where a link and the links behind it are divided. -/
def divide (link : Link) : (links : List Link) → Division (link :: links)
  | [] => ⟨[], link, [], rfl, List.forall_mem_nil _, List.forall_mem_nil _⟩
  | next :: others => (divide next others).cons link

/-! ### The tree -/

/-- The tree of a chain: it is divided at its last operator of the loosest level, and the two
parts are grouped in the same way. -/
def grouped (first : Operand) : (links : List Link) → Node
  | [] => first.tree
  | link :: others =>
      let division := divide link others
      .binary division.middle.operator.token (grouped first division.before)
        division.middle.operator.token.literal
        (grouped division.middle.operand division.behind)
termination_by links => links.length
decreasing_by
  · exact division.before_shorter
  · exact division.behind_shorter

def tree (chain : Chain) : Node := grouped chain.first chain.links

theorem tree_single (first : Operand) : (⟨first, []⟩ : Chain).tree = first.tree := by
  unfold tree grouped
  rfl

theorem tree_divided (first : Operand) (division : Division links) :
    (⟨first, links⟩ : Chain).tree =
      .binary division.middle.operator.token (⟨first, division.before⟩ : Chain).tree
        division.middle.operator.token.literal
        (⟨division.middle.operand, division.behind⟩ : Chain).tree := by
  cases links with
  | nil => exact absurd division.parts (by simp)
  | cons link others =>
      rw [division.eq (divide link others)]
      unfold tree
      rw [grouped]

end Chain

end Grammar

end MonkeySyntax
