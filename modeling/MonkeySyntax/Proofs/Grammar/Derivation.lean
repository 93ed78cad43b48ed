import Mathlib.Algebra.Group.Nat.Defs
import MonkeySyntax.Source.Cursor
import MonkeySyntax.Tree.Node

/-!
Contract: the grammar of the Monkey language, as the type of its derivations.

Owns:
- the derivations of expressions, level by level, of blocks and of statements;
- the yield of a derivation, its tree, and how many levels of nesting it needs;
- the condition on statements that are not closed by a semicolon.

Does not own: parsing. The parser's tables are not mentioned here.

The levels are those of the binary operators, then `unary` for the operators in
front of an operand and `call` for everything that binds tighter:

    equality = equality (==|!=) ordering | ordering
    ordering = ordering (<|>) sum        | sum
    sum      = sum (+|-) product         | product
    product  = product (*|/) unary       | unary
    unary    = (!|-) unary               | call
    call     = call '(' arguments ')'    | a literal, a group, `if` or `fn`

The leaves of a derivation are tokens with their positions.
-/

set_option autoImplicit false

namespace MonkeySyntax

namespace Precedence

/-- The next tighter level, which the right operand of a binary operator has. -/
def tighter : Precedence → Precedence
  | .lowest => .equality
  | .equality => .ordering
  | .ordering => .sum
  | .sum => .product
  | .product => .unary
  | .unary => .call
  | .call => .call

end Precedence

namespace Grammar

/-- A token of one of some kinds. -/
structure Terminal (kinds : List TokenKind) where
  token : Token
  kind_mem : token.kind ∈ kinds

/-- The binary operators of a level. -/
def operatorsAt : Precedence → List TokenKind
  | .equality => [.equal, .notEqual]
  | .ordering => [.less, .greater]
  | .sum => [.plus, .minus]
  | .product => [.asterisk, .slash]
  | _ => []

/-- The number that decimal digits denote. -/
def decimal (digits : List Char) : Nat :=
  digits.foldl (fun number digit => 10 * number + (digit.toNat - '0'.toNat)) 0

/-- An integer literal: digits that denote a number of at most 63 bits. -/
structure IntegerLiteral where
  token : Token
  kind_eq : token.kind = .int
  isDigit : ∀ char ∈ token.literal.toList, isDigitChar char = true
  inRange : decimal token.literal.toList ≤ 2 ^ 63 - 1

/-- The names of a function's parameters. -/
inductive Parameters where
  | none
  | names (first : Terminal [.ident]) (others : List (Terminal [.comma] × Terminal [.ident]))

mutual

/-- An expression of a level. `pass` is the step from a level to the next one. -/
inductive Expr : Precedence → Type where
  | identifier (name : Terminal [.ident]) : Expr .call
  | integer (numeral : IntegerLiteral) : Expr .call
  | boolean (word : Terminal [.trueWord, .falseWord]) : Expr .call
  | group (opening : Terminal [.leftParen]) (inside : Expr .equality)
      (closing : Terminal [.rightParen]) : Expr .call
  | conditional (word : Terminal [.ifWord]) (opening : Terminal [.leftParen])
      (condition : Expr .equality) (closing : Terminal [.rightParen])
      (consequence : Block) (alternative : Alternative) : Expr .call
  | function (word : Terminal [.functionWord]) (opening : Terminal [.leftParen])
      (parameters : Parameters) (closing : Terminal [.rightParen]) (body : Block) : Expr .call
  | call (callee : Expr .call) (opening : Terminal [.leftParen]) (arguments : Arguments)
      (closing : Terminal [.rightParen]) : Expr .call
  | unary (operator : Terminal [.bang, .minus]) (operand : Expr .unary) : Expr .unary
  | binary {level : Precedence} (left : Expr level) (operator : Terminal (operatorsAt level))
      (right : Expr level.tighter) : Expr level
  | pass {level : Precedence} (isLevel : .lowest < level) (isLooser : level < .call)
      (inside : Expr level.tighter) : Expr level

/-- The arguments of a call. -/
inductive Arguments : Type where
  | none
  | expressions (first : Expr .equality)
      (others : List (Terminal [.comma] × Expr .equality))

/-- What may follow the first block of a conditional. -/
inductive Alternative : Type where
  | none
  | block (word : Terminal [.elseWord]) (block : Block)

inductive Block : Type where
  | braces (opening : Terminal [.leftBrace]) (statements : List Statement)
      (closing : Terminal [.rightBrace])

/-- A statement, with the semicolon that closes it if there is one. -/
inductive Statement : Type where
  | letStatement (word : Terminal [.letWord]) (name : Terminal [.ident])
      (sign : Terminal [.assign]) (value : Expr .equality)
      (ending : Option (Terminal [.semicolon]))
  | returnStatement (word : Terminal [.returnWord]) (value : Expr .equality)
      (ending : Option (Terminal [.semicolon]))
  | expressionStatement (value : Expr .equality) (ending : Option (Terminal [.semicolon]))

end

/-! ### The yield -/

def yieldEnding {kinds : List TokenKind} (ending : Option (Terminal kinds)) : List Token :=
  ending.toList.map Terminal.token

def Parameters.yield : Parameters → List Token
  | .none => []
  | .names first others =>
      first.token :: others.flatMap fun (comma, name) => [comma.token, name.token]

mutual

/-- The tokens of an expression in their order. -/
def Expr.yield : {level : Precedence} → Expr level → List Token
  | _, .identifier name => [name.token]
  | _, .integer numeral => [numeral.token]
  | _, .boolean word => [word.token]
  | _, .group opening inside closing => opening.token :: (inside.yield ++ [closing.token])
  | _, .conditional word opening condition closing consequence alternative =>
      word.token :: opening.token :: (condition.yield ++
        closing.token :: (consequence.yield ++ alternative.yield))
  | _, .function word opening parameters closing body =>
      word.token :: opening.token :: (parameters.yield ++ closing.token :: body.yield)
  | _, .call callee opening arguments closing =>
      callee.yield ++ opening.token :: (arguments.yield ++ [closing.token])
  | _, .unary operator operand => operator.token :: operand.yield
  | _, .binary left operator right => left.yield ++ operator.token :: right.yield
  | _, .pass _ _ inside => inside.yield

def Arguments.yield : Arguments → List Token
  | .none => []
  | .expressions first others => first.yield ++ yieldOthers others

def yieldOthers : List (Terminal [.comma] × Expr .equality) → List Token
  | [] => []
  | (comma, argument) :: others => comma.token :: (argument.yield ++ yieldOthers others)

def Alternative.yield : Alternative → List Token
  | .none => []
  | .block word block => word.token :: block.yield

def Block.yield : Block → List Token
  | .braces opening statements closing =>
      opening.token :: (yieldAll statements ++ [closing.token])

def yieldAll : List Statement → List Token
  | [] => []
  | statement :: statements => statement.yield ++ yieldAll statements

def Statement.yield : Statement → List Token
  | .letStatement word name sign value ending =>
      word.token :: name.token :: sign.token :: (value.yield ++ yieldEnding ending)
  | .returnStatement word value ending => word.token :: (value.yield ++ yieldEnding ending)
  | .expressionStatement value ending => value.yield ++ yieldEnding ending

end

/-- The leftmost token of an expression. -/
def Expr.first : {level : Precedence} → Expr level → Token
  | _, .identifier name => name.token
  | _, .integer numeral => numeral.token
  | _, .boolean word => word.token
  | _, .group opening _ _ => opening.token
  | _, .conditional word _ _ _ _ _ => word.token
  | _, .function word _ _ _ _ => word.token
  | _, .call callee _ _ _ => callee.first
  | _, .unary operator _ => operator.token
  | _, .binary left _ _ => left.first
  | _, .pass _ _ inside => inside.first

/-! ### The tree -/

def Terminal.identifier (name : Terminal [.ident]) : Node :=
  .identifier name.token name.token.literal

def Parameters.trees : Parameters → List Node
  | .none => []
  | .names first others => first.identifier :: others.map fun (_, name) => name.identifier

mutual

/-- The node of an expression. Parentheses that group and steps between levels
add none. -/
def Expr.tree : {level : Precedence} → Expr level → Node
  | _, .identifier name => name.identifier
  | _, .integer numeral => .integer numeral.token (decimal numeral.token.literal.toList)
  | _, .boolean word => .boolean word.token (decide (word.token.kind = .trueWord))
  | _, .group _ inside _ => inside.tree
  | _, .conditional word _ condition _ consequence alternative =>
      .conditional word.token condition.tree consequence.tree alternative.tree
  | _, .function word _ parameters _ body => .function word.token parameters.trees body.tree
  | _, .call callee opening arguments _ => .call opening.token callee.tree arguments.trees
  | _, .unary operator operand => .unary operator.token operator.token.literal operand.tree
  | _, .binary left operator right =>
      .binary operator.token left.tree operator.token.literal right.tree
  | _, .pass _ _ inside => inside.tree

def Arguments.trees : Arguments → List Node
  | .none => []
  | .expressions first others => first.tree :: treesOthers others

def treesOthers : List (Terminal [.comma] × Expr .equality) → List Node
  | [] => []
  | (_, argument) :: others => argument.tree :: treesOthers others

def Alternative.tree : Alternative → Option Node
  | .none => Option.none
  | .block _ block => some block.tree

def Block.tree : Block → Node
  | .braces opening statements _ => .block opening.token (treesAll statements)

def treesAll : List Statement → List Node
  | [] => []
  | statement :: statements => statement.tree :: treesAll statements

/-- The node of a statement. That of a bare expression keeps the first token. -/
def Statement.tree : Statement → Node
  | .letStatement word name _ value _ => .letStatement word.token name.identifier value.tree
  | .returnStatement word value _ => .returnStatement word.token value.tree
  | .expressionStatement value _ => .expressionStatement value.first value.tree

end

/-! ### The need for nesting -/

mutual

/-- How many levels of nesting an expression needs. The left part of an operator
and the callee stay on the level of the whole. -/
def Expr.need : {level : Precedence} → Expr level → Nat
  | _, .identifier _ => 1
  | _, .integer _ => 1
  | _, .boolean _ => 1
  | _, .group _ inside _ => 1 + inside.need
  | _, .conditional _ _ condition _ consequence alternative =>
      1 + max condition.need (max consequence.need alternative.need)
  | _, .function _ _ _ _ body => 1 + body.need
  | _, .call callee _ arguments _ => max callee.need arguments.need
  | _, .unary _ operand => 1 + operand.need
  | _, .binary left _ right => max left.need (1 + right.need)
  | _, .pass _ _ inside => inside.need

def Arguments.need : Arguments → Nat
  | .none => 0
  | .expressions first others => max (1 + first.need) (needOthers others)

def needOthers : List (Terminal [.comma] × Expr .equality) → Nat
  | [] => 0
  | (_, argument) :: others => max (1 + argument.need) (needOthers others)

def Alternative.need : Alternative → Nat
  | .none => 0
  | .block _ block => block.need

def Block.need : Block → Nat
  | .braces _ statements _ => needAll statements

/-- The greatest need of some statements, which is zero when there are none. -/
def needAll : List Statement → Nat
  | [] => 0
  | statement :: statements => max statement.need (needAll statements)

def Statement.need : Statement → Nat
  | .letStatement _ _ _ value _ => value.need
  | .returnStatement _ value _ => value.need
  | .expressionStatement value _ => value.need

end

/-! ### Statements without a semicolon -/

/-- The kinds that go on with an expression: the binary operators, and the
parenthesis of a call. -/
def continuing : List TokenKind :=
  [.plus, .minus, .asterisk, .slash, .less, .greater, .equal, .notEqual, .leftParen]

def Statement.ending : Statement → Option (Terminal [.semicolon])
  | .letStatement _ _ _ _ ending => ending
  | .returnStatement _ _ ending => ending
  | .expressionStatement _ ending => ending

mutual

/-- No statement without a semicolon is followed by a token that goes on with an
expression, here and in all blocks. What follows the last statement of a block is
a brace, and what follows the last one of a program is the end of the input. -/
def SeparatedAll : List Statement → Prop
  | [] => True
  | statement :: statements =>
      statement.Separated ∧
        (statement.ending = none →
          ∀ token ∈ (yieldAll statements).head?, token.kind ∉ continuing) ∧
        SeparatedAll statements

def Statement.Separated : Statement → Prop
  | .letStatement _ _ _ value _ => value.Separated
  | .returnStatement _ value _ => value.Separated
  | .expressionStatement value _ => value.Separated

def Expr.Separated : {level : Precedence} → Expr level → Prop
  | _, .identifier _ => True
  | _, .integer _ => True
  | _, .boolean _ => True
  | _, .group _ inside _ => inside.Separated
  | _, .conditional _ _ condition _ consequence alternative =>
      condition.Separated ∧ consequence.Separated ∧ alternative.Separated
  | _, .function _ _ _ _ body => body.Separated
  | _, .call callee _ arguments _ => callee.Separated ∧ arguments.Separated
  | _, .unary _ operand => operand.Separated
  | _, .binary left _ right => left.Separated ∧ right.Separated
  | _, .pass _ _ inside => inside.Separated

def Arguments.Separated : Arguments → Prop
  | .none => True
  | .expressions first others => first.Separated ∧ SeparatedOthers others

def SeparatedOthers : List (Terminal [.comma] × Expr .equality) → Prop
  | [] => True
  | (_, argument) :: others => argument.Separated ∧ SeparatedOthers others

def Alternative.Separated : Alternative → Prop
  | .none => True
  | .block _ block => block.Separated

def Block.Separated : Block → Prop
  | .braces _ statements _ => SeparatedAll statements

end

end Grammar

end MonkeySyntax
