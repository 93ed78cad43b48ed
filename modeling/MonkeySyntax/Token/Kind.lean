/-!
Contract: the closed set of token kinds of the Monkey language and the fixed
texts attached to them.

Owns:
- the kinds in their definition order, with the name and the diagnostic text of each;
- the keyword table and the kind of a word;
- the tables of one-character and two-character operators and delimiters.

Does not own: how a text is cut into tokens.
-/

set_option autoImplicit false

namespace MonkeySyntax

/-- What a token is. -/
inductive TokenKind where
  | illegal
  | endOfInput
  | ident
  | int
  | assign
  | plus
  | minus
  | bang
  | asterisk
  | slash
  | less
  | greater
  | equal
  | notEqual
  | comma
  | semicolon
  | leftParen
  | rightParen
  | leftBrace
  | rightBrace
  | functionWord
  | letWord
  | trueWord
  | falseWord
  | ifWord
  | elseWord
  | returnWord
deriving DecidableEq, Repr

namespace TokenKind

/-- Every kind, in definition order. -/
def all : List TokenKind :=
  [.illegal, .endOfInput, .ident, .int,
    .assign, .plus, .minus, .bang, .asterisk, .slash, .less, .greater, .equal, .notEqual,
    .comma, .semicolon, .leftParen, .rightParen, .leftBrace, .rightBrace,
    .functionWord, .letWord, .trueWord, .falseWord, .ifWord, .elseWord, .returnWord]

theorem mem_all (kind : TokenKind) : kind ∈ all := by
  cases kind <;> decide

/-- The name by which a token shows its kind. -/
def name : TokenKind → String
  | .illegal => "ILLEGAL"
  | .endOfInput => "EOF"
  | .ident => "IDENT"
  | .int => "INT"
  | .assign => "ASSIGN"
  | .plus => "PLUS"
  | .minus => "MINUS"
  | .bang => "BANG"
  | .asterisk => "ASTERISK"
  | .slash => "SLASH"
  | .less => "LT"
  | .greater => "GT"
  | .equal => "EQ"
  | .notEqual => "NOT_EQ"
  | .comma => "COMMA"
  | .semicolon => "SEMICOLON"
  | .leftParen => "LPAREN"
  | .rightParen => "RPAREN"
  | .leftBrace => "LBRACE"
  | .rightBrace => "RBRACE"
  | .functionWord => "FUNCTION"
  | .letWord => "LET"
  | .trueWord => "TRUE"
  | .falseWord => "FALSE"
  | .ifWord => "IF"
  | .elseWord => "ELSE"
  | .returnWord => "RETURN"

/-- The text by which a diagnostic shows a kind: operators and delimiters show
their source text, every other kind its name. -/
def text : TokenKind → String
  | .assign => "="
  | .plus => "+"
  | .minus => "-"
  | .bang => "!"
  | .asterisk => "*"
  | .slash => "/"
  | .less => "<"
  | .greater => ">"
  | .equal => "=="
  | .notEqual => "!="
  | .comma => ","
  | .semicolon => ";"
  | .leftParen => "("
  | .rightParen => ")"
  | .leftBrace => "\x7b"
  | .rightBrace => "\x7d"
  | kind => kind.name

/-- The kind shown by a name. -/
def ofName? (shown : String) : Option TokenKind :=
  all.find? fun kind => kind.name == shown

/-- The kind shown by a diagnostic text. -/
def ofText? (shown : String) : Option TokenKind :=
  all.find? fun kind => kind.text == shown

/-- The reserved words, in definition order. -/
def keywords : List (String × TokenKind) :=
  [("fn", .functionWord), ("let", .letWord), ("true", .trueWord), ("false", .falseWord),
    ("if", .ifWord), ("else", .elseWord), ("return", .returnWord)]

/-- The kind of a word: its keyword's, or else an identifier's. -/
def ofWord (word : String) : TokenKind :=
  (keywords.lookup word).getD .ident

/-- Operators and delimiters that are one character and start no longer token. -/
def singles : List (Char × TokenKind) :=
  [(';', .semicolon), ('(', .leftParen), (')', .rightParen), (',', .comma),
    ('+', .plus), ('-', .minus), ('*', .asterisk), ('/', .slash),
    ('<', .less), ('>', .greater), ('{', .leftBrace), ('}', .rightBrace)]

/-- Characters that are a token alone and another one before `=`: the kind
alone, then the kind of the pair. -/
def doubles : List (Char × TokenKind × TokenKind) :=
  [('=', .assign, .equal), ('!', .bang, .notEqual)]

end TokenKind

end MonkeySyntax
