/-!
The kinds of token of the Monkey language.

A token is a name, a numeral, one of the fourteen marks that stand for
themselves, one of the seven reserved words, a character that belongs to none
of these, or the end of the text. `Token.Kind.name` is the stable name that
every output uses; `Token.Kind.ofName?` reads it back.
-/

namespace MonkeyTokens

/-- An operator or a delimiter of one character. -/
inductive Mark where
  | assign | plus | minus | asterisk | slash | bang | lessThan | greaterThan
  | semicolon | comma | leftParen | rightParen | leftBrace | rightBrace
deriving DecidableEq, Repr

namespace Mark

/-- The character that the mark is written with. -/
def char : Mark → Char
  | .assign => '='
  | .plus => '+'
  | .minus => '-'
  | .asterisk => '*'
  | .slash => '/'
  | .bang => '!'
  | .lessThan => '<'
  | .greaterThan => '>'
  | .semicolon => ';'
  | .comma => ','
  | .leftParen => '('
  | .rightParen => ')'
  | .leftBrace => '\x7b'
  | .rightBrace => '\x7d'

/-- The mark that a character is, if it is one. -/
def ofChar? : Char → Option Mark
  | '=' => some .assign
  | '+' => some .plus
  | '-' => some .minus
  | '*' => some .asterisk
  | '/' => some .slash
  | '!' => some .bang
  | '<' => some .lessThan
  | '>' => some .greaterThan
  | ';' => some .semicolon
  | ',' => some .comma
  | '(' => some .leftParen
  | ')' => some .rightParen
  | '\x7b' => some .leftBrace
  | '\x7d' => some .rightBrace
  | _ => none

@[simp] theorem ofChar?_char (m : Mark) : ofChar? m.char = some m := by
  cases m <;> rfl

/-- The stable name of the mark. -/
def name : Mark → String
  | .assign => "ASSIGN"
  | .plus => "PLUS"
  | .minus => "MINUS"
  | .asterisk => "ASTERISK"
  | .slash => "SLASH"
  | .bang => "BANG"
  | .lessThan => "LESS_THAN"
  | .greaterThan => "GREATER_THAN"
  | .semicolon => "SEMICOLON"
  | .comma => "COMMA"
  | .leftParen => "LEFT_PAREN"
  | .rightParen => "RIGHT_PAREN"
  | .leftBrace => "LEFT_BRACE"
  | .rightBrace => "RIGHT_BRACE"

end Mark

/-- A reserved word. -/
inductive Keyword where
  | fnWord | letWord | trueWord | falseWord | ifWord | elseWord | returnWord
deriving DecidableEq, Repr

namespace Keyword

/-- The spelling of the reserved word. -/
def spelling : Keyword → String
  | .fnWord => "fn"
  | .letWord => "let"
  | .trueWord => "true"
  | .falseWord => "false"
  | .ifWord => "if"
  | .elseWord => "else"
  | .returnWord => "return"

/-- The reserved word with exactly this spelling. Case matters, and a longer
word that begins with a reserved one is none. -/
def ofSpelling? : String → Option Keyword
  | "fn" => some .fnWord
  | "let" => some .letWord
  | "true" => some .trueWord
  | "false" => some .falseWord
  | "if" => some .ifWord
  | "else" => some .elseWord
  | "return" => some .returnWord
  | _ => none

@[simp] theorem ofSpelling?_spelling (k : Keyword) : ofSpelling? k.spelling = some k := by
  cases k <;> rfl

/-- The stable name of the reserved word. -/
def name : Keyword → String
  | .fnWord => "FUNCTION"
  | .letWord => "LET"
  | .trueWord => "TRUE"
  | .falseWord => "FALSE"
  | .ifWord => "IF"
  | .elseWord => "ELSE"
  | .returnWord => "RETURN"

end Keyword

/-- The kind of a token. -/
inductive Token.Kind where
  | identifier
  | integer
  | mark (m : Mark)
  | keyword (k : Keyword)
  /-- A character that no other rule matches. -/
  | unknown
  | endOfFile
deriving DecidableEq, Repr

namespace Token.Kind

/-- The kind of a whole word: its reserved word, or else an identifier. -/
def ofWord (word : String) : Kind :=
  match Keyword.ofSpelling? word with
  | some k => .keyword k
  | none => .identifier

/-- The kind of a character that always is a token by itself. -/
def ofChar? (c : Char) : Option Kind := (Mark.ofChar? c).map .mark

/-- Whether the kind is that of a reserved word. -/
def isKeyword : Kind → Bool
  | .keyword _ => true
  | _ => false

/-- The stable name of the kind. -/
def name : Kind → String
  | .identifier => "IDENTIFIER"
  | .integer => "INTEGER"
  | .mark m => m.name
  | .keyword k => k.name
  | .unknown => "UNKNOWN"
  | .endOfFile => "EOF"

/-- The kind with this stable name. -/
def ofName? : String → Option Kind
  | "IDENTIFIER" => some .identifier
  | "INTEGER" => some .integer
  | "ASSIGN" => some (.mark .assign)
  | "PLUS" => some (.mark .plus)
  | "MINUS" => some (.mark .minus)
  | "ASTERISK" => some (.mark .asterisk)
  | "SLASH" => some (.mark .slash)
  | "BANG" => some (.mark .bang)
  | "LESS_THAN" => some (.mark .lessThan)
  | "GREATER_THAN" => some (.mark .greaterThan)
  | "SEMICOLON" => some (.mark .semicolon)
  | "COMMA" => some (.mark .comma)
  | "LEFT_PAREN" => some (.mark .leftParen)
  | "RIGHT_PAREN" => some (.mark .rightParen)
  | "LEFT_BRACE" => some (.mark .leftBrace)
  | "RIGHT_BRACE" => some (.mark .rightBrace)
  | "FUNCTION" => some (.keyword .fnWord)
  | "LET" => some (.keyword .letWord)
  | "TRUE" => some (.keyword .trueWord)
  | "FALSE" => some (.keyword .falseWord)
  | "IF" => some (.keyword .ifWord)
  | "ELSE" => some (.keyword .elseWord)
  | "RETURN" => some (.keyword .returnWord)
  | "UNKNOWN" => some .unknown
  | "EOF" => some .endOfFile
  | _ => none

/-- No two kinds share a name. -/
@[simp] theorem ofName?_name (k : Kind) : ofName? k.name = some k := by
  cases k with
  | mark m => cases m <;> rfl
  | keyword k => cases k <;> rfl
  | _ => rfl

end Token.Kind

end MonkeyTokens
