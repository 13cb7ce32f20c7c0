import MonkeyTokens.Position
import MonkeyTokens.Text.Quoted
import MonkeyTokens.Token.Kind

/-!
Tokens.

A `Token` has a kind, the exact text it was made from, and the span of that
text. Its displayed form is one line: the span, the name of the kind, and the
text in double quotes.
-/

namespace MonkeyTokens

/-- A token of the Monkey language. -/
structure Token where
  kind : Token.Kind
  literal : String
  span : Span
deriving DecidableEq, Repr

namespace Token

/-- The token at the end of a text: it has no text of its own and no width. -/
def endOfFile (p : Position) : Token := ⟨.endOfFile, "", .point p⟩

/-- The token of a single character. -/
def ofChar (kind : Kind) (c : Char) (p : Position) : Token := ⟨kind, c.toString, .point p⟩

/-- Whether the token is the one at the end of a text. -/
def isEndOfFile (t : Token) : Bool := t.kind == .endOfFile

/-- The line that displays a token, where `hidden` tells which characters are
written by number. -/
def displayed (hidden : Char → Bool) (t : Token) : String :=
  t.span.toString ++ " " ++ t.kind.name ++ " "
    ++ String.ofList (Text.quoted '\x22' hidden t.literal.toList)

/-- The line that displays a token. -/
protected def toString (t : Token) : String := t.displayed Text.isUnprintable

instance : ToString Token := ⟨Token.toString⟩

end Token

end MonkeyTokens
