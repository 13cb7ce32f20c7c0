/-!
The classes of character that the tokens of a text are made of.

All of them are ASCII. A character of no class, and of no mark, is a token by
itself.
-/

namespace MonkeyTokens

/-- Whether `c` separates tokens: a space, a tab, a carriage return or a line
feed. -/
def isBlank (c : Char) : Bool := c == ' ' || c == '\t' || c == '\r' || c == '\n'

/-- Whether `c` may occur in a word: an ASCII letter or an underscore. -/
def isWordChar (c : Char) : Bool := c.isAlpha || c == '_'

/-- Whether `c` may occur in a decimal numeral: an ASCII digit, or the
underscore that separates digits. -/
def isDecimalChar (c : Char) : Bool := c.isDigit || c == '_'

end MonkeyTokens
