import MonkeyTokens.Text.Unprintable

/-!
Quoted text: text between two delimiters, in which everything that could be
mistaken or overlooked is escaped.

A backslash and the delimiter are written after a backslash, NUL, tab, carriage
return and line feed as a backslash and a letter or digit, and the other control
characters of ASCII by number, as in `\u{1b}`. Which characters beyond ASCII are
written by number too is a parameter; `Text.quoteString` and `Text.quoteChar`
choose the unprintable ones. Whatever the choice, quoted text stays on one line
and determines the text.
-/

namespace MonkeyTokens.Text

/-- Whether `c` is a control character of ASCII. -/
def isControl (c : Char) : Bool := c < ' ' || c == '\x7f'

/-- A character by its number, in lower-case hexadecimal without padding. -/
def numbered (c : Char) : List Char :=
  ['\\', 'u', '\x7b'] ++ Nat.toDigits 16 c.toNat ++ ['\x7d']

/-- How a character is written between delimiters, where `hidden` tells the
characters that are to be written by number although they are no control
characters of ASCII. -/
def quotedChar (delimiter : Char) (hidden : Char → Bool) (c : Char) : List Char :=
  if c = '\x00' then ['\\', '0']
  else if c = '\t' then ['\\', 't']
  else if c = '\r' then ['\\', 'r']
  else if c = '\n' then ['\\', 'n']
  else if c = '\\' ∨ c = delimiter then ['\\', c]
  else if isControl c || hidden c then numbered c
  else [c]

/-- A text between delimiters. -/
def quoted (delimiter : Char) (hidden : Char → Bool) (cs : List Char) : List Char :=
  delimiter :: cs.flatMap (quotedChar delimiter hidden) ++ [delimiter]

/-- A string between double quotes. -/
def quoteString (s : String) : String := String.ofList (quoted '\x22' isUnprintable s.toList)

/-- A character between apostrophes. -/
def quoteChar (c : Char) : String := String.ofList (quoted '\x27' isUnprintable [c])

end MonkeyTokens.Text
