import MonkeyTokens.Character
import MonkeyTokens.Cursor.Basic
import MonkeyTokens.Numeral
import MonkeyTokens.Token.Basic

/-!
The token at a cursor.

`Cursor.token` passes over blanks and reads one token: a mark, a word, a numeral,
or a character that is none of these. A word and a numeral extend as far as they
can. Every token is complete only when the cursor has moved on to the character
after it, so a token that touches a failure is not returned.

A routine says where something is counted, and leaves it to the way of counting what
becomes of the number.
-/

namespace MonkeyTokens.Cursor

variable {ε : Type} [Counting ε]

/-- Passes over blanks. -/
def skipBlanks : StepIn ε Unit := do
  let _ ← run isBlank

/-- The span from `first` to the character before the cursor. -/
def spanFrom (first : Position) : StepIn ε Span := do
  return ⟨first, ← ofExcept (Counting.before first (← here).position)⟩

/-- The word at the cursor. -/
def word (first : Position) : StepIn ε Token := do
  let literal ← run isWordChar
  return ⟨.ofWord literal, literal, ← spanFrom first⟩

/-- The shape of the numeral whose first digit is under the cursor. After a zero
the next character decides it; a letter that names no radix ends the scan. -/
def shape (digit : Char) : StepIn ε Numeral := do
  if digit = '0' then
    match Numeral.afterZero (← peek) with
    | .ok shape => return shape
    | .error letter => fail (.unknownRadix letter)
  else
    return .decimal

/-- The text of a numeral of the given shape. -/
def digits : Numeral → StepIn ε String
  | .decimal => run isDecimalChar
  | .based radix => do
    advance
    advance
    return "0".push radix.letter ++ (← run radix.accepts)

/-- The numeral at the cursor, which stands on its first digit. -/
def numeral (digit : Char) (first : Position) : StepIn ε Token := do
  let literal ← digits (← shape digit)
  return ⟨.integer, literal, ← spanFrom first⟩

/-- The token of one character at the cursor. -/
def single (kind : Token.Kind) (c : Char) (first : Position) : StepIn ε Token := do
  advance
  return .ofChar kind c first

/-- The token that begins with `c`, which is under the cursor. -/
def tokenFrom (c : Char) (first : Position) : StepIn ε Token :=
  match Token.Kind.ofChar? c with
  | some kind => single kind c first
  | none =>
    if isWordChar c then word first
    else if c.isDigit then numeral c first
    else single .unknown c first

/-- The next token, with the blanks before it passed over. -/
def token : StepIn ε Token := do
  skipBlanks
  let cur ← here
  match cur.held with
  | none => return .endOfFile cur.position
  | some c => tokenFrom c cur.position

end MonkeyTokens.Cursor
