/-!
The shapes of a numeral.

A numeral that begins with a zero may name its radix with a letter after the
zero. `Numeral.afterZero` decides the shape from that one character, before
anything is consumed, so that a letter that names no radix is found while the
zero is still under the cursor.
-/

namespace MonkeyTokens

/-- The base of a numeral that names it. -/
inductive Radix where
  | binary | octal | hexadecimal
deriving DecidableEq, Repr

namespace Radix

/-- The letter that names the radix after a zero. -/
def letter : Radix → Char
  | .binary => 'b'
  | .octal => 'o'
  | .hexadecimal => 'x'

/-- The radix that a letter names. Only lower-case letters name one. -/
def ofLetter? : Char → Option Radix
  | 'b' => some .binary
  | 'o' => some .octal
  | 'x' => some .hexadecimal
  | _ => none

@[simp] theorem ofLetter?_letter (r : Radix) : ofLetter? r.letter = some r := by
  cases r <;> rfl

/-- Whether `c` is a digit of the radix. -/
def hasDigit (r : Radix) (c : Char) : Bool :=
  match r with
  | .binary => c == '0' || c == '1'
  | .octal => decide ('0' ≤ c ∧ c ≤ '7')
  | .hexadecimal => c.isDigit || decide ('a' ≤ c ∧ c ≤ 'f') || decide ('A' ≤ c ∧ c ≤ 'F')

/-- Whether `c` may follow the letter of the radix: a digit, or the underscore
that separates digits. -/
def accepts (r : Radix) (c : Char) : Bool := r.hasDigit c || c == '_'

end Radix

/-- The shape of a numeral. -/
inductive Numeral where
  | decimal
  | based (radix : Radix)
deriving DecidableEq, Repr

namespace Numeral

/-- The shape of a numeral that begins with a zero, given the character after
the zero (`none` at the end of the text). A letter that names no radix is
refused; anything else leaves the zero a decimal numeral. -/
def afterZero : Option Char → Except Char Numeral
  | none => .ok .decimal
  | some c =>
    match Radix.ofLetter? c with
    | some radix => .ok (.based radix)
    | none => if c.isAlpha then .error c else .ok .decimal

end Numeral

end MonkeyTokens
