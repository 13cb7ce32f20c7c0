import MonkeyTokens.Text.Blank

/-!
The symbols of a pattern.

A pattern is a regular expression. Its options change from place to place, and with
them what may stand there. With the option `u`, which is on at first, a pattern speaks
about all characters, of which nothing is known but their order: a literal in either
case, a class by name and a boundary of a word are not available. Without it a pattern
knows the classes, the words and the cases of ASCII, and a literal beyond ASCII has one
case; but nothing may stand that would also fit a part of a character: no dot, no
complement, no byte and no class beyond ASCII.
-/

namespace MonkeyTokens.Log.Pattern

/-! ### Options -/

/-- The options that are on at a place of a pattern. Other options change nothing about
its form. -/
structure Options where
  /-- A literal stands for both its cases, by the letter `i`. -/
  eitherCase : Bool := false
  /-- The pattern speaks about characters beyond ASCII, by the letter `u`. -/
  beyondAscii : Bool := true
  /-- Blanks and comments are passed over, by the letter `x`. -/
  spaced : Bool := false
deriving DecidableEq, Repr, Inhabited

namespace Options

/-- Turns the option of a letter on or off. -/
def set (o : Options) (letter : Char) (on : Bool) : Options :=
  match letter with
  | 'i' => { o with eitherCase := on }
  | 'u' => { o with beyondAscii := on }
  | 'x' => { o with spaced := on }
  | _ => o

/-- The letters of options, and the sign that turns the options after it off. -/
def letters : List Char := ['i', 'm', 's', 'U', 'u', 'R', 'x', '-']

/-- Reads options up to a colon or a closing parenthesis, which is left, where `seen` are
the letters before, the last one first. No letter comes twice, and something is turned
off after the sign. -/
def read? (seen : List Char) (o : Options) : List Char → Option (Options × List Char)
  | [] => none
  | c :: cs =>
    if c = ':' ∨ c = ')' then if seen.head? = some '-' then none else some (o, c :: cs)
    else if letters.contains c && !seen.contains c then
      read? (c :: seen) (o.set c (!seen.contains '-')) cs
    else none

/-- Passes over blanks and comments; a comment goes from a number sign to the end of its
line. -/
def passSpaced (comment : Bool) : List Char → List Char
  | [] => []
  | c :: cs =>
    if comment then passSpaced (c != '\n') cs
    else if c = '#' then passSpaced true cs
    else if Text.isBlank c then passSpaced false cs
    else c :: cs

/-- The character that decides what a hyphen before it means. Blanks do not count where
they are passed over, nor does a number sign, but the comment after it does. -/
def ahead (o : Options) (cs : List Char) : Option Char :=
  if o.spaced then
    match cs.dropWhile Text.isBlank with
    | '#' :: cs => (cs.dropWhile Text.isBlank).head?
    | cs => cs.head?
  else cs.head?

/-- Passes over what does not count under the options. -/
def pass (o : Options) (cs : List Char) : List Char :=
  if o.spaced then passSpaced false cs else cs

end Options

/-! ### Symbols -/

/-- A smallest part of a pattern. -/
inductive Symbol where
  | literal (c : Char)
  /-- A literal that is given by the number of a byte. -/
  | byte (c : Char)
  /-- Digits, blanks, the characters of words, or all others. -/
  | named (negated : Bool)
  /-- Any character but a line feed. -/
  | any
  /-- The beginning or the end of a line or of the text. -/
  | anchor
  /-- The beginning or the end of a word. -/
  | boundary
deriving DecidableEq, Repr

/-- The character that a symbol is the literal of. -/
def Symbol.char? : Symbol → Option Char
  | .literal c | .byte c => some c
  | _ => none

namespace Options

/-- Whether a symbol may stand outside of brackets. -/
def allows (o : Options) : Symbol → Bool
  | .literal _ => !(o.eitherCase && o.beyondAscii)
  | .byte c => if o.beyondAscii then !o.eitherCase else c.toNat < 0x80
  | .named negated => !o.beyondAscii && !negated
  | .any => o.beyondAscii
  | .anchor => true
  | .boundary => !o.beyondAscii

/-- Whether a class by a name between colons, or its complement, may be a member of a
class in brackets. -/
def allowsName (o : Options) (negated : Bool) : Bool :=
  if o.beyondAscii then !o.eitherCase else !negated

/-- Whether a symbol may be a member of a class in brackets. -/
def allowsMember (o : Options) : Symbol → Bool
  | .literal c | .byte c => if o.beyondAscii then !o.eitherCase else c.toNat < 0x80
  | .named negated => !o.beyondAscii && !negated
  | _ => false

end Options

/-! ### Escapes -/

/-- The value of a hexadecimal digit. -/
def hexValue? (c : Char) : Option Nat :=
  if c.isDigit then some (c.toNat - '0'.toNat)
  else if 'a' ≤ c && c ≤ 'f' then some (c.toNat - 'a'.toNat + 10)
  else if 'A' ≤ c && c ≤ 'F' then some (c.toNat - 'A'.toNat + 10)
  else none

/-- Reads the character whose number is written in so many hexadecimal digits, after
digits of the given value. -/
def numbered? (o : Options) : Nat → Nat → List Char → Option (Char × List Char)
  | 0, value, cs => if value.isValidChar then some (Char.ofNat value, o.pass cs) else none
  | n + 1, value, cs =>
    match o.pass cs with
    | [] => none
    | c :: cs => do numbered? o n (16 * value + (← hexValue? c)) cs

/-- Reads what follows a backslash. -/
def escape? (o : Options) : List Char → Option (Symbol × List Char)
  | [] => none
  | c :: cs =>
    match c with
    | 'x' => do
      let (c, cs) ← numbered? o 2 0 cs
      return (.byte c, cs)
    | 'u' => do
      let (c, cs) ← numbered? o 4 0 cs
      return (.literal c, cs)
    | 'U' => do
      let (c, cs) ← numbered? o 8 0 cs
      return (.literal c, cs)
    | 'd' | 's' | 'w' => some (.named false, cs)
    | 'D' | 'S' | 'W' => some (.named true, cs)
    | 'a' => some (.literal '\x07', cs)
    | 't' => some (.literal '\t', cs)
    | 'n' => some (.literal '\n', cs)
    | 'v' => some (.literal '\x0b', cs)
    | 'f' => some (.literal '\x0c', cs)
    | 'r' => some (.literal '\r', cs)
    | 'A' | 'z' => some (.anchor, cs)
    | 'b' | 'B' | '<' | '>' => some (.boundary, cs)
    | c => if c.toNat < 0x80 && !c.isAlphanum then some (.literal c, cs) else none

/-! ### Rows -/

/-- What is known of parts in a row. -/
structure Row where
  count : Nat := 0
  /-- How deep the deepest part is nested. -/
  deepest : Nat := 0
deriving DecidableEq, Repr, Inhabited

namespace Row

/-- Adds a part of some depth. -/
def push (r : Row) (depth : Nat) : Row := ⟨r.count + 1, max r.deepest depth⟩

/-- How deep the row is nested. A row of more than one part is a level of its own. -/
def depth (r : Row) : Nat := if r.count ≤ 1 then r.deepest else r.deepest + 1

end Row

end MonkeyTokens.Log.Pattern
