/-!
Places in a source text.

A `Position` is a line and a column, both counted from one and kept in 32-bit
words. Columns count characters, never bytes, so a character of any width
moves the column by one and only a line feed opens a line. A `Span` is the
inclusive range that a token covers; a zero-width token has the span of a
single position.
-/

namespace MonkeyTokens

/-- A line and a column, both counted from one. -/
structure Position where
  line : UInt32
  column : UInt32
deriving DecidableEq, Repr

namespace Position

/-- The position of the first character of any text. -/
def start : Position := ⟨1, 1⟩

instance : Inhabited Position := ⟨start⟩

/-- The position that follows `c`, where `c` stands at `p`. -/
def after (p : Position) (c : Char) : Position :=
  if c = '\n' then ⟨p.line + 1, 1⟩ else ⟨p.line, p.column + 1⟩

/-- The position one column to the left, on the same line. -/
def before (p : Position) : Position := ⟨p.line, p.column - 1⟩

/-- The position reached from `p` by reading the characters of `cs` in turn. -/
def afterAll (p : Position) (cs : List Char) : Position := cs.foldl after p

/-- Positions are ordered by line, and by column within a line. -/
instance : Ord Position where
  compare p q := (compare p.line q.line).then (compare p.column q.column)

instance : LT Position := ltOfOrd

instance (p q : Position) : Decidable (p < q) := inferInstanceAs (Decidable (compare p q = .lt))

/-- Line and column in decimal, with a colon between them. -/
protected def toString (p : Position) : String :=
  Nat.repr p.line.toNat ++ ":" ++ Nat.repr p.column.toNat

instance : ToString Position := ⟨Position.toString⟩

end Position

/-- The inclusive range of a source text that a token covers. -/
structure Span where
  first : Position
  last : Position
deriving DecidableEq, Repr

namespace Span

/-- The span of a token of one character or none. -/
def point (p : Position) : Span := ⟨p, p⟩

instance : Inhabited Span := ⟨point default⟩

/-- Both ends with a hyphen between them. -/
protected def toString (s : Span) : String := s.first.toString ++ "-" ++ s.last.toString

instance : ToString Span := ⟨Span.toString⟩

end Span

end MonkeyTokens
