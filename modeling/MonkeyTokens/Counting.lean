import MonkeyTokens.ScanError

/-!
Ways of counting lines and columns.

A scan counts the characters that it passes, and takes one off where a run of them ends. What
becomes of a number that leaves its word is for the machine to say, so the routines of a scan
are written for any `Counting`. It is told by the type of what a scan may fail with, because
that is where ways of counting differ: a scan that fails with a `ScanError` and with nothing
else lets its words wrap around.
-/

namespace MonkeyTokens

/-- A way of counting, for scans that fail with an `ε`. -/
class Counting (ε : Type) where
  /-- What a scan fails with where the text ends it. -/
  ofScanError : ScanError → ε
  /-- The error that the text gave, if it was the text that ended the scan. -/
  scanError? : ε → Option ScanError
  /-- The position that follows a character which stands at the given position. -/
  after : Position → Char → Except ε Position
  /-- The position one column to the left of the second, for a run that began at the first. -/
  before : Position → Position → Except ε Position

namespace Counting

/-- Words wrap around. -/
@[default_instance]
instance wrapping : Counting ScanError where
  ofScanError e := e
  scanError? e := some e
  after p c := .ok (p.after c)
  before _ p := .ok p.before

end Counting

end MonkeyTokens
