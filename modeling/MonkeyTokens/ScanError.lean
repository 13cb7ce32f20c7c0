import MonkeyTokens.Position
import MonkeyTokens.Stream.Decoder
import MonkeyTokens.Text.Quoted

/-!
Errors that end a scan.

A scan ends at the first character that cannot be read, and at the first letter
after a zero that names no radix. A `ScanError` says which of these it was and
where that character stands. `ScanError.message` is the text without the
position. The displayed form is a text of its own for each cause; it is the message
with the kind and the position before it (`ScanError.toString_eq`).
-/

namespace MonkeyTokens

/-- Why a scan ended. -/
inductive ScanError.Cause where
  /-- A character could not be read. -/
  | unreadable (e : ReadError)
  /-- A zero is followed by a letter that names no radix. -/
  | unknownRadix (letter : Char)
deriving DecidableEq, Repr

/-- Why a scan ended, and the position of the character that ended it. -/
structure ScanError where
  cause : ScanError.Cause
  position : Position
deriving DecidableEq, Repr

namespace ScanError

/-- A byte in two upper-case hexadecimal digits. -/
def byteText (b : UInt8) : List Char :=
  [(Nat.digitChar (b.toNat / 16)).toUpper, (Nat.digitChar (b.toNat % 16)).toUpper]

/-- Bytes in brackets, separated by commas. -/
def bytesText (bytes : List UInt8) : String :=
  "[" ++ String.intercalate ", " (bytes.map fun b => String.ofList (byteText b)) ++ "]"

namespace Cause

/-- The stable name of the kind of cause. -/
def kind : Cause → String
  | .unreadable (.fault _) => "IOFailure"
  | .unreadable (.malformed _) => "EncodingError"
  | .unknownRadix _ => "LexError"

/-- What happened, in words. -/
def message : Cause → String
  | .unreadable (.fault f) => "failed to read character: " ++ f.message
  | .unreadable (.malformed bytes) => "invalid UTF-8 sequence " ++ bytesText bytes
  | .unknownRadix letter => "unrecognized integer prefix " ++ Text.quoteChar letter

end Cause

/-- The stable name of the kind of error. -/
def kind (e : ScanError) : String := e.cause.kind

/-- What happened, without the position. -/
def message (e : ScanError) : String := e.cause.message

/-- The line that displays an error. -/
protected def toString (e : ScanError) : String :=
  match e.cause with
  | .unreadable (.fault f) =>
    "IOFailure at " ++ e.position.toString ++ ": failed to read character: " ++ f.message
  | .unreadable (.malformed bytes) =>
    "EncodingError at " ++ e.position.toString ++ ": invalid UTF-8 sequence " ++ bytesText bytes
  | .unknownRadix letter =>
    "LexError at " ++ e.position.toString ++ ": unrecognized integer prefix "
      ++ Text.quoteChar letter

theorem append_parts {before kind between lead : String} (hbefore : before = kind ++ " at ")
    (hbetween : between = ": " ++ lead) (place rest : String) :
    before ++ place ++ between ++ rest = kind ++ " at " ++ place ++ ": " ++ (lead ++ rest) := by
  rw [hbefore, hbetween]
  simp only [String.append_assoc]

/-- The line that displays an error is made of its kind, its position and its message. -/
theorem toString_eq (e : ScanError) :
    e.toString = e.kind ++ " at " ++ e.position.toString ++ ": " ++ e.message := by
  obtain ⟨cause, p⟩ := e
  rcases cause with (f | bytes) | letter
  · exact append_parts (by simp [kind, Cause.kind]) (by simp) _ _
  · exact append_parts (by simp [kind, Cause.kind]) (by simp) _ _
  · exact append_parts (by simp [kind, Cause.kind]) (by simp) _ _

instance : ToString ScanError := ⟨ScanError.toString⟩

end ScanError

end MonkeyTokens
