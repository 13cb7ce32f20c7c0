/-!
Faults of a byte source.

A `Fault` is what a source reports instead of a byte: its kind, and the text
that describes it to a reader. The kind matters to the program in one case
only: an interrupted read is tried again and is never reported.
-/

namespace MonkeyTokens

/-- The kinds of fault that a byte source reports. -/
inductive Fault.Kind where
  | interrupted | other | unexpectedEnd | wouldBlock | brokenPipe | timedOut
  | notFound | notDirectory | isDirectory | nameTooLong
deriving DecidableEq, Repr

/-- The text of a fault that brings none of its own. A fault of the file system
carries its error number. -/
def Fault.Kind.message : Fault.Kind → String
  | .interrupted => "operation interrupted"
  | .other => "other error"
  | .unexpectedEnd => "unexpected end of file"
  | .wouldBlock => "operation would block"
  | .brokenPipe => "broken pipe"
  | .timedOut => "timed out"
  | .notFound => "No such file or directory (os error 2)"
  | .notDirectory => "Not a directory (os error 20)"
  | .isDirectory => "Is a directory (os error 21)"
  | .nameTooLong => "File name too long (os error 36)"

/-- A failed read. -/
structure Fault where
  kind : Fault.Kind
  message : String
deriving DecidableEq, Repr

namespace Fault

/-- The fault of a kind, with the text of its kind. -/
def ofKind (kind : Kind) : Fault := ⟨kind, kind.message⟩

/-- Whether the read that failed is to be tried again. -/
def isRetried (f : Fault) : Bool := f.kind == .interrupted

end Fault

end MonkeyTokens
