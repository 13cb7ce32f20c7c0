import MonkeyTokens.Stream.Fault

/-!
Byte sources, described by what they are going to deliver.

A `ByteStream` is the finite list of deliveries that a source still has to make:
some bytes, a fault a number of times over, or one report that the input has
ended, after which a source may well go on. Once the list is used up, every read
reports the end of the input.

`ByteStream.next` is one read. Deliveries that are used up are passed over, and
so is an interrupted read, because it is tried again until the source answers
otherwise. `ByteStream.remaining` counts the bytes still to come; a read that
returns a byte takes exactly one of them and every other read takes none.
-/

namespace MonkeyTokens

/-- Something that a byte source is going to deliver. -/
inductive Delivery where
  | bytes (bytes : List UInt8)
  | fault (fault : Fault) (times : Nat)
  | endOfInput
deriving DecidableEq, Repr

/-- A byte source: what it still has to deliver, in order. -/
abbrev ByteStream := List Delivery

namespace ByteStream

/-- The answer to one read. -/
inductive Answer where
  | byte (b : UInt8)
  | fault (f : Fault)
  | endOfInput
deriving DecidableEq, Repr

/-- One read: the answer, and what the source has to deliver afterwards. -/
def next : ByteStream → Answer × ByteStream
  | [] => (.endOfInput, [])
  | .bytes (b :: bs) :: rest => (.byte b, .bytes bs :: rest)
  | .bytes [] :: rest => next rest
  | .fault f (n + 1) :: rest => if f.isRetried then next rest else (.fault f, .fault f n :: rest)
  | .fault _ 0 :: rest => next rest
  | .endOfInput :: rest => (.endOfInput, rest)

/-- The number of bytes that a source still has to deliver. -/
def remaining : ByteStream → Nat
  | [] => 0
  | .bytes bs :: rest => bs.length + remaining rest
  | .fault _ _ :: rest => remaining rest
  | .endOfInput :: rest => remaining rest

/-- A read that returns a byte takes it from the bytes that remain. -/
theorem remaining_of_next_byte {s s' : ByteStream} {b : UInt8} (h : s.next = (.byte b, s')) :
    s'.remaining + 1 = s.remaining := by
  fun_induction next s with grind [remaining]

/-- A read that returns no byte leaves all the bytes that remain. -/
theorem remaining_of_next {s s' : ByteStream} {a : Answer} (h : s.next = (a, s'))
    (ha : ∀ b, a ≠ .byte b) : s'.remaining = s.remaining := by
  fun_induction next s with grind [remaining]

end ByteStream

end MonkeyTokens
