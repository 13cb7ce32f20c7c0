import MonkeyTokens.Stream.Basic
import MonkeyTokens.Stream.Utf8

/-!
Characters from a byte source, with one character of lookahead.

`ByteStream.nextChar` decodes one character. It fetches the bytes of a sequence
one at a time and judges the sequence when all the bytes that the first one
announced are there; an input that ends in the middle of a sequence makes the
bytes seen so far malformed, and a fault in the middle is reported in their
place. A `Decoder` adds one slot that remembers what a peek has decoded, a
character or the end of the input; a peek that fails leaves the slot empty.

`Decoder.pending` bounds the characters still to come: a read that returns one
makes it smaller and no other read or peek makes it larger.
-/

namespace MonkeyTokens

/-- Why a character could not be read. -/
inductive ReadError where
  /-- The source failed. -/
  | fault (f : Fault)
  /-- The bytes are not the UTF-8 encoding of a character. -/
  | malformed (bytes : List UInt8)
deriving DecidableEq, Repr

namespace ByteStream

/-- Fetches `n` more bytes of a sequence of which `seen` is there already. -/
def fetch : Nat → List UInt8 → ByteStream → Except ReadError (List UInt8) × ByteStream
  | 0, seen, s => (.ok seen, s)
  | n + 1, seen, s =>
    match s.next with
    | (.byte b, s') => fetch n (seen ++ [b]) s'
    | (.fault f, s') => (.error (.fault f), s')
    | (.endOfInput, s') => (.error (.malformed seen), s')

/-- Decodes one character, or `none` at the end of the input. -/
def nextChar (s : ByteStream) : Except ReadError (Option Char) × ByteStream :=
  match s.next with
  | (.fault f, s') => (.error (.fault f), s')
  | (.endOfInput, s') => (.ok none, s')
  | (.byte lead, s') =>
    match Utf8.followers? lead with
    | none => (.error (.malformed [lead]), s')
    | some n =>
      match fetch n [lead] s' with
      | (.error e, s'') => (.error e, s'')
      | (.ok bytes, s'') =>
        match Utf8.decode? bytes with
        | some c => (.ok (some c), s'')
        | none => (.error (.malformed bytes), s'')

/-- A read never adds to the bytes that remain. -/
theorem remaining_next_le (s : ByteStream) : s.next.2.remaining ≤ s.remaining := by
  cases h : s.next with
  | mk a s' =>
    cases a with
    | byte b => have := remaining_of_next_byte h; simp only; omega
    | fault f => exact Nat.le_of_eq (remaining_of_next h (by simp))
    | endOfInput => exact Nat.le_of_eq (remaining_of_next h (by simp))

theorem remaining_fetch_le (n : Nat) (seen : List UInt8) (s : ByteStream) :
    (fetch n seen s).2.remaining ≤ s.remaining := by
  fun_induction fetch n seen s with
  | case1 => exact Nat.le_refl _
  | case2 n seen s b s' h ih =>
    have := remaining_of_next_byte h
    omega
  | case3 n seen s f s' h => exact Nat.le_of_eq (remaining_of_next h (by simp))
  | case4 n seen s s' h => exact Nat.le_of_eq (remaining_of_next h (by simp))

theorem remaining_nextChar_le (s : ByteStream) : s.nextChar.2.remaining ≤ s.remaining := by
  have hnext := remaining_next_le s
  fun_cases nextChar s <;> grind [remaining_fetch_le]

/-- Decoding a character takes at least one byte. -/
theorem remaining_lt_of_nextChar {s s' : ByteStream} {c : Char}
    (h : s.nextChar = (.ok (some c), s')) : s'.remaining < s.remaining := by
  revert h
  fun_cases nextChar s with grind [remaining_fetch_le, remaining_of_next_byte]

end ByteStream

/-- A decoder of characters with one slot of lookahead. -/
structure Decoder where
  stream : ByteStream
  /-- What was peeked at and not read since, `some none` for the end of the input. -/
  slot : Option (Option Char)
deriving DecidableEq, Repr

namespace Decoder

/-- The decoder of a source from which nothing has been read. -/
def ofStream (s : ByteStream) : Decoder := ⟨s, none⟩

/-- Takes the next character, or `none` at the end of the input. -/
def read (d : Decoder) : Except ReadError (Option Char) × Decoder :=
  match d.slot with
  | some seen => (.ok seen, { d with slot := none })
  | none =>
    match d.stream.nextChar with
    | (result, s) => (result, ⟨s, none⟩)

/-- Looks at the next character without taking it. -/
def peek (d : Decoder) : Except ReadError (Option Char) × Decoder :=
  match d.slot with
  | some seen => (.ok seen, d)
  | none =>
    match d.stream.nextChar with
    | (.ok seen, s) => (.ok seen, ⟨s, some seen⟩)
    | (.error e, s) => (.error e, ⟨s, none⟩)

/-- A bound on the characters that are still to be read. -/
def pending (d : Decoder) : Nat :=
  d.stream.remaining + if (d.slot.join).isSome then 1 else 0

/-- Reading a character brings the end of the input nearer. -/
theorem pending_lt_of_read {d d' : Decoder} {c : Char} (h : d.read = (.ok (some c), d')) :
    d'.pending < d.pending := by
  obtain ⟨s, slot⟩ := d
  cases slot with
  | some seen =>
    obtain ⟨h₁, h₂⟩ : seen = some c ∧ d' = ⟨s, none⟩ := by simpa [read, eq_comm] using h
    subst h₁ h₂
    simp [pending]
  | none =>
    cases hs : s.nextChar with
    | mk result s' =>
      obtain ⟨h₁, h₂⟩ : result = .ok (some c) ∧ d' = ⟨s', none⟩ := by
        simpa [read, hs, eq_comm] using h
      subst h₁ h₂
      simpa [pending] using ByteStream.remaining_lt_of_nextChar hs

theorem pending_read_le (d : Decoder) : d.read.2.pending ≤ d.pending := by
  obtain ⟨s, slot⟩ := d
  cases slot with
  | some seen => simp [read, pending]
  | none => simpa [read, pending] using ByteStream.remaining_nextChar_le s

theorem pending_peek_le (d : Decoder) : d.peek.2.pending ≤ d.pending := by
  obtain ⟨s, slot⟩ := d
  cases slot with
  | some seen => simp [peek]
  | none =>
    cases hs : s.nextChar with
    | mk result s' =>
      have hle := ByteStream.remaining_nextChar_le s
      rw [hs] at hle
      cases result with
      | error e => simpa [peek, hs, pending] using hle
      | ok seen =>
        cases seen with
        | none => simpa [peek, hs, pending] using hle
        | some c =>
          simpa [peek, hs, pending] using Nat.succ_le_of_lt (ByteStream.remaining_lt_of_nextChar hs)

end Decoder

end MonkeyTokens
