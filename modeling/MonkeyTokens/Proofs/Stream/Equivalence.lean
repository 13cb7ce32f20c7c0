import MonkeyTokens.Proofs.Stream.Reading

/-!
What a decoder tells of its source.

A decoder is asked for characters and for looks at them in any order (`Decoder.Call`). Two
decoders are alike if nothing has been peeked at in one that has not in the other and the
reads of their sources answer the same; no sequence of calls tells them apart
(`Decoder.replies_of_alike`). How the answers are cut into deliveries and how often a read
is interrupted make no difference to the answers (`ByteStream.answers_cut`).
-/

namespace MonkeyTokens

namespace ByteStream

theorem answers_append (s t : ByteStream) : answers (s ++ t) = answers s ++ answers t := by
  induction s with
  | nil => rfl
  | cons delivery s ih =>
    cases delivery with
    | bytes bs => simp [ih]
    | fault f n => simp [answers, ih]
    | endOfInput => simp [ih]

/-- Bytes are answered the same whether they are delivered at once or with interrupted reads
in between. -/
theorem answers_cut {f : Fault} (hf : f.isRetried = true) (before after : ByteStream)
    (bs bs' : List UInt8) (times : Nat) :
    answers (before ++ .bytes bs :: .fault f times :: .bytes bs' :: after) =
      answers (before ++ .bytes (bs ++ bs') :: after) := by
  simp [answers_append, answers, hf]

/-- What is decoded depends on nothing but the answers. -/
theorem nextChar_of_answers_eq {s t : ByteStream} (h : s.answers = t.answers) :
    s.nextChar.1 = t.nextChar.1 ∧ s.nextChar.2.answers = t.nextChar.2.answers := by
  have hs := decodes_nextChar s
  rw [h] at hs
  obtain ⟨t', ht, hanswers⟩ := nextChar_of_decodes hs
  rw [ht]
  exact ⟨rfl, hanswers.symm⟩

end ByteStream

namespace Decoder

/-- What a decoder may be asked for. -/
inductive Call where
  | read | peek
deriving DecidableEq, Repr

/-- One call: the reply, and the decoder afterwards. -/
def call : Call → Decoder → Except ReadError (Option Char) × Decoder
  | .read, d => d.read
  | .peek, d => d.peek

/-- The replies to calls made one after the other. -/
def replies : List Call → Decoder → List (Except ReadError (Option Char))
  | [], _ => []
  | c :: calls, d => (d.call c).1 :: replies calls (d.call c).2

/-- The same has been peeked at, and the same is still to come. -/
structure Alike (d d' : Decoder) : Prop where
  answers : d.stream.answers = d'.stream.answers
  slot : d.slot = d'.slot

variable {d d' : Decoder}

theorem alike_ofStream {s t : ByteStream} (h : s.answers = t.answers) :
    Alike (ofStream s) (ofStream t) := ⟨h, rfl⟩

theorem read_of_alike (h : Alike d d') : d.read.1 = d'.read.1 ∧ Alike d.read.2 d'.read.2 := by
  obtain ⟨s, slot⟩ := d
  obtain ⟨t, slot'⟩ := d'
  obtain ⟨hanswers, rfl⟩ := h
  cases slot with
  | some seen => exact ⟨rfl, hanswers, rfl⟩
  | none =>
    obtain ⟨hresult, hrest⟩ := ByteStream.nextChar_of_answers_eq hanswers
    exact ⟨hresult, hrest, rfl⟩

theorem peek_of_alike (h : Alike d d') : d.peek.1 = d'.peek.1 ∧ Alike d.peek.2 d'.peek.2 := by
  obtain ⟨s, slot⟩ := d
  obtain ⟨t, slot'⟩ := d'
  obtain ⟨hanswers, rfl⟩ := h
  cases slot with
  | some seen => exact ⟨rfl, hanswers, rfl⟩
  | none =>
    have hnext := ByteStream.nextChar_of_answers_eq hanswers
    cases hs : s.nextChar with
    | mk result s' =>
      cases ht : t.nextChar with
      | mk result' t' =>
        rw [hs, ht] at hnext
        obtain ⟨rfl, hrest⟩ := hnext
        cases result with
        | ok seen =>
          rw [peek_of_nextChar rfl hs, peek_of_nextChar rfl ht]
          exact ⟨rfl, hrest, rfl⟩
        | error e =>
          rw [peek_of_read_error (read_of_nextChar rfl hs),
            peek_of_read_error (read_of_nextChar rfl ht)]
          exact ⟨rfl, hrest, rfl⟩

/-- Decoders that are alike reply alike and stay alike. -/
theorem call_of_alike (h : Alike d d') (c : Call) :
    (d.call c).1 = (d'.call c).1 ∧ Alike (d.call c).2 (d'.call c).2 := by
  cases c with
  | read => exact read_of_alike h
  | peek => exact peek_of_alike h

theorem replies_of_alike (h : Alike d d') (calls : List Call) :
    d.replies calls = d'.replies calls := by
  induction calls generalizing d d' with
  | nil => rfl
  | cons c calls ih =>
    obtain ⟨hreply, h'⟩ := call_of_alike h c
    rw [replies, replies, hreply, ih h']

end Decoder

end MonkeyTokens
