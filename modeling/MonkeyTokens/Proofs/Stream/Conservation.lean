import MonkeyTokens.Proofs.Stream.Reading

/-!
Every byte of a source is accounted for.

A read that is not disturbed by a fault takes some bytes from the source and hands out just
these: as the character that they encode, or as the bytes that encode none. So the results of
any number of reads, written one after the other as bytes (`ReadError.spelled`), are the
bytes that have been taken from the source, also where reading goes on behind malformed
bytes and behind reports that the input has ended. How many bytes are handed out as
malformed is fixed by the first of them and by where the input ends. The main statement is
`reads_conserve_bytes`.
-/

namespace MonkeyTokens

open Utf8

/-- The bytes that a result of a read stands for. -/
def ReadError.spelled : Except ReadError (Option Char) → List UInt8
  | .ok (some c) => String.utf8EncodeChar c
  | .ok none => []
  | .error (.malformed bytes) => bytes
  | .error (.fault _) => []

namespace ByteStream

/-- All the bytes that a source has still to deliver, in order. -/
def contents : ByteStream → List UInt8
  | [] => []
  | .bytes bs :: rest => bs ++ contents rest
  | .fault _ _ :: rest => contents rest
  | .endOfInput :: rest => contents rest

/-- The bytes among answers. -/
def bytesOf (as : List Answer) : List UInt8 :=
  as.filterMap fun
    | .byte b => some b
    | _ => none

@[simp] theorem bytesOf_append (as as' : List Answer) :
    bytesOf (as ++ as') = bytesOf as ++ bytesOf as' := List.filterMap_append

@[simp] theorem bytesOf_bytes (bs : List UInt8) : bytesOf (bs.map .byte) = bs := by
  rw [bytesOf, List.filterMap_map]
  exact List.filterMap_some

/-- The bytes that a source has to deliver are those that its reads answer. -/
theorem contents_eq (s : ByteStream) : s.contents = bytesOf s.answers := by
  induction s with
  | nil => rfl
  | cons delivery s ih =>
    cases delivery with
    | bytes bs => rw [contents, ih, answers_bytes, bytesOf_append, bytesOf_bytes]
    | endOfInput => exact ih
    | fault f n =>
      have hnone : bytesOf (if f.isRetried then [] else List.replicate n (.fault f)) = [] := by
        split
        · rfl
        · rw [bytesOf, List.filterMap_replicate_of_none rfl]
      rw [contents, ih, answers, bytesOf_append, hnone, List.nil_append]

theorem bytesOf_of_ends {as rest : List Answer} (h : Ends as rest) : bytesOf as = bytesOf rest := by
  cases h <;> rfl

/-! ### One decoding -/

section

variable {as rest : List Answer} {result : Except ReadError (Option Char)}

theorem suffix_of_ends (h : Ends as rest) : rest <:+ as := by
  cases h with
  | reported => exact List.suffix_cons _ _
  | usedUp => exact List.suffix_rfl

/-- What a decoding leaves is an end of what there was. -/
theorem suffix_of_decodes (h : Decodes as result rest) : rest <:+ as := by
  cases h with
  | character => exact List.suffix_append _ _
  | endOfInput hends => exact suffix_of_ends hends
  | fault => exact List.suffix_cons _ _
  | faultInside => exact (List.suffix_cons _ _).trans (List.suffix_append _ _)
  | lead => exact List.suffix_cons _ _
  | truncated _ hends => exact (suffix_of_ends hends).trans (List.suffix_append _ _)
  | sequence => exact List.suffix_append _ _

/-- A decoding takes at least one answer, as long as there are any. -/
theorem length_le_of_decodes (h : Decodes as result rest) : rest.length ≤ as.length - 1 := by
  have hends : ∀ {as rest : List Answer}, Ends as rest → rest.length ≤ as.length - 1 := by
    rintro _ _ (_ | _) <;> simp
  cases h with
  | @character c =>
    have := c.utf8Size_pos
    simp
    omega
  | endOfInput h => exact hends h
  | fault => simp
  | faultInside => simp
  | lead => simp
  | truncated hbs h =>
    cases hbs
    have := hends h
    simp
    omega
  | sequence => simp

/-- Where no read fails, a decoding hands out the bytes that it takes. -/
theorem bytesOf_of_decodes (h : Decodes as result rest) (hfault : ∀ f, .fault f ∉ as) :
    bytesOf as = ReadError.spelled result ++ bytesOf rest := by
  cases h with
  | character => rw [bytesOf_append, bytesOf_bytes, ReadError.spelled]
  | endOfInput hends => exact bytesOf_of_ends hends
  | fault => exact absurd (fault_mem_of_decodes .fault) (hfault _)
  | faultInside hbs => exact absurd (fault_mem_of_decodes (.faultInside hbs)) (hfault _)
  | lead => rfl
  | truncated _ hends => rw [bytesOf_append, bytesOf_bytes, bytesOf_of_ends hends, ReadError.spelled]
  | sequence => rw [bytesOf_append, bytesOf_bytes, ReadError.spelled]

/-- The bytes that are refused as malformed, out of those that come before the input ends: the
first one alone if it announces nothing, or else as many as it announces, as far as they are
there. -/
inductive Refuses : List UInt8 → List UInt8 → Prop where
  | lead {a : UInt8} {tail : List UInt8} : (∀ n, ¬ Announces a n) → Refuses (a :: tail) [a]
  | sequence {a : UInt8} {n : Nat} {tail : List UInt8} : Announces a n →
      Refuses (a :: tail) (a :: tail.take n)

theorem refuses_of_decodes {bytes : List UInt8}
    (h : Decodes as (.error (.malformed bytes)) rest) : Refuses (leadingBytes as) bytes := by
  cases h with
  | lead ha => exact .lead ha
  | truncated hbs hends =>
    rw [leadingBytes_append, leadingBytes_of_ends hends, List.append_nil]
    cases hbs with
    | @mk a n more ha hlt =>
      have hrefuses : Refuses (a :: more) (a :: more.take n) := .sequence ha
      rwa [List.take_of_length_le (Nat.le_of_lt hlt)] at hrefuses
  | @sequence a more _ ha _ =>
    have hrefuses : Refuses (a :: (more ++ leadingBytes rest))
        (a :: (more ++ leadingBytes rest).take more.length) := .sequence ha
    rw [List.take_left] at hrefuses
    rwa [leadingBytes_append]

end

theorem le_three_of_announces {a : UInt8} {n : Nat} (h : Announces a n) : n ≤ 3 := by
  cases h <;> omega

theorem Refuses.length_bounds {bs bytes : List UInt8} (h : Refuses bs bytes) :
    1 ≤ bytes.length ∧ bytes.length ≤ 4 := by
  cases h with
  | lead => simp
  | @sequence a n tail ha =>
    have := le_three_of_announces ha
    simp
    omega

end ByteStream

namespace Decoder

open ByteStream

variable {d : Decoder}

theorem decodes_read (hslot : d.slot = none) :
    Decodes d.stream.answers d.read.1 d.read.2.stream.answers ∧ d.read.2.slot = none :=
  decodes_of_read hslot (Prod.eta d.read).symm

/-- Reads in any number leave the slot empty, and leave an end of what there was. -/
theorem afterReads_of_slot (hslot : d.slot = none) (n : Nat) : (d.afterReads n).slot = none ∧
    (d.afterReads n).stream.answers <:+ d.stream.answers := by
  induction n generalizing d with
  | zero => exact ⟨hslot, List.suffix_rfl⟩
  | succ n ih =>
    obtain ⟨hd, hslot'⟩ := decodes_read hslot
    obtain ⟨hempty, hsuffix⟩ := ih hslot'
    exact ⟨hempty, hsuffix.trans (suffix_of_decodes hd)⟩

/-- Every read takes at least one answer, as long as there are any. -/
theorem length_answers_afterReads (hslot : d.slot = none) (n : Nat) :
    (d.afterReads n).stream.answers.length ≤ d.stream.answers.length - n := by
  induction n generalizing d with
  | zero => exact Nat.le_refl _
  | succ n ih =>
    obtain ⟨hd, hslot'⟩ := decodes_read hslot
    have := length_le_of_decodes hd
    have := ih hslot'
    rw [afterReads]
    omega

theorem contents_of_reads (hslot : d.slot = none) (hfault : d.stream.Faultless) (n : Nat) :
    d.stream.contents =
      (d.reads n).flatMap ReadError.spelled ++ (d.afterReads n).stream.contents := by
  induction n generalizing d with
  | zero => rfl
  | succ n ih =>
    obtain ⟨hd, hslot'⟩ := decodes_read hslot
    have hfault' : d.read.2.stream.Faultless := fun f hf =>
      hfault f ((suffix_of_decodes hd).mem hf)
    rw [contents_eq, bytesOf_of_decodes hd hfault, ← contents_eq, ih hslot' hfault', reads,
      List.flatMap_cons, List.append_assoc, afterReads]

/-- **Reading conserves bytes.** Of a source of which no read fails, the results of any number of
reads stand for the bytes that have been taken from it, in order, and after as many reads as it
has answers for, these are all. Bytes that are refused as malformed are from one to four: the first
alone if no sequence begins with it, and otherwise those that it announces, as far as they come
before the input ends. -/
theorem reads_conserve_bytes (s : ByteStream) (hfault : s.Faultless) :
    (∀ n, s.contents = ((ofStream s).reads n).flatMap ReadError.spelled ++
        ((ofStream s).afterReads n).stream.contents) ∧
      (∀ n, s.answers.length ≤ n →
        ((ofStream s).reads n).flatMap ReadError.spelled = s.contents) ∧
      ∀ n bytes, ((ofStream s).afterReads n).read.1 = .error (.malformed bytes) →
        Refuses ((ofStream s).afterReads n).stream.upcoming bytes ∧
          1 ≤ bytes.length ∧ bytes.length ≤ 4 := by
  have hconserves := contents_of_reads (d := ofStream s) rfl hfault
  refine ⟨hconserves, ?_, ?_⟩
  · intro n hn
    have hlength := length_answers_afterReads (d := ofStream s) rfl n
    have hnone : ((ofStream s).afterReads n).stream.answers = [] := by
      rw [← List.length_eq_zero_iff]
      have : (ofStream s).stream.answers.length ≤ n := hn
      omega
    have hall : s.contents = _ := hconserves n
    rw [hall, contents_eq, hnone]
    exact (List.append_nil _).symm
  · intro n bytes hbytes
    have hslot := (afterReads_of_slot (d := ofStream s) rfl n).1
    have hrefuses := refuses_of_decodes (hbytes ▸ (decodes_read hslot).1)
    exact ⟨hrefuses, hrefuses.length_bounds⟩

/-- A letter, a byte that no sequence begins with, a sequence that the input ends in and one
that goes on with a letter; a read in between is interrupted. -/
theorem reads_conserve_bytes_malformed :
    let s : ByteStream := [.bytes [0x61, 0xFF, 0xE2], .fault (.ofKind .interrupted) 2,
      .bytes [0x82], .endOfInput, .bytes [0xC3, 0x62]]
    let d := (ofStream s).afterReads 2
    s.Faultless ∧ s.answers.length ≤ 7 ∧ d.read.1 = .error (.malformed [0xE2, 0x82]) ∧
      ((ofStream s).reads 7).flatMap ReadError.spelled =
        [0x61, 0xFF, 0xE2, 0x82, 0xC3, 0x62] ∧
      Refuses d.stream.upcoming [0xE2, 0x82] := by
  intro s d
  have hfault : s.Faultless := by
    intro f
    have hs : s.answers = [.byte 0x61, .byte 0xFF, .byte 0xE2, .byte 0x82, .endOfInput,
      .byte 0xC3, .byte 0x62] := by decide
    simp [hs]
  have hlength : s.answers.length ≤ 7 := by decide
  have hread : d.read.1 = .error (.malformed [0xE2, 0x82]) := by decide +kernel
  obtain ⟨-, hall, hrefuses⟩ := reads_conserve_bytes s hfault
  exact ⟨hfault, hlength, hread, hall 7 hlength, (hrefuses 2 _ hread).1⟩

end Decoder

end MonkeyTokens
