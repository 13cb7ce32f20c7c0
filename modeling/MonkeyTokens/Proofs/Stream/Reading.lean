import MonkeyTokens.Proofs.Stream.Decoding

/-!
A decoder accepts well-formed UTF-8 and nothing else.

`ByteStream.upcoming` is what a source delivers next, up to the report that its input
has ended. Where no read of the source fails, these bytes alone decide what a
decoder between two sequences reads: a character exactly where they begin with its
encoding, which it then takes, and the end of the input exactly where there are none.
The main statement is `read_wellFormed`.
-/

namespace MonkeyTokens

namespace ByteStream

open Utf8

/-- The bytes at the head of the answers. -/
def leadingBytes : List Answer → List UInt8
  | .byte b :: rest => b :: leadingBytes rest
  | _ => []

/-- The bytes that a source delivers before anything else happens. -/
def upcoming (s : ByteStream) : List UInt8 := leadingBytes s.answers

/-- No read of the source fails, but for those that are tried again. -/
def Faultless (s : ByteStream) : Prop := ∀ f, .fault f ∉ s.answers

theorem prefix_leadingBytes_iff {bs : List UInt8} {as : List Answer} :
    bs <+: leadingBytes as ↔ ∃ rest, as = bs.map .byte ++ rest := by
  induction bs generalizing as with
  | nil => simp
  | cons b bs ih =>
    constructor
    · intro h
      match as, h with
      | .byte b' :: as, h =>
        obtain ⟨rfl, htail⟩ := List.cons_prefix_cons.mp h
        obtain ⟨rest, rfl⟩ := ih.mp htail
        exact ⟨rest, rfl⟩
    · rintro ⟨rest, rfl⟩
      exact List.cons_prefix_cons.mpr ⟨rfl, ih.mpr ⟨rest, rfl⟩⟩

theorem leadingBytes_of_ends {as rest : List Answer} (h : Ends as rest) :
    leadingBytes as = [] := by
  cases h <;> rfl

@[simp] theorem leadingBytes_append (bs : List UInt8) (as : List Answer) :
    leadingBytes (bs.map .byte ++ as) = bs ++ leadingBytes as := by
  induction bs with
  | nil => rfl
  | cons b bs ih => simpa [leadingBytes] using ih

theorem answers_of_decodes {as rest : List Answer} {c : Char}
    (h : Decodes as (.ok (some c)) rest) : as = (String.utf8EncodeChar c).map .byte ++ rest := by
  cases h
  rfl

theorem ends_of_decodes {as rest : List Answer} (h : Decodes as (.ok none) rest) :
    Ends as rest := by
  cases h with
  | endOfInput hends => exact hends

/-- A character is decoded exactly where the upcoming bytes begin with its encoding. -/
theorem decodes_character_iff {as : List Answer} {c : Char} :
    (∃ rest, Decodes as (.ok (some c)) rest) ↔ String.utf8EncodeChar c <+: leadingBytes as := by
  rw [prefix_leadingBytes_iff]
  constructor
  · rintro ⟨rest, h⟩
    exact ⟨rest, answers_of_decodes h⟩
  · rintro ⟨rest, rfl⟩
    exact ⟨rest, .character⟩

/-- The end of the input is decoded exactly where the next read reports it. -/
theorem decodes_none_iff {s : ByteStream} :
    (∃ rest, Decodes s.answers (.ok none) rest) ↔ s.next.1 = .endOfInput := by
  constructor
  · rintro ⟨rest, h⟩
    obtain ⟨s', hnext, -⟩ := next_of_ends (ends_of_decodes h)
    rw [hnext]
  · intro h
    have hends : Ends s.answers s.next.2.answers := ends_of_next (by rw [← h])
    exact ⟨_, .endOfInput hends⟩

/-- Where no read fails, bytes that are malformed are ill-formed. -/
theorem illFormed_of_decodes {as rest : List Answer} {bytes : List UInt8}
    (h : Decodes as (.error (.malformed bytes)) rest) : IllFormed (leadingBytes as) := by
  cases h with
  | lead ha => exact illFormed_of_not_announces ha _
  | truncated hbs hends =>
    rw [leadingBytes_append, leadingBytes_of_ends hends, List.append_nil]
    cases hbs with
    | mk ha hlt => exact .truncated ha hlt
  | @sequence a more _ ha hbad =>
    rw [leadingBytes_append]
    apply illFormed_of_not_wellFormed (by simp)
    intro seq hbegins hseq
    exact hbad (hseq.eq_of_begins hbegins ha ▸ hseq)

theorem fault_mem_of_decodes {as rest : List Answer} {f : Fault}
    (h : Decodes as (.error (.fault f)) rest) : .fault f ∈ as := by
  cases h with
  | fault => exact List.mem_cons_self ..
  | faultInside => exact List.mem_append_right _ (List.mem_cons_self ..)

/-- Where no read fails, ill-formed bytes are malformed. -/
theorem exists_decodes_malformed {as : List Answer} (hfault : ∀ f, .fault f ∉ as)
    (h : IllFormed (leadingBytes as)) :
    ∃ bytes rest, Decodes as (.error (.malformed bytes)) rest := by
  obtain ⟨result, rest, hd⟩ := exists_decodes as
  cases hd with
  | @character c rest =>
    rw [leadingBytes_append] at h
    exact absurd (wellFormed_encodeChar c) (h.not_wellFormed (List.prefix_append _ _))
  | endOfInput hends =>
    rw [leadingBytes_of_ends hends] at h
    cases h
  | fault => exact absurd (fault_mem_of_decodes .fault) (hfault _)
  | faultInside hbs => exact absurd (fault_mem_of_decodes (.faultInside hbs)) (hfault _)
  | lead ha => exact ⟨_, _, .lead ha⟩
  | truncated hbs hends => exact ⟨_, _, .truncated hbs hends⟩
  | sequence ha hbad => exact ⟨_, _, .sequence ha hbad⟩

end ByteStream

namespace Decoder

open ByteStream

/-- The results of `n` reads, one after the other. -/
def reads : Nat → Decoder → List (Except ReadError (Option Char))
  | 0, _ => []
  | n + 1, d => d.read.1 :: reads n d.read.2

/-- The decoder after `n` reads. -/
def afterReads : Nat → Decoder → Decoder
  | 0, d => d
  | n + 1, d => afterReads n d.read.2

theorem afterReads_succ (n : Nat) (d : Decoder) :
    d.afterReads (n + 1) = (d.afterReads n).read.2 := by
  induction n generalizing d with
  | zero => rfl
  | succ n ih => exact ih d.read.2

theorem read_of_nextChar {d : Decoder} {result : Except ReadError (Option Char)}
    {s : ByteStream} (hslot : d.slot = none) (h : d.stream.nextChar = (result, s)) :
    d.read = (result, ⟨s, none⟩) := by
  simp only [read, hslot, h]

/-- A look keeps what it decodes. -/
theorem peek_of_nextChar {d : Decoder} {seen : Option Char} {s : ByteStream}
    (hslot : d.slot = none) (h : d.stream.nextChar = (.ok seen, s)) :
    d.peek = (.ok seen, ⟨s, some seen⟩) := by
  simp only [peek, hslot, h]

/-- A look that fails leaves the decoder as a read does. -/
theorem peek_of_read_error {d d' : Decoder} {e : ReadError} (h : d.read = (.error e, d')) :
    d.peek = (.error e, d') := by
  obtain ⟨s, slot⟩ := d
  cases slot with
  | some seen => simp [read] at h
  | none =>
    cases hs : s.nextChar with
    | mk result s' =>
      obtain ⟨rfl, rfl⟩ : result = .error e ∧ ⟨s', none⟩ = d' := by simpa [read, hs] using h
      simp only [peek, hs]

/-- Between two sequences a read decodes what comes next, and leaves the slot empty. -/
theorem decodes_of_read {d d' : Decoder} {result : Except ReadError (Option Char)}
    (hslot : d.slot = none) (h : d.read = (result, d')) :
    Decodes d.stream.answers result d'.stream.answers ∧ d'.slot = none := by
  rw [read_of_nextChar hslot rfl] at h
  obtain ⟨rfl, rfl⟩ := Prod.mk.inj h
  exact ⟨decodes_nextChar d.stream, rfl⟩

theorem read_of_decodes {d : Decoder} {result : Except ReadError (Option Char)}
    {rest : List Answer} (hslot : d.slot = none) (h : Decodes d.stream.answers result rest) :
    ∃ s, d.read = (result, ⟨s, none⟩) ∧ s.answers = rest := by
  obtain ⟨s, hs, hrest⟩ := nextChar_of_decodes h
  exact ⟨s, read_of_nextChar hslot hs, hrest⟩

theorem exists_read_iff {d : Decoder} {result : Except ReadError (Option Char)}
    (hslot : d.slot = none) :
    (∃ d', d.read = (result, d')) ↔ ∃ rest, Decodes d.stream.answers result rest := by
  constructor
  · rintro ⟨d', h⟩
    exact ⟨_, (decodes_of_read hslot h).1⟩
  · rintro ⟨rest, h⟩
    obtain ⟨s, hs, -⟩ := read_of_decodes hslot h
    exact ⟨_, hs⟩

/-- The encoding of a text is read as that text. -/
theorem reads_encode {cs : List Char} {d : Decoder} {tail rest : List Answer}
    (hslot : d.slot = none) (h : d.stream.answers = (Utf8.encode cs).map .byte ++ tail)
    (hends : Ends tail rest) :
    d.reads (cs.length + 1) = cs.map (fun c => .ok (some c)) ++ [.ok none] := by
  induction cs generalizing d with
  | nil =>
    have hd : Decodes d.stream.answers (.ok none) rest := .endOfInput (h ▸ hends)
    obtain ⟨s, hs, -⟩ := read_of_decodes hslot hd
    simp [reads, hs]
  | cons c cs ih =>
    have hsplit : d.stream.answers = (String.utf8EncodeChar c).map .byte
        ++ ((Utf8.encode cs).map .byte ++ tail) := by
      rw [h]
      simp [Utf8.encode]
    have hd : Decodes d.stream.answers (.ok (some c)) ((Utf8.encode cs).map .byte ++ tail) := by
      rw [hsplit]
      exact .character
    obtain ⟨s, hs, hrest⟩ := read_of_decodes hslot hd
    rw [List.length_cons, reads, hs, ih rfl hrest]
    rfl

/-- **A decoder accepts exactly well-formed UTF-8.** Between two sequences of a source
of which no read fails, a read returns the character whose encoding the upcoming bytes
begin with, and takes these bytes; it returns the end of the input exactly where the
next read of the source reports it, and refuses exactly the ill-formed bytes. So a text
is read back from its encoding, whatever its bytes are delivered in. -/
theorem read_wellFormed (d : Decoder) (hslot : d.slot = none) (hfault : d.stream.Faultless) :
    (∀ c, (∃ d', d.read = (.ok (some c), d')) ↔
        String.utf8EncodeChar c <+: d.stream.upcoming) ∧
      (∀ c d', d.read = (.ok (some c), d') → d'.slot = none ∧
        d.stream.answers = (String.utf8EncodeChar c).map .byte ++ d'.stream.answers) ∧
      ((∃ d', d.read = (.ok none, d')) ↔ d.stream.next.1 = .endOfInput) ∧
      ((∃ bytes d', d.read = (.error (.malformed bytes), d')) ↔
        Utf8.IllFormed d.stream.upcoming) ∧
      (∀ f d', d.read ≠ (.error (.fault f), d')) ∧
      (∀ cs tail rest, d.stream.answers = (Utf8.encode cs).map .byte ++ tail →
        Ends tail rest →
        d.reads (cs.length + 1) = cs.map (fun c => .ok (some c)) ++ [.ok none]) := by
  refine ⟨?_, ?_, ?_, ?_, ?_, ?_⟩
  · intro c
    rw [exists_read_iff hslot, decodes_character_iff, upcoming]
  · intro c d' h
    obtain ⟨hd, hslot'⟩ := decodes_of_read hslot h
    exact ⟨hslot', answers_of_decodes hd⟩
  · rw [exists_read_iff hslot, decodes_none_iff]
  · constructor
    · rintro ⟨bytes, d', h⟩
      exact illFormed_of_decodes (decodes_of_read hslot h).1
    · intro h
      obtain ⟨bytes, rest, hd⟩ := exists_decodes_malformed hfault h
      obtain ⟨s, hs, -⟩ := read_of_decodes hslot hd
      exact ⟨bytes, _, hs⟩
  · intro f d' h
    exact hfault f (fault_mem_of_decodes (decodes_of_read hslot h).1)
  · intro cs tail rest h hends
    exact reads_encode hslot h hends

/-- A euro sign in three deliveries, of which a read in between is interrupted, and then
the beginning of a surrogate that the input ends in. -/
theorem read_wellFormed_euro :
    let s : ByteStream := [.bytes [0xE2], .fault (.ofKind .interrupted) 2, .bytes [],
      .bytes [0x82, 0xAC, 0xED, 0xA0], .endOfInput, .bytes [0x80]]
    (ofStream s).slot = none ∧ s.Faultless ∧ ∃ d', (ofStream s).read = (.ok (some '€'), d') := by
  intro s
  have hfault : s.Faultless := by
    intro f
    have hs : s.answers = [.byte 0xE2, .byte 0x82, .byte 0xAC, .byte 0xED, .byte 0xA0,
      .endOfInput, .byte 0x80] := by decide
    simp [hs]
  exact ⟨rfl, hfault, ((read_wellFormed (ofStream s) rfl hfault).1 '€').mpr (by decide)⟩

end Decoder

end MonkeyTokens
