import MonkeyTokens.Proofs.Stream.Reading

/-!
The characters that a source supplies.

Every source supplies some characters and then comes to an end, because its input is
used up or because something cannot be read. `ByteStream.Supplies` states this of its
answers; what comes after that end is left open. All that a scan depends on are these
characters and how they end. A decoder reads just them, one after the other, and then the
end (`supplies_iff_reads`), which `ByteStream.DecodesTo` states of a source from which
nothing has been read.
-/

namespace MonkeyTokens

/-- How the characters of a source come to an end. -/
inductive Ending where
  | endOfInput
  | failure (e : ReadError)
deriving DecidableEq, Repr

/-- What a read says where the characters end. -/
def Ending.result : Ending → Except ReadError (Option Char)
  | .endOfInput => .ok none
  | .failure e => .error e

namespace ByteStream

/-- The answers are decoded to the characters `cs`, which end in this way. -/
inductive Supplies : List Answer → List Char → Ending → Prop where
  | endOfInput {as rest : List Answer} : Decodes as (.ok none) rest →
      Supplies as [] .endOfInput
  | failure {as rest : List Answer} {e : ReadError} : Decodes as (.error e) rest →
      Supplies as [] (.failure e)
  | character {as rest : List Answer} {c : Char} {cs : List Char} {ending : Ending} :
      Decodes as (.ok (some c)) rest → Supplies rest cs ending → Supplies as (c :: cs) ending

theorem length_lt_of_decodes {as rest : List Answer} {c : Char}
    (h : Decodes as (.ok (some c)) rest) : rest.length < as.length := by
  rw [answers_of_decodes h]
  have := c.utf8Size_pos
  simp
  omega

/-- Any answers supply characters, and these come to an end. -/
theorem exists_supplies (as : List Answer) : ∃ cs ending, Supplies as cs ending := by
  induction hn : as.length using Nat.strongRecOn generalizing as with
  | ind n ih =>
    obtain ⟨result, rest, h⟩ := exists_decodes as
    rcases result with e | _ | c
    · exact ⟨_, _, .failure h⟩
    · exact ⟨_, _, .endOfInput h⟩
    · obtain ⟨cs, ending, hrest⟩ := ih rest.length (hn ▸ length_lt_of_decodes h) rest rfl
      exact ⟨_, _, .character h hrest⟩

/-- The encoding of a text supplies the text, and what follows it supplies the rest. -/
theorem Supplies.encode_append {as : List Answer} {cs' : List Char} {ending : Ending}
    (h : Supplies as cs' ending) (cs : List Char) :
    Supplies ((Utf8.encode cs).map .byte ++ as) (cs ++ cs') ending := by
  induction cs with
  | nil => exact h
  | cons c cs ih =>
    have hsplit : (Utf8.encode (c :: cs)).map .byte ++ as =
        (String.utf8EncodeChar c).map .byte ++ ((Utf8.encode cs).map .byte ++ as) := by
      simp [Utf8.encode]
    rw [hsplit]
    exact .character .character ih

/-- The encoding of a text supplies just the text where the end of the input follows. -/
theorem supplies_encode {as rest : List Answer} (h : Ends as rest) (cs : List Char) :
    Supplies ((Utf8.encode cs).map .byte ++ as) cs .endOfInput := by
  have hend : Supplies as [] .endOfInput := .endOfInput (.endOfInput h)
  simpa using hend.encode_append cs

theorem supplies_nil_iff {as : List Answer} {ending : Ending} :
    Supplies as [] ending ↔ ∃ rest, Decodes as ending.result rest := by
  constructor
  · intro h
    cases h with
    | endOfInput hd => exact ⟨_, hd⟩
    | failure hd => exact ⟨_, hd⟩
  · rintro ⟨rest, hd⟩
    cases ending with
    | endOfInput => exact .endOfInput hd
    | failure e => exact .failure hd

end ByteStream

namespace Decoder

open ByteStream

/-- The characters that a source supplies are read one after the other, and then their
end. -/
theorem supplies_iff_reads {cs : List Char} {ending : Ending} {d : Decoder}
    (hslot : d.slot = none) : Supplies d.stream.answers cs ending ↔
      d.reads (cs.length + 1) = cs.map (fun c => .ok (some c)) ++ [ending.result] := by
  induction cs generalizing d with
  | nil =>
    rw [supplies_nil_iff, ← exists_read_iff hslot]
    simp [reads, Prod.ext_iff]
  | cons c cs ih =>
    have hreads : d.reads ((c :: cs).length + 1) = d.read.1 :: d.read.2.reads (cs.length + 1) := rfl
    rw [hreads, List.map_cons, List.cons_append, List.cons.injEq]
    constructor
    · intro h
      cases h with
      | character hd hrest =>
        obtain ⟨s, hread, rfl⟩ := read_of_decodes hslot hd
        rw [hread]
        exact ⟨rfl, (ih rfl).mp hrest⟩
    · rintro ⟨hread, htail⟩
      obtain ⟨hd, hslot'⟩ := decodes_of_read hslot (Prod.ext hread rfl)
      exact .character hd ((ih hslot').mpr htail)

end Decoder

namespace ByteStream

/-- The characters of the text are decoded from the source in all, and then they end in this
way. -/
def DecodesTo (source : ByteStream) (text : List Char) (ending : Ending) : Prop :=
  (Decoder.ofStream source).reads (text.length + 1) =
    text.map (fun c => .ok (some c)) ++ [ending.result]

theorem decodesTo_iff {source : ByteStream} {text : List Char} {ending : Ending} :
    source.DecodesTo text ending ↔ Supplies source.answers text ending :=
  (Decoder.supplies_iff_reads (d := .ofStream source) rfl).symm

theorem exists_decodesTo (source : ByteStream) :
    ∃ text ending, source.DecodesTo text ending := by
  obtain ⟨text, ending, h⟩ := exists_supplies source.answers
  exact ⟨text, ending, decodesTo_iff.mpr h⟩

end ByteStream

end MonkeyTokens
