import MonkeyTokens.Proofs.Calls.Course

/-!
The end of a scan is final.

Once a scanner has replied an error or the end of the text, it is spent: everything it
replies from then on is what is replied at the end, at the position where it stands. That
it does not read any more is said by putting another decoder in place of its own
(`Scanner.withDecoder`): whatever that one would deliver, and whatever is left in its slot,
the replies are the same and the decoder is still the same behind them. The main statement
is `end_absorbing`.
-/

namespace MonkeyTokens.Scanner

open ByteStream

/-- The scanner with another decoder in place of its own. -/
def withDecoder (d : Decoder) (s : Scanner) : Scanner :=
  { s with cursor := { s.cursor with decoder := d } }

variable {s : Scanner}

theorem Spent.withDecoder (h : Spent s) (d : Decoder) : Spent (s.withDecoder d) :=
  ⟨h.primed, h.held⟩

/-- A call of a spent scanner leaves any decoder alone. -/
theorem call_withDecoder (h : Spent s) (d : Decoder) (c : Call) :
    (s.withDecoder d).call c = ((s.call c).1, (s.call c).2.withDecoder d) := by
  have h' := h.withDecoder d
  cases c with
  | prime =>
    rw [call, call, prime_of_primed h.primed, prime_of_primed h'.primed]
  | position => rfl
  | nextToken =>
    rw [call, call, nextToken_of_spent h, nextToken_of_spent h']
    rfl
  | next? =>
    cases hfin : s.finished with
    | true => rw [call, call, next?_of_finished hfin, next?_of_finished (s := s.withDecoder d) hfin]
    | false =>
      have hfin' : (s.withDecoder d).finished = false := hfin
      rw [call, call, next?_of_unfinished hfin, next?_of_unfinished hfin', nextToken_of_spent h,
        nextToken_of_spent h']
      rfl

/-- Any calls of a spent scanner leave any decoder alone. -/
theorem calls_withDecoder (h : Spent s) (d : Decoder) (calls : List Call) :
    (s.withDecoder d).replies calls = s.replies calls ∧
      (s.withDecoder d).after calls = (s.after calls).withDecoder d := by
  induction calls generalizing s with
  | nil => exact ⟨rfl, rfl⟩
  | cons c calls ih =>
    obtain ⟨hreplies, hafter⟩ := ih (call_of_spent h c).2.2
    rw [replies_cons, after_cons, call_withDecoder h d c, hreplies, hafter]
    exact ⟨rfl, rfl⟩

/-- **The end of a scan is final.** Behind a call that replied an error or the end of the
text, whatever was called before and is called later, to be primed succeeds, every token
and every item is the end of the text at the position where the scanner stands, and the
reader of items may also be given nothing. No decoder is read from: with any other in its
place the replies are the same, and that decoder is left as it was. -/
theorem end_absorbing (source : ByteStream) (calls : List Call) (c : Call)
    (hfinal : (((ofStream source).after calls).call c).1.isFinal = true) (later : List Call) :
    let s := (((ofStream source).after calls).call c).2
    List.Forall₂ (AtEnd s.position) later (s.replies later) ∧
      ∀ d, (s.withDecoder d).replies later = s.replies later ∧
        ((s.withDecoder d).after later).cursor.decoder = d := by
  intro s
  have hspent : Spent s := by
    obtain ⟨text, ending, hsupply⟩ := exists_supplies source.answers
    rcases underway_or_spent hsupply calls with h | h
    · exact (call_of_underway hsupply h c).spent_of_isFinal hfinal
    · exact (call_of_spent h c).2.2
  refine ⟨replies_of_spent hspent later, ?_⟩
  intro d
  obtain ⟨hreplies, hafter⟩ := calls_withDecoder hspent d later
  refine ⟨hreplies, ?_⟩
  rw [hafter]
  rfl

/-- A letter that names no radix stays in the slot of the decoder, and the source could go
on behind the end of its input. -/
theorem end_absorbing_letter :
    let source : ByteStream := [.bytes [0x30, 0x71, 0x3D], .endOfInput, .bytes [0x78]]
    let reply := (ofStream source).call .nextToken
    let later : List Call := [.position, .nextToken, .prime, .next?, .next?]
    reply.1.isFinal = true ∧ reply.2.cursor.decoder.slot = some (some 'q') ∧
      List.Forall₂ (AtEnd ⟨1, 1⟩) later (reply.2.replies later) := by
  intro source reply later
  have hfinal : reply.1.isFinal = true := by decide +kernel
  have hslot : reply.2.cursor.decoder.slot = some (some 'q') := by decide +kernel
  have hposition : reply.2.position = ⟨1, 1⟩ := by decide +kernel
  obtain ⟨hreplies, -⟩ := end_absorbing source [] .nextToken hfinal later
  exact ⟨hfinal, hslot, hposition ▸ hreplies⟩

end MonkeyTokens.Scanner
