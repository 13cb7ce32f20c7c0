import MonkeyTokens.Proofs.Calls.Sequence
import MonkeyTokens.Proofs.Lexing.Landing
import MonkeyTokens.Proofs.Stream.Equivalence

/-!
How a source is delivered cannot be observed.

Two sources whose reads answer the same cannot be told apart by the calls of a decoder or
of a scanner. For a scanner this goes piece by piece: a step of the cursor is `Uniform` if
it does the same for cursors that are alike, a sequence of uniform steps is uniform, and so
are all the steps that a token is read by. Only `here` is not, because it returns the
cursor itself; what follows it looks at no more than the character and the position
(`uniform_here_bind`). The main statement is `delivery_independent`.
-/

namespace MonkeyTokens

namespace Cursor

variable {α β : Type}

/-- The cursors stand alike, and their decoders cannot be told apart. -/
structure Alike (cur cur' : Cursor) : Prop where
  decoder : cur.decoder.Alike cur'.decoder
  held : cur.held = cur'.held
  position : cur.position = cur'.position
  ahead : cur.ahead = cur'.ahead

/-- Two outcomes of a step that cannot be told apart. -/
structure SameOutcome (r r' : Except ScanError α × Cursor) : Prop where
  result : r.1 = r'.1
  cursor : Alike r.2 r'.2

theorem SameOutcome.exists_eq {result : Except ScanError α} {cur : Cursor}
    {r : Except ScanError α × Cursor} (h : SameOutcome (result, cur) r) :
    ∃ cur', r = (result, cur') ∧ Alike cur cur' := ⟨r.2, Prod.ext h.result.symm rfl, h.cursor⟩

/-- The step does the same for cursors that are alike. -/
def Uniform (x : Step α) : Prop := ∀ ⦃cur cur'⦄, Alike cur cur' → SameOutcome (x cur) (x cur')

/-! ### Steps -/

theorem uniform_pure (a : α) : Uniform (pure a : Step α) := fun _ _ h => ⟨rfl, h⟩

theorem uniform_bind {x : Step α} {f : α → Step β} (hx : Uniform x) (hf : ∀ a, Uniform (f a)) :
    Uniform (x >>= f) := by
  intro cur cur' h
  have hsame := hx h
  cases hr : x cur with
  | mk result next =>
    rw [hr] at hsame
    obtain ⟨next', hr', hnext⟩ := hsame.exists_eq
    cases result with
    | ok a =>
      rw [bind_of_ok hr, bind_of_ok hr']
      exact hf a hnext
    | error e =>
      rw [bind_of_error hr, bind_of_error hr']
      exact ⟨rfl, hnext⟩

/-- What follows `here` may look at the cursor, as long as it sees no difference. -/
theorem uniform_here_bind {f : Cursor → Step β}
    (hf : ∀ ⦃cur cur'⦄, Alike cur cur' → SameOutcome (f cur cur) (f cur' cur')) :
    Uniform (here >>= f) := fun _ _ h => hf h

theorem uniform_fail (cause : ScanError.Cause) : Uniform (fail cause : Step α) := by
  intro cur cur' h
  exact ⟨by rw [fail, fail, h.ahead], h.decoder, rfl, h.position, h.ahead⟩

theorem uniform_advance : Uniform advance := by
  intro cur cur' h
  have hread := Decoder.read_of_alike h.decoder
  cases hd : cur.decoder.read with
  | mk result d =>
    cases hd' : cur'.decoder.read with
    | mk result' d' =>
      rw [hd, hd'] at hread
      obtain ⟨rfl, halike⟩ := hread
      cases result with
      | ok c =>
        simp only [advance_apply, hd, hd']
        exact ⟨rfl, halike, rfl, h.ahead, by rw [h.ahead]⟩
      | error e =>
        simp only [advance_apply, hd, hd']
        exact uniform_fail _ ⟨halike, h.held, h.position, h.ahead⟩

theorem uniform_peek : Uniform peek := by
  intro cur cur' h
  have hpeek := Decoder.peek_of_alike h.decoder
  cases hd : cur.decoder.peek with
  | mk result d =>
    cases hd' : cur'.decoder.peek with
    | mk result' d' =>
      rw [hd, hd'] at hpeek
      obtain ⟨rfl, halike⟩ := hpeek
      cases result with
      | ok c =>
        simp only [peek, hd, hd']
        exact ⟨rfl, halike, h.held, h.position, h.ahead⟩
      | error e =>
        simp only [peek, hd, hd']
        exact uniform_fail _ ⟨halike, h.held, h.position, h.ahead⟩

theorem uniform_takeWhile (p : Char → Bool) (taken : String) : Uniform (takeWhile p taken) := by
  intro cur cur' h
  -- The recursion is that of the first cursor; the second is alike at every turn of it.
  fun_induction takeWhile p taken cur generalizing cur' with
  | case1 taken cur hheld =>
    have hstop : ∀ c, cur'.held = some c → p c = false := by simp [← h.held, hheld]
    rw [takeWhile_of_stop hstop]
    exact ⟨rfl, h⟩
  | case2 taken cur c hheld hp next hadv ih =>
    have hsame := uniform_advance h
    rw [hadv] at hsame
    obtain ⟨next', hadv', hnext⟩ := hsame.exists_eq
    have hheld' : cur'.held = some c := h.held ▸ hheld
    rw [takeWhile_of_held hheld' hp, hadv']
    exact ih hnext
  | case3 taken cur c hheld hp e next hadv =>
    have hsame := uniform_advance h
    rw [hadv] at hsame
    obtain ⟨next', hadv', hnext⟩ := hsame.exists_eq
    have hheld' : cur'.held = some c := h.held ▸ hheld
    rw [takeWhile_of_held hheld' hp, hadv']
    exact ⟨rfl, hnext⟩
  | case4 taken cur c hheld hp =>
    have hstop : ∀ d, cur'.held = some d → p d = false := by simp [← h.held, hheld, hp]
    rw [takeWhile_of_stop hstop]
    exact ⟨rfl, h⟩

theorem uniform_run (p : Char → Bool) : Uniform (run p) := uniform_takeWhile p ""

theorem uniform_enter (primed : Bool) : Uniform (enter primed) := by
  cases primed with
  | true => exact uniform_pure ()
  | false => exact uniform_advance

/-! ### Tokens -/

theorem uniform_skipBlanks : Uniform skipBlanks :=
  uniform_bind (uniform_run isBlank) fun _ => uniform_pure ()

theorem uniform_spanFrom (first : Position) : Uniform (spanFrom first) := by
  intro cur cur' h
  rw [spanFrom_apply, spanFrom_apply]
  exact ⟨by rw [h.position], h⟩

theorem uniform_word (first : Position) : Uniform (word first) := by
  apply uniform_bind (uniform_run isWordChar)
  intro literal
  exact uniform_bind (uniform_spanFrom first) fun _ => uniform_pure _

theorem uniform_shape (digit : Char) : Uniform (shape digit) := by
  unfold shape
  split
  · apply uniform_bind uniform_peek
    intro peeked
    cases Numeral.afterZero peeked with
    | ok n => exact uniform_pure n
    | error letter => exact uniform_fail _
  · exact uniform_pure _

theorem uniform_digits (n : Numeral) : Uniform (digits n) := by
  cases n with
  | decimal => exact uniform_run isDecimalChar
  | based radix =>
    apply uniform_bind uniform_advance
    intro _
    apply uniform_bind uniform_advance
    intro _
    exact uniform_bind (uniform_run radix.accepts) fun _ => uniform_pure _

theorem uniform_numeral (digit : Char) (first : Position) : Uniform (numeral digit first) := by
  apply uniform_bind (uniform_shape digit)
  intro n
  apply uniform_bind (uniform_digits n)
  intro literal
  exact uniform_bind (uniform_spanFrom first) fun _ => uniform_pure _

theorem uniform_single (kind : Token.Kind) (c : Char) (first : Position) :
    Uniform (single kind c first) := uniform_bind uniform_advance fun _ => uniform_pure _

theorem uniform_tokenFrom (c : Char) (first : Position) : Uniform (tokenFrom c first) := by
  unfold tokenFrom
  cases Token.Kind.ofChar? c with
  | some kind => exact uniform_single kind c first
  | none =>
    by_cases hw : isWordChar c
    · simpa [hw] using uniform_word first
    by_cases hd : c.isDigit
    · simpa [hw, hd] using uniform_numeral c first
    · simpa [hw, hd] using uniform_single .unknown c first

theorem uniform_token : Uniform token := by
  apply uniform_bind uniform_skipBlanks
  intro _
  apply uniform_here_bind
  intro cur cur' h
  rw [h.held, h.position]
  cases cur'.held with
  | none => exact uniform_pure _ h
  | some c => exact uniform_tokenFrom c _ h

end Cursor

namespace Scanner

/-- The scanners have been used alike, and their cursors cannot be told apart. -/
structure Alike (s t : Scanner) : Prop where
  cursor : s.cursor.Alike t.cursor
  primed : s.primed = t.primed
  finished : s.finished = t.finished

variable {s t : Scanner}

theorem prime_of_alike (h : Alike s t) : s.prime.1 = t.prime.1 ∧ Alike s.prime.2 t.prime.2 := by
  obtain ⟨log, hs⟩ := prime_eq s
  obtain ⟨log', ht⟩ := prime_eq t
  have hsame := Cursor.uniform_enter s.primed h.cursor
  rw [hs, ht, ← h.primed]
  exact ⟨hsame.result, hsame.cursor, rfl, h.finished⟩

theorem nextToken_of_alike (h : Alike s t) :
    s.nextToken.1 = t.nextToken.1 ∧ Alike s.nextToken.2 t.nextToken.2 := by
  obtain ⟨log, hs⟩ := nextToken_eq s
  obtain ⟨log', ht⟩ := nextToken_eq t
  have huniform := Cursor.uniform_bind (Cursor.uniform_enter s.primed) fun _ =>
    Cursor.uniform_token
  have hsame := huniform h.cursor
  rw [hs, ht, ← h.primed]
  exact ⟨hsame.result, hsame.cursor, rfl, h.finished⟩

/-- Scanners that are alike reply alike and stay alike. -/
theorem call_of_alike (h : Alike s t) (c : Call) :
    (s.call c).1 = (t.call c).1 ∧ Alike (s.call c).2 (t.call c).2 := by
  cases c with
  | prime =>
    obtain ⟨hresult, h'⟩ := prime_of_alike h
    exact ⟨congrArg Reply.primed hresult, h'⟩
  | position => exact ⟨congrArg Reply.position h.cursor.position, h⟩
  | nextToken =>
    obtain ⟨hitem, h'⟩ := nextToken_of_alike h
    exact ⟨congrArg Reply.token hitem, h'⟩
  | next? =>
    cases hfin : s.finished with
    | true =>
      rw [call, call, next?_of_finished hfin, next?_of_finished (h.finished ▸ hfin)]
      exact ⟨rfl, h⟩
    | false =>
      obtain ⟨hitem, h'⟩ := nextToken_of_alike h
      rw [call, call, next?_of_unfinished hfin, next?_of_unfinished (h.finished ▸ hfin), hitem]
      exact ⟨rfl, h'.cursor, h'.primed, rfl⟩

theorem replies_of_alike (h : Alike s t) (calls : List Call) :
    s.replies calls = t.replies calls := by
  induction calls generalizing s t with
  | nil => rfl
  | cons c calls ih =>
    obtain ⟨hreply, h'⟩ := call_of_alike h c
    rw [replies_cons, replies_cons, hreply, ih h']

/-- **How a source is delivered cannot be observed.** Sources whose reads answer the same,
whatever deliveries their bytes come in and however often a read is interrupted, give the
same replies to any calls of a decoder and to any calls of a scanner. -/
theorem delivery_independent {s t : ByteStream} (h : s.answers = t.answers) :
    (∀ calls, (Decoder.ofStream s).replies calls = (Decoder.ofStream t).replies calls) ∧
      ∀ calls, (ofStream s).replies calls = (ofStream t).replies calls := by
  have hdecoder : Decoder.Alike (.ofStream s) (.ofStream t) := Decoder.alike_ofStream h
  have hscanner : Alike (ofStream s) (ofStream t) := ⟨⟨hdecoder, rfl, rfl, rfl⟩, rfl, rfl⟩
  exact ⟨Decoder.replies_of_alike hdecoder, replies_of_alike hscanner⟩

/-- A zero and a character of three bytes, cut behind the zero and inside the character, with
interrupted reads in between. -/
theorem delivery_independent_cut :
    let whole : ByteStream := [.bytes [0x30, 0xE2, 0x82, 0xAC], .fault (.ofKind .other) 1]
    let pieces : ByteStream := [.bytes [0x30], .fault (.ofKind .interrupted) 2,
      .bytes [0xE2, 0x82], .fault (.ofKind .other) 0, .fault (.ofKind .interrupted) 1,
      .bytes [], .bytes [0xAC], .fault (.ofKind .other) 1]
    whole.answers = pieces.answers ∧
      (∀ calls, (Decoder.ofStream whole).replies calls = (Decoder.ofStream pieces).replies calls) ∧
      ∀ calls, (ofStream whole).replies calls = (ofStream pieces).replies calls := by
  intro whole pieces
  have h : whole.answers = pieces.answers := by decide
  exact ⟨h, delivery_independent h⟩

end Scanner

end MonkeyTokens
