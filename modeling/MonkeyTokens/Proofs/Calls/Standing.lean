import MonkeyTokens.Proofs.Calls.Course

/-!
Where a scanner stands.

`Cursor.StandsAt` ties all the parts of a cursor to one number: how many characters of the
text are behind it. The character it holds, the position of that character, the position
ahead of it and what has been read from the source all follow, and the slot of the decoder
is empty. `Cursor.FailsAt` does the same for an error and the cursor that it leaves. The
main statement is `stands_in_text`: whatever a scanner has been asked for, it stands in the
text as long as no reply was an error, and an error tells where in the text it occurred.
-/

namespace MonkeyTokens

open ByteStream

theorem counts_place_take {text : List Char} (h : text.length < 2 ^ 32 - 1) (k : Nat) :
    (place (text.take k)).Counts (text.take k) := by
  apply counts_place
  rw [List.length_take]
  omega

namespace Cursor

/-- The cursor stands at the character of the text that has `i` before it, or, where there
is none, at the end of the input. -/
structure StandsAt (origin : Decoder) (text : List Char) (ending : Ending) (i : Nat)
    (cur : Cursor) : Prop where
  le_length : i ≤ text.length
  at_end : i = text.length → ending = .endOfInput
  held : cur.held = text[i]?
  slot : cur.decoder.slot = none
  /-- The character under the cursor is the last that has been read. -/
  decoder : cur.decoder = origin.afterReads (i + 1)
  position : cur.position.Counts (text.take i)
  ahead : cur.ahead.Counts (text.take (i + 1))

/-- What the character of the text that has `k` before it, or what comes in its place, does
to a scan that it ends. -/
inductive CauseAt (text : List Char) (ending : Ending) : Nat → ScanError.Cause → Prop where
  /-- The text is over, and the source or its bytes fail. -/
  | unreadable {e : ReadError} : ending = .failure e →
      CauseAt text ending text.length (.unreadable e)
  /-- A zero comes before a letter that names no radix. -/
  | unknownRadix {k : Nat} {letter : Char} : text[k]? = some '0' → text[k + 1]? = some letter →
      CauseAt text ending (k + 1) (.unknownRadix letter)

/-- An error is reported at the character that has `k` before it, and has left the cursor
where the last of these stands. -/
structure FailsAt (origin : Decoder) (text : List Char) (ending : Ending) (k : Nat)
    (e : ScanError) (cur : Cursor) : Prop where
  cause : CauseAt text ending k e.cause
  reported : e.position.Counts (text.take k)
  position : cur.position.Counts (text.take (k - 1))
  held : cur.held = none
  /-- All the characters before the error have been read, and one look beyond them. -/
  decoder : cur.decoder = (origin.afterReads k).peek.2

variable {origin : Decoder} {before cs text : List Char} {ending : Ending} {cur : Cursor}

theorem standsAt_of_faces (h : Faces origin before ending cs cur)
    (hlen : (before ++ cs).length < 2 ^ 32 - 1) :
    StandsAt origin (before ++ cs) ending before.length cur := by
  have hending : before.length = (before ++ cs).length → ending = .endOfInput := by
    intro hend
    obtain rfl : cs = [] := by simpa using hend
    cases h with
    | endOfInput _ hending => exact hending
  have hbehind := h.behind
  have hposition := counts_place_take hlen before.length
  have hahead := counts_place_take hlen (before.length + 1)
  rw [List.take_left' rfl, ← h.position_eq] at hposition
  rw [List.take_length_add_append, ← h.ahead_eq] at hahead
  exact {
    le_length := hbehind.le_length
    at_end := hending
    held := hbehind.held
    slot := h.slot_eq
    decoder := hbehind.decoder
    position := by rwa [List.take_left' rfl]
    ahead := by rwa [List.take_length_add_append] }

theorem failsAt_of_halted {k : Nat} {cause : ScanError.Cause} (hcause : CauseAt text ending k cause)
    (h : Halted origin (text.take k) cur) (hk : k ≤ text.length)
    (hlen : text.length < 2 ^ 32 - 1) :
    FailsAt origin text ending k ⟨cause, place (text.take k)⟩ cur := by
  have hshort : (text.take k).length = k := List.length_take_of_le hk
  have hposition : cur.position = place (text.take (k - 1)) := by
    rw [h.position, List.dropLast_eq_take, hshort, List.take_take,
      Nat.min_eq_left (Nat.sub_le ..)]
  exact {
    cause := hcause
    reported := counts_place_take hlen k
    position := hposition ▸ counts_place_take hlen (k - 1)
    held := h.held
    decoder := by rw [h.decoder, hshort] }

theorem exists_failsAt {e : ScanError} (h : Fails origin text ending e cur)
    (hlen : text.length < 2 ^ 32 - 1) : ∃ k, FailsAt origin text ending k e cur := by
  cases h with
  | unreadable hending hhalted =>
    have h := failsAt_of_halted (.unreadable hending) (k := text.length) (by rwa [List.take_length])
      (Nat.le_refl _) hlen
    rw [List.take_length] at h
    exact ⟨_, h⟩
  | @refused before rest letter _ htext hhalted =>
    have hsplit : text = before ++ ['0'] ++ letter :: rest := by rw [htext, List.append_cons]
    have htake : text.take (before.length + 1) = before ++ ['0'] := by
      rw [hsplit, List.take_left']
      simp
    have hcause : CauseAt text ending (before.length + 1) (.unknownRadix letter) := by
      constructor
      · simp [htext]
      · simp [htext]
    have h := failsAt_of_halted hcause (by rwa [htake]) (by simp [htext]) hlen
    rw [htake] at h
    exact ⟨_, h⟩

/-- Behind a token the cursor stands one column further than its last character. -/
theorem exists_standsAt_of_taken {t : Token} (h : Taken origin text ending (.ok t, cur))
    (ht : t.isEndOfFile = false) (hlen : text.length < 2 ^ 32 - 1) :
    ∃ i, t.span.last.Counts (text.take i) ∧ StandsAt origin text ending (i + 1) cur ∧
      cur.position.line = t.span.last.line ∧
      cur.position.column.toNat = t.span.last.column.toNat + 1 := by
  cases h with
  | endOfFile => cases ht
  | @token kind before literal rest _ _ hne hline htext hfaces =>
    subst htext
    have hshort : (before ++ literal).length < 2 ^ 32 - 1 := by
      rw [List.length_append] at hlen
      omega
    have hlast := counts_last_locate hshort kind
    have hstands := standsAt_of_faces hfaces hlen
    have hposition : cur.position.Counts (before ++ literal) :=
      hfaces.position_eq ▸ counts_place hshort
    -- The last character of the literal is the one that the cursor has moved on from.
    obtain ⟨init, c, rfl⟩ := (List.eq_nil_or_concat literal).resolve_left hne
    rw [List.concat_eq_append] at hlast hstands hposition hline ⊢
    rw [List.dropLast_concat] at hlast
    rw [← List.append_assoc] at hstands hposition ⊢
    have hc : ∀ d ∈ [c], d ≠ '\n' := List.forall_mem_singleton.mpr (hline c (by simp))
    obtain ⟨hsame, hnext⟩ := hlast.along hposition hc
    rw [List.length_append, List.length_singleton] at hstands
    refine ⟨(before ++ init).length, ?_, hstands, hsame, hnext⟩
    rwa [List.append_assoc, List.take_left' rfl]

end Cursor

namespace Scanner

open Cursor

variable {source : ByteStream} {text : List Char} {ending : Ending} {s : Scanner}

/-- A scanner that is under way stays so as long as no reply is an error. -/
theorem underway_of_replies (hsupply : Supplies source.answers text ending)
    (h : Underway source text ending s) (calls : List Call)
    (hok : ∀ r ∈ s.replies calls, r.error? = none) :
    Underway source text ending (s.after calls) := by
  induction calls generalizing s with
  | nil => exact h
  | cons c calls ih =>
    obtain ⟨hreply, hreplies⟩ := List.forall_mem_cons.mp hok
    have hcall := call_of_underway hsupply h c
    rw [after_cons]
    generalize s.call c = r at hcall hreply hreplies
    cases hcall with
    | goesOn _ h' _ => exact ih h' hreplies
    | fails herror _ _ =>
      rw [herror] at hreply
      cases hreply

/-- **A scanner stands in the text of its source.** Of a source that supplies fewer
characters than a word counts, and whatever is called: a scanner that has been primed and
has replied no error stands at a character of the text or at its end. Behind a token it
stands on the line of the last character of the token, one column further. An error is
reported at the character behind the one on which it has left the scanner, or both are at
the start of the text. -/
theorem stands_in_text
    (hreads : (Decoder.ofStream source).reads (text.length + 1) =
      text.map (fun c => .ok (some c)) ++ [ending.result])
    (hlen : text.length < 2 ^ 32 - 1) (calls : List Call) :
    let origin := Decoder.ofStream source
    let s := (ofStream source).after calls
    ((∀ r ∈ (ofStream source).replies calls, r.error? = none) → s.primed = true →
        ∃ i, s.cursor.StandsAt origin text ending i) ∧
      (∀ c t, (s.call c).1.item? = some (.ok t) → t.isEndOfFile = false →
        ∃ i, t.span.last.Counts (text.take i) ∧
          (s.call c).2.cursor.StandsAt origin text ending (i + 1) ∧
          (s.call c).2.position.line = t.span.last.line ∧
          (s.call c).2.position.column.toNat = t.span.last.column.toNat + 1) ∧
      ∀ c e, (s.call c).1.error? = some e →
        ∃ k, (s.call c).2.cursor.FailsAt origin text ending k e := by
  intro origin s
  have hsupply : Supplies source.answers text ending :=
    (Decoder.supplies_iff_reads (d := .ofStream source) rfl).mpr hreads
  have hcourse : Underway source text ending s ∨ Spent s := underway_or_spent hsupply calls
  refine ⟨?_, ?_, ?_⟩
  · intro hok hprimed
    have h := underway_of_replies hsupply (underway_ofStream source text ending) calls hok
    obtain ⟨before, cs, hfaces, rfl⟩ := h.exists_faces hprimed
    exact ⟨_, standsAt_of_faces hfaces hlen⟩
  · intro c t hitem ht
    rcases hcourse with h | h
    · have htaken := (call_of_underway hsupply h c).taken_of_item?_ok hitem
      exact exists_standsAt_of_taken htaken ht hlen
    · rw [(call_of_spent h c).1.isEndOfFile_eq hitem] at ht
      cases ht
  · intro c e herror
    rcases hcourse with h | h
    · exact exists_failsAt ((call_of_underway hsupply h c).fails_of_error? herror) hlen
    · rw [(call_of_spent h c).1.error?_eq] at herror
      cases herror

/-- A token of three bytes on a second line, and then a letter that names no radix before
the source fails. -/
theorem stands_in_text_two_lines :
    let source : ByteStream := [.bytes [0x61, 0x0A, 0xE2], .fault (.ofKind .interrupted) 1,
      .bytes [0x82, 0xAC, 0x30, 0x71], .fault (.ofKind .other) 1]
    let origin := Decoder.ofStream source
    let text := ['a', '\n', '€', '0', 'q']
    let ending : Ending := .failure (.fault (.ofKind .other))
    let s := (ofStream source).after [.next?, .position, .nextToken]
    origin.reads (text.length + 1) = text.map (fun c => .ok (some c)) ++ [ending.result] ∧
      text.length < 2 ^ 32 - 1 ∧
      (∃ i, s.cursor.StandsAt origin text ending i) ∧
      ∃ k, (s.call .next?).2.cursor.FailsAt origin text ending k ⟨.unknownRadix 'q', ⟨2, 3⟩⟩ := by
  intro source origin text ending s
  have hreads : origin.reads (text.length + 1) =
      text.map (fun c => .ok (some c)) ++ [ending.result] := rfl
  have hok : ∀ r ∈ (ofStream source).replies [.next?, .position, .nextToken],
      r.error? = none := by decide +kernel
  have hprimed : s.primed = true := by decide +kernel
  have herror : (s.call .next?).1.error? = some ⟨.unknownRadix 'q', ⟨2, 3⟩⟩ := by decide +kernel
  obtain ⟨hstands, -, hfails⟩ :=
    stands_in_text hreads (by decide) [.next?, .position, .nextToken]
  exact ⟨hreads, by decide, hstands hok hprimed, hfails _ _ herror⟩

end Scanner

end MonkeyTokens
