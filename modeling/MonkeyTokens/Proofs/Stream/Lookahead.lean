import MonkeyTokens.Proofs.Stream.Equivalence

/-!
Looks ahead leave no trace.

A decoder may be asked for looks at the next character, any number of them, between its
reads. A look that succeeds is made good by the next read, which returns what was seen and
takes nothing more from the source; a look that fails is itself as good as a read. So a
decoder is at any time the one that as many reads alone lead to, or that one after a single
look (`Level`), and the replies that took something are those of the reads alone. The
main statement is `looks_leave_no_trace`.
-/

namespace MonkeyTokens.Decoder

/-- The decoder after calls made one after the other. -/
def after : List Call → Decoder → Decoder
  | [], d => d
  | c :: calls, d => after calls (d.call c).2

theorem after_append (calls calls' : List Call) (d : Decoder) :
    d.after (calls ++ calls') = (d.after calls).after calls' := by
  induction calls generalizing d with
  | nil => rfl
  | cons c calls ih => exact ih (d.call c).2

theorem replies_append (calls calls' : List Call) (d : Decoder) :
    d.replies (calls ++ calls') = d.replies calls ++ (d.after calls).replies calls' := by
  induction calls generalizing d with
  | nil => rfl
  | cons c calls ih => exact congrArg _ (ih (d.call c).2)

/-- The replies that are left of calls with their replies when those of the looks that
succeeded are struck out. -/
def kept (exchanges : List (Call × Except ReadError (Option Char))) :
    List (Except ReadError (Option Char)) :=
  exchanges.filterMap fun
    | (.peek, .ok _) => none
    | (_, reply) => some reply

/-! ### One look -/

section

variable {d d' : Decoder} {seen : Option Char}

theorem read_of_slot (h : d.slot = some seen) : d.read = (.ok seen, ⟨d.stream, none⟩) := by
  simp only [read, h]

theorem peek_of_slot (h : d.slot = some seen) : d.peek = (.ok seen, d) := by
  simp only [peek, h]

/-- A look that succeeds takes from the source what a read takes, and remembers it. -/
theorem read_of_peek_ok (h : d.peek = (.ok seen, d')) :
    d'.slot = some seen ∧ d.read = (.ok seen, ⟨d'.stream, none⟩) := by
  cases hslot : d.slot with
  | some seen' =>
    rw [peek_of_slot hslot] at h
    obtain ⟨hseen, rfl⟩ := Prod.mk.inj h
    cases hseen
    exact ⟨hslot, read_of_slot hslot⟩
  | none =>
    cases hnext : d.stream.nextChar with
    | mk result s =>
      cases result with
      | error e =>
        rw [peek_of_read_error (read_of_nextChar hslot hnext)] at h
        cases h
      | ok seen' =>
        rw [peek_of_nextChar hslot hnext] at h
        obtain ⟨hseen, rfl⟩ := Prod.mk.inj h
        cases hseen
        exact ⟨rfl, read_of_nextChar hslot hnext⟩

/-- A look that fails is as good as a read. -/
theorem read_of_peek_error {e : ReadError} (h : d.peek = (.error e, d')) :
    d.read = (.error e, d') ∧ d'.slot = none := by
  cases hread : d.read with
  | mk result d₁ =>
    cases hslot : d.slot with
    | some seen =>
      rw [peek_of_slot hslot] at h
      cases h
    | none =>
      have hempty := (decodes_of_read hslot hread).2
      cases result with
      | error e' =>
        rw [peek_of_read_error hread] at h
        cases h
        exact ⟨rfl, hempty⟩
      | ok seen =>
        rw [read_of_nextChar hslot rfl] at hread
        obtain ⟨hresult, -⟩ := Prod.mk.inj hread
        rw [peek_of_nextChar hslot (Prod.ext hresult rfl)] at h
        cases h

end

/-! ### Any calls -/

/-- The decoder `d` has taken what `e` has: it is `e`, or `e` after a look that succeeded. -/
inductive Level (e : Decoder) : Decoder → Prop where
  | same : Level e e
  | looked {d : Decoder} {seen : Option Char} : e.peek = (.ok seen, d) → Level e d

section

variable {d e : Decoder}

theorem Level.read_eq (h : Level e d) : d.read = e.read := by
  cases h with
  | same => rfl
  | looked hpeek =>
    obtain ⟨hslot, hread⟩ := read_of_peek_ok hpeek
    rw [hread, read_of_slot hslot]

/-- Decoders that are level are so after a look that succeeds. -/
theorem Level.peek_ok {d' : Decoder} {seen : Option Char} (h : Level e d)
    (hpeek : d.peek = (.ok seen, d')) : Level e d' := by
  cases h with
  | same => exact .looked hpeek
  | looked hlooked =>
    obtain ⟨hslot, -⟩ := read_of_peek_ok hlooked
    rw [peek_of_slot hslot] at hpeek
    obtain ⟨-, rfl⟩ := Prod.mk.inj hpeek
    exact .looked hlooked

/-- Where a decoder fails to look, the one that it is level with fails to read. -/
theorem Level.peek_error {d' : Decoder} {err : ReadError} (h : Level e d)
    (hpeek : d.peek = (.error err, d')) : e.read = (.error err, d') := by
  rw [← h.read_eq]
  exact (read_of_peek_error hpeek).1

/-- What is kept of any calls is what as many reads return, and they lead to decoders that
are level. -/
theorem kept_of_level (h : Level e d) (calls : List Call) :
    let results := kept (calls.zip (d.replies calls))
    results = e.reads results.length ∧ Level (e.afterReads results.length) (d.after calls) := by
  -- The decoder `e` moves only where the reply to `d` is kept, so that the two stay level.
  induction calls generalizing d e with
  | nil => exact ⟨rfl, h⟩
  | cons c calls ih =>
    have htaken : ∀ reply, d.call c = (reply, e.read.2) → e.read.1 = reply →
        let results := reply :: kept (calls.zip (e.read.2.replies calls))
        results = e.reads results.length ∧
          Level (e.afterReads results.length) (d.after (c :: calls)) := by
      intro reply hcall hreply
      obtain ⟨hresults, hlevel⟩ := ih (e := e.read.2) .same
      rw [after, hcall]
      refine ⟨?_, hlevel⟩
      rw [List.length_cons, reads, hreply]
      exact congrArg _ hresults
    cases c with
    | read =>
      have hcall : d.call .read = e.read := h.read_eq
      have := htaken _ hcall rfl
      rwa [replies, hcall]
    | peek =>
      cases hpeek : d.peek with
      | mk reply d' =>
        have hcall : d.call .peek = (reply, d') := hpeek
        cases reply with
        | ok seen =>
          have := ih (h.peek_ok hpeek)
          rwa [replies, after, hcall]
        | error err =>
          have hread := h.peek_error hpeek
          have := htaken (.error err) (by rw [hcall, hread]) (by rw [hread])
          rw [replies, hcall]
          rwa [hread] at this

/-- Once something has been seen, looks show it again and change nothing. -/
theorem looks_of_slot {seen : Option Char} (h : d.slot = some seen) (n : Nat) :
    d.after (List.replicate n .peek) = d ∧
      d.replies (List.replicate n .peek) = List.replicate n (.ok seen) := by
  induction n with
  | zero => exact ⟨rfl, rfl⟩
  | succ n ih =>
    have hcall : d.call .peek = (.ok seen, d) := peek_of_slot h
    rw [List.replicate_succ, List.replicate_succ, after, replies, hcall]
    exact ⟨ih.1, congrArg _ ih.2⟩

/-- From a look that succeeds to the next read, all replies are the same, and only the first
look takes something from the source. -/
theorem looks_until_read {d' : Decoder} {seen : Option Char} (h : d.peek = (.ok seen, d'))
    (n : Nat) : let looks := Call.peek :: List.replicate n .peek
    d.replies (looks ++ [.read]) = List.replicate (n + 2) (.ok seen) ∧ d.after looks = d' ∧
      d.after (looks ++ [.read]) = d.read.2 ∧ d.read.2.stream = d'.stream := by
  intro looks
  obtain ⟨hslot, hread⟩ := read_of_peek_ok h
  obtain ⟨hafter, hreplies⟩ := looks_of_slot hslot n
  have hcall : d.call .peek = (.ok seen, d') := h
  have hcall' : d'.call .read = (.ok seen, ⟨d'.stream, none⟩) := read_of_slot hslot
  have hlooks : d.after looks = d' := by rw [after, hcall, hafter]
  refine ⟨?_, hlooks, ?_, by rw [hread]⟩
  · rw [replies_append, hlooks, replies, hcall, hreplies, replies, replies, hcall',
      List.replicate_succ, List.replicate_succ']
    rfl
  · rw [after_append, hlooks, after, after, hcall', hread]

end

/-- **Looks leave no trace.** Of the replies to any calls, those of the reads and of the looks
that failed are what as many reads alone return. A look that succeeds shows what the next read
returns, however many looks are taken until then, and neither these nor the read take anything
more from the source. A look that fails leaves the decoder as a failed read does, with nothing
remembered. -/
theorem looks_leave_no_trace (d : Decoder) :
    (∀ calls, let results := kept (calls.zip (d.replies calls))
      results = d.reads results.length ∧ Level (d.afterReads results.length) (d.after calls)) ∧
    (∀ before n later seen, (d.after before).peek.1 = .ok seen →
      let looks := Call.peek :: List.replicate n .peek
      d.replies (before ++ looks ++ .read :: later) =
        d.replies before ++ List.replicate (n + 2) (.ok seen) ++
          (d.after (before ++ [.read])).replies later ∧
      d.after (before ++ looks) = d.after (before ++ [.peek]) ∧
      (d.after (before ++ looks ++ [.read])).stream = (d.after (before ++ [.peek])).stream) ∧
    (∀ before e d', (d.after before).peek = (.error e, d') →
      (d.after before).read = (.error e, d') ∧ d'.slot = none) := by
  refine ⟨kept_of_level .same, ?_, fun _ _ _ => read_of_peek_error⟩
  intro before n later seen hseen looks
  obtain ⟨d', hpeek⟩ : ∃ d', (d.after before).peek = (.ok seen, d') := ⟨_, Prod.ext hseen rfl⟩
  obtain ⟨hreplies, hlooks, hread, hstream⟩ := looks_until_read hpeek n
  have hpeeked : d.after (before ++ [.peek]) = d' := by
    rw [after_append, after, after, call, hpeek]
  have hread' : d.after (before ++ looks ++ [.read]) = d.after (before ++ [.read]) := by
    rw [List.append_assoc, after_append, hread, after_append]
    rfl
  refine ⟨?_, ?_, ?_⟩
  · have hsplit : before ++ looks ++ .read :: later = before ++ (looks ++ [.read]) ++ later := by
      simp
    rw [hsplit, replies_append, replies_append, hreplies, ← List.append_assoc, hread']
  · rw [after_append, hlooks, hpeeked]
  · rw [List.append_assoc, after_append, hread, hstream, hpeeked]

/-- Two looks at a letter before it is read, looks at the end of the input that is reported
behind it, and a look that fails inside a sequence. -/
theorem looks_leave_no_trace_resumed :
    let d := ofStream [.bytes [0x61], .endOfInput, .bytes [0xE2, 0x82],
      .fault (.ofKind .other) 1, .bytes [0x62]]
    (d.after []).peek.1 = .ok (some 'a') ∧
      d.replies ([] ++ [.peek, .peek] ++ .read :: [.peek, .read, .peek, .peek, .read]) =
        [] ++ [.ok (some 'a'), .ok (some 'a'), .ok (some 'a')] ++
          (d.after ([] ++ [.read])).replies [.peek, .read, .peek, .peek, .read] ∧
      (d.after [.read, .read]).peek = (.error (.fault (.ofKind .other)),
        ⟨[.fault (.ofKind .other) 0, .bytes [0x62]], none⟩) ∧
      (d.after [.read, .read]).read = (.error (.fault (.ofKind .other)),
        ⟨[.fault (.ofKind .other) 0, .bytes [0x62]], none⟩) := by
  intro d
  have hseen : (d.after []).peek.1 = .ok (some 'a') := by decide +kernel
  have hfails : (d.after [.read, .read]).peek = (.error (.fault (.ofKind .other)),
      ⟨[.fault (.ofKind .other) 0, .bytes [0x62]], none⟩) := by decide +kernel
  obtain ⟨-, hlooks, hfailed⟩ := looks_leave_no_trace d
  exact ⟨hseen, (hlooks [] 1 _ _ hseen).1, hfails, (hfailed _ _ _ hfails).1⟩

end MonkeyTokens.Decoder
