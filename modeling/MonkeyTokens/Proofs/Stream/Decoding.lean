import MonkeyTokens.Proofs.Stream.Answers
import MonkeyTokens.Proofs.Stream.WellFormed

/-!
Decoding one character, in terms of the answers of a source.

`ByteStream.Decodes` says what a decoding finds at the head of the answers and what it
leaves: a well-formed sequence, the end of the input, a fault, or bytes that are no
character. It names every case once and follows no code. `nextChar_of_decodes` and
`decodes_nextChar` are the two directions of its agreement with
`ByteStream.nextChar`; with them no other proof opens `nextChar` or `fetch`.
-/

namespace MonkeyTokens

/-- The bytes of a sequence that is shorter than its lead announces. -/
inductive Utf8.Begun : List UInt8 → Prop where
  | mk {a : UInt8} {n : Nat} {more : List UInt8} : Announces a n → more.length < n →
      Begun (a :: more)

namespace ByteStream

open Utf8

/-- Decoding a character from the first of the answers returns `result` and leaves the
answers `rest`. -/
inductive Decodes : List Answer → Except ReadError (Option Char) → List Answer → Prop where
  | character {c : Char} {rest : List Answer} :
      Decodes ((String.utf8EncodeChar c).map .byte ++ rest) (.ok (some c)) rest
  | endOfInput {as rest : List Answer} : Ends as rest → Decodes as (.ok none) rest
  | fault {f : Fault} {rest : List Answer} : Decodes (.fault f :: rest) (.error (.fault f)) rest
  /-- The source fails in the middle of a sequence, whose bytes are gone. -/
  | faultInside {bs : List UInt8} {f : Fault} {rest : List Answer} : Begun bs →
      Decodes (bs.map .byte ++ .fault f :: rest) (.error (.fault f)) rest
  /-- A byte that no sequence begins with. -/
  | lead {a : UInt8} {rest : List Answer} : (∀ n, ¬ Announces a n) →
      Decodes (.byte a :: rest) (.error (.malformed [a])) rest
  /-- The input ends in the middle of a sequence. -/
  | truncated {bs : List UInt8} {as rest : List Answer} : Begun bs → Ends as rest →
      Decodes (bs.map .byte ++ as) (.error (.malformed bs)) rest
  /-- All the bytes that the lead announces are there, but they are no character. -/
  | sequence {a : UInt8} {more : List UInt8} {rest : List Answer} : Announces a more.length →
      ¬ WellFormed (a :: more) →
      Decodes ((a :: more).map .byte ++ rest) (.error (.malformed (a :: more))) rest

/-! ### From the answers to the decoder -/

/-- Fetching takes the bytes at the head of the answers one at a time. -/
theorem fetch_of_answers {bs : List UInt8} {s : ByteStream} {rest : List Answer}
    (h : s.answers = bs.map .byte ++ rest) :
    ∃ s', s'.answers = rest ∧
      ∀ n seen, fetch (bs.length + n) seen s = fetch n (seen ++ bs) s' := by
  induction bs generalizing s with
  | nil => exact ⟨s, by simpa using h, by simp⟩
  | cons b bs ih =>
    obtain ⟨s₁, hnext, hs₁⟩ := next_of_answers_cons (by simpa using h)
    obtain ⟨s', hs', hfetch⟩ := ih hs₁
    refine ⟨s', hs', ?_⟩
    intro n seen
    rw [List.length_cons, Nat.add_right_comm, fetch, hnext]
    simp [hfetch]

/-- Fetching stops at a fault. -/
theorem fetch_of_fault {n : Nat} {f : Fault} {s : ByteStream} {rest : List Answer}
    (hn : n ≠ 0) (h : s.answers = .fault f :: rest) (seen : List UInt8) :
    ∃ s', fetch n seen s = (.error (.fault f), s') ∧ s'.answers = rest := by
  obtain ⟨m, rfl⟩ := Nat.exists_eq_succ_of_ne_zero hn
  obtain ⟨s', hnext, hs'⟩ := next_of_answers_cons h
  exact ⟨s', by rw [fetch, hnext], hs'⟩

/-- Fetching stops at the end of the input. -/
theorem fetch_of_ends {n : Nat} {s : ByteStream} {rest : List Answer} (hn : n ≠ 0)
    (h : Ends s.answers rest) (seen : List UInt8) :
    ∃ s', fetch n seen s = (.error (.malformed seen), s') ∧ s'.answers = rest := by
  obtain ⟨m, rfl⟩ := Nat.exists_eq_succ_of_ne_zero hn
  obtain ⟨s', hnext, hs'⟩ := next_of_ends h
  exact ⟨s', by rw [fetch, hnext], hs'⟩

theorem nextChar_of_fetch_error {a : UInt8} {n : Nat} {e : ReadError} {s s₁ s' : ByteStream}
    (hnext : s.next = (.byte a, s₁)) (ha : Announces a n)
    (hfetch : fetch n [a] s₁ = (.error e, s')) : s.nextChar = (.error e, s') := by
  simp only [nextChar, hnext, followers?_eq_some_iff.mpr ha, hfetch]

/-- A sequence that breaks off is reported as fetching reports it. -/
theorem nextChar_of_begun {bs : List UInt8} {s : ByteStream} {as : List Answer}
    (hbs : Begun bs) (h : s.answers = bs.map .byte ++ as) :
    ∃ n s', n ≠ 0 ∧ s'.answers = as ∧
      ∀ e s'', fetch n bs s' = (.error e, s'') → s.nextChar = (.error e, s'') := by
  cases hbs with
  | @mk a n more ha hlt =>
    obtain ⟨s₁, hnext, hs₁⟩ := next_of_answers_cons (by simpa using h)
    obtain ⟨s', hs', hfetch⟩ := fetch_of_answers hs₁
    refine ⟨n - more.length, s', by omega, hs', ?_⟩
    intro e s'' he
    have hall := hfetch (n - more.length) [a]
    rw [Nat.add_sub_cancel' (Nat.le_of_lt hlt)] at hall
    exact nextChar_of_fetch_error hnext ha (hall.trans he)

/-- A sequence of which all the bytes are there is judged as a whole. -/
theorem nextChar_of_sequence {a : UInt8} {more : List UInt8} {s : ByteStream}
    {rest : List Answer} (ha : Announces a more.length)
    (h : s.answers = (a :: more).map .byte ++ rest) :
    ∃ s', s'.answers = rest ∧
      (∀ c, decode? (a :: more) = some c → s.nextChar = (.ok (some c), s')) ∧
        (decode? (a :: more) = none → s.nextChar = (.error (.malformed (a :: more)), s')) := by
  obtain ⟨s₁, hnext, hs₁⟩ := next_of_answers_cons (by simpa using h)
  obtain ⟨s', hs', hfetch⟩ := fetch_of_answers hs₁
  have hall : fetch more.length [a] s₁ = (.ok (a :: more), s') := hfetch 0 [a]
  refine ⟨s', hs', ?_, ?_⟩
  · intro c hc
    simp only [nextChar, hnext, followers?_eq_some_iff.mpr ha, hall, hc]
  · intro hnone
    simp only [nextChar, hnext, followers?_eq_some_iff.mpr ha, hall, hnone]

theorem nextChar_of_decodes {s : ByteStream} {result : Except ReadError (Option Char)}
    {rest : List Answer} (h : Decodes s.answers result rest) :
    ∃ s', s.nextChar = (result, s') ∧ s'.answers = rest := by
  generalize hs : s.answers = as at h
  cases h with
  | @character c rest =>
    obtain ⟨a, more, hc, ha⟩ := (wellFormed_encodeChar c).announces
    rw [hc] at hs
    obtain ⟨s', hs', hsome, -⟩ := nextChar_of_sequence ha hs
    exact ⟨s', hsome c (by rw [← hc, decode?_encodeChar]), hs'⟩
  | endOfInput hends =>
    obtain ⟨s', hnext, hs'⟩ := next_of_ends (hs ▸ hends)
    exact ⟨s', by simp only [nextChar, hnext], hs'⟩
  | fault =>
    obtain ⟨s', hnext, hs'⟩ := next_of_answers_cons hs
    exact ⟨s', by simp only [nextChar, hnext], hs'⟩
  | @faultInside bs f rest hbs =>
    obtain ⟨n, s₁, hn, hs₁, hresult⟩ := nextChar_of_begun hbs hs
    obtain ⟨s', hfetch, hs'⟩ := fetch_of_fault hn hs₁ bs
    exact ⟨s', hresult _ _ hfetch, hs'⟩
  | lead ha =>
    obtain ⟨s', hnext, hs'⟩ := next_of_answers_cons hs
    exact ⟨s', by simp only [nextChar, hnext, followers?_eq_none_iff.mpr ha], hs'⟩
  | @truncated bs as rest hbs hends =>
    obtain ⟨n, s₁, hn, hs₁, hresult⟩ := nextChar_of_begun hbs hs
    obtain ⟨s', hfetch, hs'⟩ := fetch_of_ends hn (hs₁ ▸ hends) bs
    exact ⟨s', hresult _ _ hfetch, hs'⟩
  | @sequence a more rest ha hbad =>
    obtain ⟨s', hs', -, hnone⟩ := nextChar_of_sequence ha hs
    refine ⟨s', hnone ?_, hs'⟩
    rw [Option.eq_none_iff_forall_ne_some]
    intro c hc
    exact hbad (wellFormed_iff.mpr ⟨c, (decode?_eq_some_iff ha).mp hc⟩)

/-! ### From the decoder to the answers -/

/-- Of any answers, at most `n` bytes at their head: all `n`, or as many as there are
before the input ends or fails. -/
theorem exists_head_bytes (n : Nat) (as : List Answer) :
    ∃ (bs : List UInt8) (rest : List Answer), as = bs.map .byte ++ rest ∧
      (bs.length = n ∨ bs.length < n ∧
        ((∃ rest', Ends rest rest') ∨ ∃ f rest', rest = .fault f :: rest')) := by
  induction n generalizing as with
  | zero => exact ⟨[], as, rfl, .inl rfl⟩
  | succ n ih =>
    cases as with
    | nil => exact ⟨[], [], rfl, .inr ⟨Nat.succ_pos n, .inl ⟨[], .usedUp⟩⟩⟩
    | cons a as =>
      cases a with
      | byte b =>
        obtain ⟨bs, rest, rfl, hlen⟩ := ih as
        exact ⟨b :: bs, rest, rfl, by simpa using hlen⟩
      | fault f => exact ⟨[], _, rfl, .inr ⟨Nat.succ_pos n, .inr ⟨f, as, rfl⟩⟩⟩
      | endOfInput => exact ⟨[], _, rfl, .inr ⟨Nat.succ_pos n, .inl ⟨as, .reported⟩⟩⟩

/-- Something is decoded from any answers. -/
theorem exists_decodes (as : List Answer) : ∃ result rest, Decodes as result rest := by
  cases as with
  | nil => exact ⟨_, _, .endOfInput .usedUp⟩
  | cons a as =>
    cases a with
    | endOfInput => exact ⟨_, _, .endOfInput .reported⟩
    | fault f => exact ⟨_, _, .fault⟩
    | byte a =>
      by_cases hlead : ∃ n, Announces a n
      · obtain ⟨n, ha⟩ := hlead
        obtain ⟨more, rest, rfl, rfl | ⟨hlt, ⟨rest', hends⟩ | ⟨f, rest', rfl⟩⟩⟩ :=
          exists_head_bytes n as
        · by_cases hc : WellFormed (a :: more)
          · obtain ⟨c, hc⟩ := wellFormed_iff.mp hc
            have hsplit : Answer.byte a :: (more.map .byte ++ rest) =
                (String.utf8EncodeChar c).map .byte ++ rest := by
              rw [hc]
              rfl
            refine ⟨.ok (some c), rest, ?_⟩
            rw [hsplit]
            exact .character
          · exact ⟨_, _, .sequence ha hc⟩
        · exact ⟨_, _, .truncated (.mk ha hlt) hends⟩
        · exact ⟨_, _, .faultInside (.mk ha hlt)⟩
      · push Not at hlead
        exact ⟨_, _, .lead hlead⟩

theorem decodes_nextChar (s : ByteStream) :
    Decodes s.answers s.nextChar.1 s.nextChar.2.answers := by
  obtain ⟨result, rest, h⟩ := exists_decodes s.answers
  obtain ⟨s', hnext, hs'⟩ := nextChar_of_decodes h
  rw [hnext, hs']
  exact h

end ByteStream

end MonkeyTokens
