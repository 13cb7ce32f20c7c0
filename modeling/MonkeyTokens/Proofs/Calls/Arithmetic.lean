import MonkeyTokens.Proofs.Calls.Standing
import MonkeyTokens.Proofs.Lexing.Checked

/-!
The arithmetic of a scan stays in range.

The calls of a scanner can be made with checked arithmetic (`Counting.checking`), and one of
them fails with `CheckedError.outOfRange` where a line, a column or the end of a run would
leave its word. A scanner replies to every call that may come as it does without the checks, if
it can read its first character and, from there, a token (`Scanner.Fits`). Whatever a scanner is
asked for, this is so of it as long as its source supplies fewer characters than a word counts.
Where a reply names a position, this is the place of a character of the text or of its end. The
main statement is `arithmetic_in_range`.
-/

namespace MonkeyTokens

open ByteStream Lexing

/-- The line and the column are counted from one. -/
structure Position.FromOne (p : Position) : Prop where
  line : 1 ≤ p.line.toNat
  column : 1 ≤ p.column.toNat

/-- The span lies within a line, and its positions are counted from one. -/
structure Span.InLine (s : Span) : Prop where
  first : s.first.FromOne
  last : s.last.FromOne
  line : s.first.line = s.last.line
  column : s.first.column ≤ s.last.column

theorem Position.Counts.fromOne {p : Position} {a : List Char} (h : p.Counts a) : p.FromOne where
  line := h.line ▸ Nat.le_add_right 1 _
  column := h.column ▸ Nat.le_add_right 1 _

theorem Position.FromOne.point {p : Position} (h : p.FromOne) : (Span.point p).InLine :=
  ⟨h, h, rfl, UInt32.le_refl _⟩

theorem inLine_locate {literal before : List Char} (hline : ∀ c ∈ literal, c ≠ '\n')
    (hlen : (before ++ literal).length < 2 ^ 32 - 1) (kind : Token.Kind) :
    (locate kind literal before).span.InLine := by
  have hshort : before.length < 2 ^ 32 - 1 := by
    rw [List.length_append] at hlen
    omega
  obtain ⟨hsame, hcolumn⟩ := along_locate hline hlen kind
  exact {
    first := (counts_first_locate hshort kind literal).fromOne
    last := (counts_last_locate hlen kind).fromOne
    line := hsame.symm
    column := by
      rw [UInt32.le_iff_toNat_le, hcolumn]
      exact Nat.le_add_right _ _ }

namespace Scanner

/-! ### Calls with checked arithmetic -/

/-- A reply of the scan, for a scan that may fail with other things. -/
def Reply.map {ε ε' : Type} (f : ε → ε') : Reply ε → Reply ε'
  | .primed result => .primed (result.mapError f)
  | .position p => .position p
  | .token item => .token (item.mapError f)
  | .next item => .next (item.map (Except.mapError f))

section

variable {s : Scanner}

/-- The scanner can read its first character and then a token with checked arithmetic. -/
structure Fits (s : Scanner) : Prop where
  first : s.primed = false → Cursor.Agrees Cursor.advance Cursor.advance s.cursor
  token : ∀ s', s.prime = (.ok (), s') → Cursor.Agrees Cursor.token Cursor.token s'.cursor

theorem perform_of_agrees {α : Type} {x : Cursor.StepIn CheckedError α} {y : Cursor.Step α}
    (h : Cursor.Agrees x y s.cursor) : s.perform x = checked (s.perform y) := by
  unfold Cursor.Agrees at h
  unfold perform
  rw [h]
  rcases y s.cursor with ⟨e | a, cur⟩ <;> rfl

theorem Fits.prime_eq (h : Fits s) : s.prime = checked s.prime := by
  unfold prime
  cases hprimed : s.primed with
  | true => rfl
  | false => exact perform_of_agrees (h.first hprimed)

theorem Fits.nextToken_eq (h : Fits s) : s.nextToken = checked s.nextToken := by
  unfold nextToken
  rw [h.prime_eq]
  cases hprime : s.prime with
  | mk result s' =>
    cases result with
    | error e => rfl
    | ok =>
      have htoken := perform_of_agrees (h.token s' hprime)
      simp only [checked, Except.mapError, htoken]
      rcases s'.perform Cursor.token with ⟨e | t, s''⟩ <;> rfl

theorem Fits.next?_eq (h : Fits s) :
    s.next? = (s.next?.1.map (Except.mapError CheckedError.scan), s.next?.2) := by
  unfold next?
  rw [h.nextToken_eq]
  split
  · rfl
  · rcases s.nextToken with ⟨e | t, s'⟩ <;> rfl

/-- A scanner that fits replies to every call as it does where words wrap around. -/
theorem Fits.call_eq (h : Fits s) (c : Call) :
    s.call c = ((s.call c).1.map CheckedError.scan, (s.call c).2) := by
  cases c with
  | prime => rw [call, h.prime_eq]; rfl
  | position => rfl
  | nextToken => rw [call, h.nextToken_eq]; rfl
  | next? => rw [call, h.next?_eq]; rfl

/-- So does one that fits after any calls, for every sequence of them. -/
theorem run_of_fits (h : ∀ calls, Fits (s.after calls)) (calls : List Call) :
    s.run calls = ((s.replies calls).map (Reply.map CheckedError.scan), s.after calls) := by
  induction calls generalizing s with
  | nil => rfl
  | cons c calls ih =>
    have hc : Fits s := h []
    have htail := ih fun calls => h (c :: calls)
    rw [run, hc.call_eq, htail, replies_cons, after_cons, List.map_cons]

/-! ### Scanners of short texts -/

variable {source : ByteStream} {text : List Char} {ending : Ending}

theorem fits_of_underway (hsupply : Supplies source.answers text ending)
    (hlen : text.length < 2 ^ 32 - 1) (h : Underway source text ending s) : Fits s where
  first := by
    intro hprimed
    cases h with
    | fresh _ hcursor =>
      have hland : Cursor.Lands () (.ofStream source) [] ending text
          (Cursor.advance (.ofStream source)) :=
        Cursor.lands_advance_of_supplies rfl hsupply rfl none
      rw [hcursor]
      exact Cursor.agrees_advance rfl hland hlen
    | facing hfacing =>
      rw [hprimed] at hfacing
      cases hfacing
  token := by
    intro s' hprime
    obtain ⟨log, hprime_eq⟩ := prime_eq s
    rw [hprime] at hprime_eq
    rcases enter_of_underway hsupply h with
      ⟨before, cs, cur, henter, hfaces, rfl⟩ | ⟨e, cur, henter, -⟩
    · rw [henter] at hprime_eq
      cases hprime_eq
      exact Cursor.agrees_token hfaces hlen
    · rw [henter] at hprime_eq
      cases hprime_eq

theorem fits_of_spent (h : Spent s) : Fits s where
  first := by
    intro hprimed
    rw [h.primed] at hprimed
    cases hprimed
  token := by
    intro s' hprime
    rw [prime_of_primed h.primed] at hprime
    cases hprime
    exact Cursor.agrees_token_of_held_none h.held

theorem fits_after (hsupply : Supplies source.answers text ending)
    (hlen : text.length < 2 ^ 32 - 1) (calls : List Call) :
    Fits ((ofStream source).after calls) := by
  rcases underway_or_spent hsupply calls with h | h
  · exact fits_of_underway hsupply hlen h
  · exact fits_of_spent h

/-! ### Positions in replies -/

/-- The positions in a reply are counted from one, and those of a token lie within a line. -/
structure Reply.InRange (reply : Reply ScanError) : Prop where
  position : ∀ p, reply = .position p → p.FromOne
  token : ∀ t, reply.item? = some (.ok t) → t.span.InLine
  error : ∀ e, reply.error? = some e → e.position.FromOne

theorem inRange_of_atEnd {p : Position} {c : Call} {reply : Reply ScanError} (h : AtEnd p c reply)
    (hp : p.FromOne) : reply.InRange := by
  refine ⟨?_, ?_, ?_⟩
  · rintro q rfl
    cases h
    exact hp
  · intro t hitem
    cases h <;> cases hitem <;> exact hp.point
  · intro e herror
    rw [h.error?_eq] at herror
    cases herror

theorem inLine_of_taken {t : Token} {cur : Cursor}
    (h : Cursor.Taken (.ofStream source) text ending (.ok t, cur))
    (hlen : text.length < 2 ^ 32 - 1) : t.span.InLine := by
  cases h with
  | endOfFile => exact (counts_place hlen).fromOne.point
  | token _ _ hline htext _ =>
    apply inLine_locate hline
    rw [htext, List.length_append] at hlen
    omega

theorem position_of_underway (h : Underway source text ending s)
    (hlen : text.length < 2 ^ 32 - 1) : s.position.FromOne := by
  cases h with
  | fresh _ hcursor =>
    rw [position, hcursor]
    exact (counts_place (a := []) (by decide)).fromOne
  | facing _ hfaces htext =>
    rw [position, hfaces.position_eq]
    apply Position.Counts.fromOne
    apply counts_place
    rw [htext, List.length_append] at hlen
    omega

/-- Whatever is called, the positions in the reply are in range. -/
theorem inRange_call (hsupply : Supplies source.answers text ending)
    (hlen : text.length < 2 ^ 32 - 1) (calls : List Call) (c : Call) :
    (((ofStream source).after calls).call c).1.InRange := by
  rcases underway_or_failed hsupply calls with h | ⟨h, e, hfails⟩
  · have hcall := call_of_underway hsupply h c
    refine ⟨?_, ?_, ?_⟩
    · intro p hp
      cases c <;> cases hp
      exact position_of_underway h hlen
    · intro t hitem
      exact inLine_of_taken (hcall.taken_of_item?_ok hitem) hlen
    · intro e herror
      obtain ⟨k, hfails⟩ := Cursor.exists_failsAt (hcall.fails_of_error? herror) hlen
      exact hfails.reported.fromOne
  · obtain ⟨k, hfails⟩ := Cursor.exists_failsAt hfails hlen
    exact inRange_of_atEnd (call_of_spent h c).1 hfails.position.fromOne

/-- What is replied to calls is replied to one of them. -/
theorem exists_call_of_mem_replies {calls : List Call} {reply : Reply ScanError}
    (h : reply ∈ s.replies calls) : ∃ calls' c, reply = ((s.after calls').call c).1 := by
  induction calls generalizing s with
  | nil => cases h
  | cons c calls ih =>
    rcases List.mem_cons.mp h with rfl | h
    · exact ⟨[], c, rfl⟩
    · obtain ⟨calls', c', hreply⟩ := ih h
      exact ⟨c :: calls', c', hreply⟩

/-- **The arithmetic of a scan stays in range.** Of a source that supplies fewer characters than
a word counts, however they end, and whatever is called: the same calls with checked arithmetic
bring the same replies, none of which is `CheckedError.outOfRange`, and lead to the same scanner.
So no line and no column is ever counted past its word, and wherever a run is ended, the cursor
is on the line on which the run began, and to the right of its first character. The positions in
all replies are counted from one, and a token ends on the line on which it begins, and not
before it begins. -/
theorem arithmetic_in_range (hdecodes : source.DecodesTo text ending)
    (hlen : text.length < 2 ^ 32 - 1) (calls : List Call) :
    ((ofStream source).run calls : List (Reply CheckedError) × Scanner) =
        (((ofStream source).replies calls).map (Reply.map CheckedError.scan),
          (ofStream source).after calls) ∧
      ∀ reply ∈ (ofStream source).replies calls, reply.InRange := by
  have hsupply := decodesTo_iff.mp hdecodes
  constructor
  · exact run_of_fits (fits_after hsupply hlen) calls
  · intro reply hreply
    obtain ⟨calls', c, rfl⟩ := exists_call_of_mem_replies hreply
    exact inRange_call hsupply hlen calls' c

/-- A numeral with a radix at the end of a line, and then a bad zero behind a blank. -/
theorem arithmetic_in_range_numerals :
    let source : ByteStream := [.bytes [0x30, 0x78, 0x66, 0x0A], .fault (.ofKind .interrupted) 1,
      .bytes [0x20, 0x30, 0x71]]
    let calls : List Call := [.next?, .position, .nextToken, .nextToken]
    source.DecodesTo "0xf\n 0q".toList .endOfInput ∧
      ((ofStream source).replies calls).filterMap Reply.item? =
        [.ok ⟨.integer, "0xf", ⟨⟨1, 1⟩, ⟨1, 3⟩⟩⟩, .error ⟨.unknownRadix 'q', ⟨2, 3⟩⟩,
          .ok ⟨.endOfFile, "", ⟨⟨2, 2⟩, ⟨2, 2⟩⟩⟩] ∧
      ((ofStream source).run calls).1 =
        ((ofStream source).replies calls).map (Reply.map CheckedError.scan) := by
  intro source calls
  have hdecodes : source.DecodesTo "0xf\n 0q".toList .endOfInput := rfl
  obtain ⟨hrun, -⟩ := arithmetic_in_range hdecodes (by decide) calls
  exact ⟨hdecodes, by decide +kernel, congrArg Prod.fst hrun⟩

end

end Scanner

end MonkeyTokens
