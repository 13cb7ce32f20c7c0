import MonkeyTokens.Cursor.Progress
import MonkeyTokens.Log.Event

/-!
Scanners.

A `Scanner` reads the tokens of one source, one call at a time. It reads the first
character when it is first asked for something, and it keeps a log of what it
did. `Scanner.nextToken` may be called at any time: after the end of the text, and
after an error, it returns the end of the text. `Scanner.next?` is the same for a
reader who wants each item once: it stops after the end of the text and after
the first error.

`Scanner.pending` bounds the items that `Scanner.next?` still returns.
-/

namespace MonkeyTokens

/-- A scanner of one source. -/
structure Scanner where
  cursor : Cursor
  /-- Whether the first character has been asked for. -/
  primed : Bool
  /-- Whether `Scanner.next?` has returned its last item. -/
  finished : Bool
  /-- What the scanner did, in order. -/
  log : Array Log.Event
deriving DecidableEq, Repr

namespace Scanner

/-- What a scan returns at one point: a token, or the error that ends it. -/
abbrev Item := Except ScanError Token

/-- The scanner of a byte source from which nothing has been read. -/
def ofStream (s : ByteStream) : Scanner := ⟨.ofStream s, false, false, #[]⟩

/-- The scanner of a text. -/
def ofString (source : String) : Scanner := ofStream [.bytes (Utf8.encode source.toList)]

/-- Where the scanner stands. -/
def position (s : Scanner) : Position := s.cursor.position

/-- Adds an event to the log. -/
def record (e : Log.Event) (s : Scanner) : Scanner := { s with log := s.log.push e }

section

variable {ε : Type} [Counting ε]

/-- Adds an error to the log, if it is one that the text gave. -/
def recordFailure (e : ε) (s : Scanner) : Scanner :=
  match Counting.scanError? e with
  | some e => s.record (.failure e)
  | none => s

/-- Performs a step of the scan and records the error if it fails. -/
def perform {α : Type} (step : Cursor.StepIn ε α) (s : Scanner) : Except ε α × Scanner :=
  match step s.cursor with
  | (.ok a, cur) => (.ok a, { s with cursor := cur })
  | (.error e, cur) => (.error e, { s with cursor := cur }.recordFailure e)

/-- Reads the first character. Only the first call does anything. -/
def prime (s : Scanner) : Except ε Unit × Scanner :=
  if s.primed then (.ok (), s)
  else perform Cursor.advance ({ s with primed := true }.record .priming)

/-- Reads the next token. -/
def nextToken (s : Scanner) : Except ε Token × Scanner :=
  match s.prime with
  | (.error e, s') => (.error e, s')
  | (.ok (), s') =>
    match s'.perform Cursor.token with
    | (.error e, s'') => (.error e, s'')
    | (.ok t, s'') => (.ok t, s''.record (.token t))

/-- Whether nothing is returned after an item. -/
def isLast {ε : Type} : Except ε Token → Bool
  | .ok t => t.isEndOfFile
  | .error _ => true

/-- Reads the next item, or returns nothing after the last one. -/
def next? (s : Scanner) : Option (Except ε Token) × Scanner :=
  if s.finished then (none, s)
  else
    match s.nextToken with
    | (item, s') => (some item, { s' with finished := isLast item })

end

@[simp] theorem recordFailure_eq (e : ScanError) (s : Scanner) :
    s.recordFailure e = s.record (.failure e) := rfl

/-! ### Progress -/

/-- A bound on the items that `Scanner.next?` still returns. -/
def pending (s : Scanner) : Nat := if s.finished then 0 else s.cursor.pending + 1

theorem pending_perform_le {α : Type} {step : Cursor.Step α} {s : Scanner}
    (h : (step s.cursor).2.pending ≤ s.cursor.pending) :
    (perform step s).2.cursor.pending ≤ s.cursor.pending := by
  unfold perform
  split <;> rename_i hs <;> rw [hs] at h <;> exact h

theorem pending_prime_le (s : Scanner) : s.prime.2.cursor.pending ≤ s.cursor.pending := by
  unfold prime
  split
  · exact Nat.le_refl _
  · exact pending_perform_le (Cursor.pending_advance_le s.cursor)

/-- A token that is not the end of the text brings the end nearer. -/
theorem pending_nextToken_lt {t : Token} {s s' : Scanner} (h : s.nextToken = (.ok t, s'))
    (ht : t.isEndOfFile = false) : s'.cursor.pending < s.cursor.pending := by
  have hle := pending_prime_le s
  unfold nextToken at h
  split at h
  · simp at h
  · rename_i s₁ hprime
    rw [hprime] at hle
    cases hstep : Cursor.token s₁.cursor with
    | mk r cur =>
      cases r with
      | error e => simp [perform, hstep] at h
      | ok t' =>
        simp only [perform, hstep, Prod.mk.injEq, Except.ok.injEq] at h
        have := Cursor.pending_token_lt hstep (h.1 ▸ ht)
        rw [← h.2]
        exact Nat.lt_of_lt_of_le this hle

/-- Every item that is returned brings the last one nearer. -/
theorem pending_next?_lt {item : Item} {s s' : Scanner} (h : s.next? = (some item, s')) :
    s'.pending < s.pending := by
  unfold next? at h
  split at h
  · simp at h
  · rename_i hfin
    cases hnext : s.nextToken with
    | mk item' s₁ =>
      simp only [hnext, Prod.mk.injEq, Option.some.injEq] at h
      obtain ⟨rfl, rfl⟩ := h
      cases hlast : isLast item' with
      | true => simp [pending, hfin]
      | false =>
        cases item' with
        | error e => simp [isLast] at hlast
        | ok t => simpa [pending, hfin] using pending_nextToken_lt hnext hlast

end Scanner

end MonkeyTokens
