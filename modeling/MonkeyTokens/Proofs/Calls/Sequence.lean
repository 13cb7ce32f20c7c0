import MonkeyTokens.Scanner.Basic

/-!
Sequences of calls.

A scanner may be asked for things in any order, and again after it has failed. A
`Scanner.Call` is one thing it may be asked for, a `Scanner.Reply` is what it says, and
`Scanner.run` is what a whole sequence of calls comes to, for any way of counting;
`Scanner.replies` and `Scanner.after` are its two halves where words wrap around. A
property of all the scanners that calls lead to is shown of one call and then holds
behind any number of them (`after_induction`).

A call is a step of the cursor and a change of two marks. The section at the head says so
(`prime_eq`, `nextToken_eq`), so that no other proof opens a scanner or its log.
-/

namespace MonkeyTokens

/-- Reads the first character, unless that was done before. -/
def Cursor.enter (primed : Bool) : Cursor.Step Unit := if primed then pure () else advance

namespace Scanner

/-! ### One call, part by part -/

section

variable (s : Scanner)

theorem perform_eq {α : Type} (step : Cursor.Step α) : ∃ log,
    s.perform step = ((step s.cursor).1, ⟨(step s.cursor).2, s.primed, s.finished, log⟩) := by
  unfold perform
  split <;> rename_i h <;> rw [h] <;> exact ⟨_, rfl⟩

/-- The first character is read by a step of the cursor. -/
theorem prime_eq : ∃ log, s.prime = ((Cursor.enter s.primed s.cursor).1,
    ⟨(Cursor.enter s.primed s.cursor).2, true, s.finished, log⟩) := by
  obtain ⟨cursor, primed, finished, log⟩ := s
  cases primed with
  | true => exact ⟨log, rfl⟩
  | false => exact perform_eq (record .priming ⟨cursor, true, finished, log⟩) Cursor.advance

/-- A token is read by a step of the cursor. -/
theorem nextToken_eq : ∃ log, s.nextToken =
    (((do Cursor.enter s.primed; Cursor.token) s.cursor).1,
      ⟨((do Cursor.enter s.primed; Cursor.token) s.cursor).2, true, s.finished, log⟩) := by
  obtain ⟨log, hprime⟩ := prime_eq s
  unfold nextToken
  rw [hprime]
  cases h : Cursor.enter s.primed s.cursor with
  | mk result cur =>
    cases result with
    | error e =>
      rw [Cursor.bind_of_error h]
      exact ⟨log, rfl⟩
    | ok =>
      obtain ⟨log', hstep⟩ := perform_eq ⟨cur, true, s.finished, log⟩ Cursor.token
      rw [Cursor.bind_of_ok h]
      simp only [hstep]
      cases Cursor.token cur with
      | mk item cur' => cases item <;> exact ⟨_, rfl⟩

variable {s}

theorem prime_of_primed (h : s.primed = true) : s.prime = (.ok (), s) := if_pos h

/-- A token is the same with the first character read beforehand. -/
theorem nextToken_of_prime {s' : Scanner} (h : s.prime = (.ok (), s')) (h' : s'.primed = true) :
    s.nextToken = s'.nextToken := by
  simp only [nextToken, h, prime_of_primed h']

theorem next?_of_finished (h : s.finished = true) : s.next? = (none, s) := if_pos h

theorem next?_of_unfinished (h : s.finished = false) : s.next? =
    (some s.nextToken.1, { s.nextToken.2 with finished := isLast s.nextToken.1 }) := by
  rw [next?, if_neg (by simp [h])]

end

/-! ### Calls and replies -/

/-- What a scanner may be asked for. -/
inductive Call where
  | prime | position | nextToken | next?
deriving DecidableEq, Repr

/-- What a scanner replies that may fail with an `ε`. -/
inductive Reply (ε : Type) where
  | primed (result : Except ε Unit)
  | position (p : Position)
  | token (item : Except ε Token)
  /-- The reply to the reader of items, `none` once it has stopped. -/
  | next (item : Option (Except ε Token))
deriving Repr

section

variable {ε : Type} [Counting ε]

/-- One call: the reply, and the scanner afterwards. -/
def call : Call → Scanner → Reply ε × Scanner
  | .prime, s => (.primed s.prime.1, s.prime.2)
  | .position, s => (.position s.position, s)
  | .nextToken, s => (.token s.nextToken.1, s.nextToken.2)
  | .next?, s => (.next s.next?.1, s.next?.2)

/-- The replies to calls made one after the other, and the scanner after the last of them. -/
def run : List Call → Scanner → List (Reply ε) × Scanner
  | [], s => ([], s)
  | c :: calls, s => ((s.call c).1 :: (run calls (s.call c).2).1, (run calls (s.call c).2).2)

end

namespace Reply

variable {ε : Type}

/-- The item that a reply brings, if it brings one. -/
def item? : Reply ε → Option (Except ε Token)
  | .token item => some item
  | .next item => item
  | _ => none

/-- The error that a reply reports, if it reports one. -/
def error? : Reply ε → Option ε
  | .primed (.error e) => some e
  | .token (.error e) => some e
  | .next (some (.error e)) => some e
  | _ => none

/-- Whether a reply is an error or the end of the text. -/
def isFinal : Reply ε → Bool
  | .primed (.error _) => true
  | .token item => isLast item
  | .next (some item) => isLast item
  | _ => false

theorem error?_of_item?_ok {reply : Reply ε} {t : Token} (h : reply.item? = some (.ok t)) :
    reply.error? = none := by
  cases reply with
  | primed => cases h
  | position => cases h
  | token => cases h; rfl
  | next => cases h; rfl

theorem error?_of_item?_error {reply : Reply ε} {e : ε}
    (h : reply.item? = some (.error e)) : reply.error? = some e := by
  cases reply with
  | primed => cases h
  | position => cases h
  | token => cases h; rfl
  | next => cases h; rfl

/-- A reply that is final reports an error or brings the last item. -/
theorem error?_or_item?_of_isFinal {reply : Reply ε} (h : reply.isFinal = true) :
    (∃ e, reply.error? = some e) ∨ ∃ item, reply.item? = some item ∧ isLast item = true := by
  cases reply with
  | primed result =>
    cases result with
    | error e => exact .inl ⟨e, rfl⟩
    | ok => cases h
  | position => cases h
  | token item => exact .inr ⟨item, rfl, h⟩
  | next item =>
    cases item with
    | none => cases h
    | some item => exact .inr ⟨item, rfl, h⟩

end Reply

/-- The replies to calls made one after the other. -/
def replies (calls : List Call) (s : Scanner) : List (Reply ScanError) := (s.run calls).1

/-- The scanner after calls made one after the other. -/
def after (calls : List Call) (s : Scanner) : Scanner :=
  (s.run calls : List (Reply ScanError) × Scanner).2

theorem replies_nil (s : Scanner) : s.replies [] = [] := rfl

theorem replies_cons (c : Call) (calls : List Call) (s : Scanner) :
    s.replies (c :: calls) = (s.call c).1 :: (s.call c).2.replies calls := rfl

theorem after_nil (s : Scanner) : s.after [] = s := rfl

theorem after_cons (c : Call) (calls : List Call) (s : Scanner) :
    s.after (c :: calls) = (s.call c).2.after calls := rfl

/-- What one call preserves is preserved by any number of them. -/
theorem after_induction {P : Scanner → Prop} (hcall : ∀ s, P s → ∀ c, P (s.call c).2)
    (calls : List Call) {s : Scanner} (h : P s) : P (s.after calls) := by
  induction calls generalizing s with
  | nil => exact h
  | cons c calls ih => exact ih (hcall s h c)

end Scanner

end MonkeyTokens
