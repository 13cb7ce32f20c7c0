import MonkeyTokens.Proofs.Lexing.Scan

/-!
The log of a whole scan.

A scanner records that it begins when it is first asked for a token, and then each item
that it returns, and nothing else. So the log of a scan that runs to its end holds the
items of the scan, in their order, behind that first event (`log_ofStream`).
-/

namespace MonkeyTokens.Scanner

open Log (Event)

/-- The event that is recorded of an item. -/
def eventOf : Item → Event
  | .ok t => .token t
  | .error e => .failure e

/-- The events of a whole scan that returns these items. -/
def eventsOf (items : List Item) : List Event := .priming :: items.map eventOf

/-- What is recorded of the outcome of a step. -/
def outcomeEvents {α : Type} : Except ScanError α → List Event
  | .ok _ => []
  | .error e => [.failure e]

section

variable (s : Scanner)

/-- What is recorded of the beginning, unless that was done before. -/
def openingEvents : List Event := if s.primed then [] else [.priming]

theorem log_perform {α : Type} (step : Cursor.Step α) : (s.perform step).2.log.toList =
    s.log.toList ++ outcomeEvents (s.perform step).1 := by
  unfold perform
  split <;> simp [record, outcomeEvents]

theorem log_prime : s.prime.2.log.toList =
    s.log.toList ++ s.openingEvents ++ outcomeEvents s.prime.1 := by
  unfold prime openingEvents
  split
  · simp [outcomeEvents]
  · rw [log_perform]
    simp [record]

/-- Reading a token adds the beginning, if it was not there, and the item. -/
theorem log_nextToken : s.nextToken.2.log.toList =
    s.log.toList ++ s.openingEvents ++ [eventOf s.nextToken.1] := by
  have hprime := log_prime s
  unfold nextToken
  cases hr : s.prime with
  | mk result s' =>
    rw [hr] at hprime
    cases result with
    | error e => exact hprime
    | ok =>
      have hstep := log_perform s' Cursor.token
      cases hr' : s'.perform Cursor.token with
      | mk item s'' =>
        rw [hr'] at hstep
        simp only [outcomeEvents, List.append_nil] at hprime hstep
        simp only [hr']
        cases item with
        | error e => simpa [eventOf, hprime] using hstep
        | ok t => simp [record, eventOf, hprime, hstep]

/-- Reading an item adds the beginning, if it was not there, and the item. -/
theorem log_next? (hfin : s.finished = false) : ∃ item s', s.next? = (some item, s') ∧
    s'.primed = true ∧ s'.log.toList = s.log.toList ++ s.openingEvents ++ [eventOf item] := by
  refine ⟨_, _, next?_of_unfinished hfin, ?_, log_nextToken s⟩
  obtain ⟨log, h⟩ := nextToken_eq s
  rw [h]

end

/-- A scanner that has begun records the items that it returns. -/
theorem log_rest {s : Scanner} (hprimed : s.primed = true) :
    s.rest.2.log.toList = s.log.toList ++ s.rest.1.map eventOf := by
  induction hn : s.pending using Nat.strongRecOn generalizing s with
  | ind n ih =>
    cases hfin : s.finished with
    | true => simp [rest_eq, next?_of_finished hfin]
    | false =>
      obtain ⟨item, s', hnext, hprimed', hlog⟩ := log_next? s hfin
      have hopening : s.openingEvents = [] := if_pos hprimed
      have hrest := ih s'.pending (hn ▸ pending_next?_lt hnext) hprimed' rfl
      rw [rest_eq, hnext, List.map_cons, hrest, hlog, hopening]
      simp

/-- **The log of a whole scan** holds its items behind its beginning. -/
theorem log_ofStream (source : ByteStream) :
    (ofStream source).rest.2.log.toList = eventsOf (ofStream source).items := by
  obtain ⟨item, s', hnext, hprimed, hlog⟩ := log_next? (ofStream source) rfl
  rw [items, rest_eq, hnext, log_rest hprimed, hlog]
  rfl

end MonkeyTokens.Scanner
