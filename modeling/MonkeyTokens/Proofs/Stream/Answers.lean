import MonkeyTokens.Stream.Decoder

/-!
What the reads of a byte source answer.

How a source cuts its bytes into deliveries, and how often a read of it is
interrupted, cannot be observed: all that counts is the list of answers that its
reads give, one after the other. `ByteStream.answers` is that list. After its last
answer a source reports the end of the input for good.

A source may report the end of its input and go on behind it. `ByteStream.Ends` says
that such a report, or the end for good, comes first among the answers.
-/

namespace MonkeyTokens.ByteStream

/-- What the reads of a source answer, up to the last answer other than the end of
the input for good. -/
def answers : ByteStream → List Answer
  | [] => []
  | .bytes bs :: rest => bs.map .byte ++ answers rest
  | .fault f n :: rest =>
    (if f.isRetried then [] else List.replicate n (.fault f)) ++ answers rest
  | .endOfInput :: rest => .endOfInput :: answers rest

@[simp] theorem answers_nil : answers [] = [] := rfl

@[simp] theorem answers_bytes (bs : List UInt8) (rest : ByteStream) :
    answers (.bytes bs :: rest) = bs.map .byte ++ answers rest := rfl

@[simp] theorem answers_endOfInput (rest : ByteStream) :
    answers (.endOfInput :: rest) = .endOfInput :: answers rest := rfl

/-- A read answers the first of the answers, and leaves the others. -/
theorem next_of_answers_cons {s : ByteStream} {a : Answer} {as : List Answer}
    (h : s.answers = a :: as) : ∃ s', s.next = (a, s') ∧ s'.answers = as := by
  fun_induction next s with
  | case1 => simp at h
  | case2 b bs rest =>
    obtain ⟨rfl, rfl⟩ : .byte b = a ∧ bs.map .byte ++ answers rest = as := by simpa using h
    exact ⟨_, rfl, rfl⟩
  | case3 rest ih => exact ih (by simpa using h)
  | case4 f n rest hf ih => exact ih (by simpa [answers, hf] using h)
  | case5 f n rest hf =>
    obtain ⟨rfl, rfl⟩ : .fault f = a ∧ List.replicate n (.fault f) ++ answers rest = as := by
      simpa [answers, hf, List.replicate_succ] using h
    exact ⟨_, rfl, by simp [answers, hf]⟩
  | case6 f rest ih => exact ih (by simpa [answers] using h)
  | case7 rest =>
    obtain ⟨rfl, rfl⟩ : .endOfInput = a ∧ answers rest = as := by simpa using h
    exact ⟨_, rfl, rfl⟩

/-- A source without answers reports the end of the input. -/
theorem next_of_answers_nil {s : ByteStream} (h : s.answers = []) :
    s.next = (.endOfInput, []) := by
  fun_induction next s with
  | case1 => rfl
  | case2 b bs rest => simp at h
  | case3 rest ih => exact ih (by simpa using h)
  | case4 f n rest hf ih => exact ih (by simpa [answers, hf] using h)
  | case5 f n rest hf => simp [answers, hf, List.replicate_succ] at h
  | case6 f rest ih => exact ih (by simpa [answers] using h)
  | case7 rest => simp at h

/-- The answers of a source are the answer to a read and those of what it leaves,
unless the source is used up. -/
theorem answers_of_next {s s' : ByteStream} {a : Answer} (h : s.next = (a, s')) :
    s.answers = a :: s'.answers ∨ (s.answers = [] ∧ a = .endOfInput ∧ s'.answers = []) := by
  cases hs : s.answers with
  | nil =>
    rw [next_of_answers_nil hs] at h
    obtain ⟨rfl, rfl⟩ : .endOfInput = a ∧ [] = s' := by simpa using h
    exact .inr ⟨rfl, rfl, rfl⟩
  | cons b bs =>
    obtain ⟨s'', hnext, hanswers⟩ := next_of_answers_cons hs
    obtain ⟨rfl, rfl⟩ : b = a ∧ s'' = s' := by simpa [hnext] using h
    exact .inl (by rw [hanswers])

/-! ### Ends of the input -/

/-- The answers begin with the report that the input has ended, and `rest` follows. -/
inductive Ends : List Answer → List Answer → Prop where
  | reported {rest : List Answer} : Ends (.endOfInput :: rest) rest
  | usedUp : Ends [] []

theorem next_of_ends {s : ByteStream} {rest : List Answer} (h : Ends s.answers rest) :
    ∃ s', s.next = (.endOfInput, s') ∧ s'.answers = rest := by
  generalize hs : s.answers = as at h
  cases h with
  | reported => exact next_of_answers_cons hs
  | usedUp => exact ⟨[], next_of_answers_nil hs, rfl⟩

theorem ends_of_next {s s' : ByteStream} (h : s.next = (.endOfInput, s')) :
    Ends s.answers s'.answers := by
  rcases answers_of_next h with hs | ⟨hs, -, hs'⟩
  · rw [hs]
    exact .reported
  · rw [hs, hs']
    exact .usedUp

end MonkeyTokens.ByteStream
