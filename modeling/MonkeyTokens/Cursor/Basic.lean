import MonkeyTokens.Counting

/-!
A cursor over the characters of a text.

A `Cursor` holds the character it stands on, the position of that character, and
the position of the character that its decoder reads next, which is where every
failure is reported. The position is one step behind the decoder: a failed
advance leaves it where it was, and leaves nothing under the cursor.

A `Cursor.StepIn` is a piece of a scan. It moves the cursor whether it succeeds or
fails, so a scan that has failed can be taken up again. It is written for any way of
counting; a `Cursor.Step` is one whose words wrap around. `Cursor.pending` bounds how far
the cursor can still go: moving on from a character makes it smaller, with or without
success, and no step makes it larger.
-/

namespace MonkeyTokens

/-- A cursor over the characters that a decoder reads. -/
structure Cursor where
  decoder : Decoder
  /-- The character under the cursor, `none` at the end of the text and after a failure. -/
  held : Option Char
  /-- Where the cursor stands. -/
  position : Position
  /-- Where the character stands that the decoder reads next. -/
  ahead : Position
deriving DecidableEq, Repr

namespace Cursor

/-- The cursor before the first character of a source. -/
def ofStream (s : ByteStream) : Cursor := ⟨.ofStream s, none, .start, .start⟩

/-- A piece of a scan: it fails with an `ε` or has a result, and moves the cursor either way. -/
def StepIn (ε α : Type) : Type := Cursor → Except ε α × Cursor

/-- A piece of a scan whose words wrap around. -/
abbrev Step : Type → Type := StepIn ScanError

/-- In a sequence the second step starts where the first one ended, and is left
out if the first one failed. -/
instance {ε : Type} : Monad (StepIn ε) where
  pure a := fun cur => (.ok a, cur)
  bind x f := fun cur =>
    match x cur with
    | (.ok a, cur') => f a cur'
    | (.error e, cur') => (.error e, cur')

section

variable {ε : Type}

/-- The cursor itself. -/
def here : StepIn ε Cursor := fun cur => (.ok cur, cur)

/-- A result, or a failure, that does not move the cursor. -/
def ofExcept {α : Type} (x : Except ε α) : StepIn ε α := fun cur => (x, cur)

variable [Counting ε]

/-- A failure, reported at the next character. Nothing stays under the cursor. -/
def fail {α : Type} (cause : ScanError.Cause) : StepIn ε α := fun cur =>
  (.error (Counting.ofScanError ⟨cause, cur.ahead⟩), { cur with held := none })

/-- Moves the cursor to the next character. -/
def advance : StepIn ε Unit := fun cur =>
  match cur.decoder.read with
  | (.ok none, d) => (.ok (), ⟨d, none, cur.ahead, cur.ahead⟩)
  | (.ok (some c), d) =>
    match Counting.after cur.ahead c with
    | .ok ahead => (.ok (), ⟨d, some c, cur.ahead, ahead⟩)
    | .error e => (.error e, { cur with decoder := d, held := none })
  | (.error e, d) => fail (.unreadable e) { cur with decoder := d }

/-- Looks at the character after the one under the cursor, which stays there. -/
def peek : StepIn ε (Option Char) := fun cur =>
  match cur.decoder.peek with
  | (.ok c, d) => (.ok c, { cur with decoder := d })
  | (.error e, d) => fail (.unreadable e) { cur with decoder := d }

end

/-- A scan whose words wrap around fails with the error itself. -/
theorem fail_apply (α : Type) (cause : ScanError.Cause) (cur : Cursor) :
    (fail cause : Step α) cur = (.error ⟨cause, cur.ahead⟩, { cur with held := none }) := rfl

/-- Where words wrap around, a character that has been read is counted. -/
theorem advance_apply (cur : Cursor) : advance cur = match cur.decoder.read with
    | (.ok c, d) => (.ok (), ⟨d, c, cur.ahead, c.elim cur.ahead cur.ahead.after⟩)
    | (.error e, d) => fail (.unreadable e) { cur with decoder := d } := by
  unfold advance
  rcases cur.decoder.read with ⟨e | _ | c, d⟩ <;> rfl

/-! ### Steps lead on -/

/-- A bound on the characters that the cursor can still move on from. -/
def pending (cur : Cursor) : Nat := cur.decoder.pending + if cur.held.isSome then 1 else 0

theorem decoder_pending_le (cur : Cursor) : cur.decoder.pending ≤ cur.pending :=
  Nat.le_add_right _ _

theorem pending_of_held {cur : Cursor} {c : Char} (hheld : cur.held = some c) :
    cur.pending = cur.decoder.pending + 1 := by
  simp [pending, hheld]

section

variable {ε : Type} [Counting ε]

/-- A failure leaves no more than the decoder has still to give. -/
theorem pending_fail (α : Type) (cause : ScanError.Cause) (cur : Cursor) :
    (fail cause cur : Except ε α × Cursor).2.pending = cur.decoder.pending := by
  simp [fail, pending]

/-- Moving on leaves no more than the decoder had to give. -/
theorem pending_advance_le_decoder (cur : Cursor) :
    (advance cur : Except ε Unit × Cursor).2.pending ≤ cur.decoder.pending := by
  have hle := Decoder.pending_read_le cur.decoder
  unfold advance
  split
  · rename_i d h
    rw [h] at hle
    simpa [pending] using hle
  · rename_i c d h
    have hlt := Decoder.pending_lt_of_read h
    split
    · simpa [pending] using Nat.succ_le_of_lt hlt
    · simpa [pending] using Nat.le_of_lt hlt
  · rename_i e d h
    rw [h] at hle
    exact Nat.le_trans (Nat.le_of_eq (pending_fail Unit (.unreadable e) _)) hle

theorem pending_advance_le (cur : Cursor) :
    (advance cur : Except ε Unit × Cursor).2.pending ≤ cur.pending :=
  Nat.le_trans (pending_advance_le_decoder cur) (decoder_pending_le cur)

/-- Moving on from a character brings the end nearer, even where it fails. -/
theorem pending_advance_lt {cur : Cursor} {c : Char} (hheld : cur.held = some c) :
    (advance cur : Except ε Unit × Cursor).2.pending < cur.pending := by
  rw [pending_of_held hheld]
  exact Nat.lt_succ_of_le (pending_advance_le_decoder cur)

/-- Moves the cursor over the characters that satisfy `p`, up to the first that
does not, and adds them to `taken`. -/
def takeWhile (p : Char → Bool) (taken : String) (cur : Cursor) : Except ε String × Cursor :=
  match _ : cur.held with
  | none => (.ok taken, cur)
  | some c =>
    if p c then
      match _ : advance cur with
      | (.ok (), cur') => takeWhile p (taken.push c) cur'
      | (.error e, cur') => (.error e, cur')
    else (.ok taken, cur)
termination_by cur.pending
decreasing_by
  rename_i hheld _ hadv
  have hlt : (advance cur : Except ε Unit × Cursor).2.pending < cur.pending :=
    pending_advance_lt hheld
  rwa [hadv] at hlt

/-- The characters from the cursor on that satisfy `p`. -/
def run (p : Char → Bool) : StepIn ε String := takeWhile p ""

end

/-- A peek that succeeds leaves the cursor on its character, and one that fails leaves
no more than the decoder had to give. -/
theorem peek_cases (cur : Cursor) :
    (∃ c d, peek cur = (.ok c, { cur with decoder := d }) ∧ d.pending ≤ cur.decoder.pending) ∨
      (∃ e cur', peek cur = (.error e, cur') ∧ cur'.pending ≤ cur.decoder.pending) := by
  have hle := Decoder.pending_peek_le cur.decoder
  unfold peek
  split
  · rename_i c d h
    rw [h] at hle
    exact .inl ⟨c, d, rfl, hle⟩
  · rename_i e d h
    rw [h] at hle
    refine .inr ⟨_, _, rfl, ?_⟩
    exact Nat.le_trans
      (Nat.le_of_eq (pending_fail Unit (.unreadable e) { cur with decoder := d })) hle

theorem pending_takeWhile_le (p : Char → Bool) (taken : String) (cur : Cursor) :
    (takeWhile p taken cur).2.pending ≤ cur.pending := by
  fun_induction takeWhile p taken cur with
  | case1 => exact Nat.le_refl _
  | case2 taken cur c hheld hp cur' hadv ih =>
    have := pending_advance_le cur
    rw [hadv] at this
    exact Nat.le_trans ih this
  | case3 taken cur c hheld hp e cur' hadv =>
    have := pending_advance_le cur
    rwa [hadv] at this
  | case4 => exact Nat.le_refl _

/-- A run of at least one character brings the end nearer. -/
theorem pending_run_lt {p : Char → Bool} {cur : Cursor} {c : Char}
    (hheld : cur.held = some c) (hp : p c) : (run p cur).2.pending < cur.pending := by
  have hlt := pending_advance_lt hheld
  unfold run takeWhile
  split
  · simp_all
  · rename_i c' hheld'
    obtain rfl : c = c' := by simpa [hheld] using hheld'
    rw [if_pos hp]
    split
    · rename_i cur' hadv
      rw [hadv] at hlt
      exact Nat.lt_of_le_of_lt (pending_takeWhile_le _ _ _) hlt
    · rename_i e cur' hadv
      rwa [hadv] at hlt

end Cursor

end MonkeyTokens
