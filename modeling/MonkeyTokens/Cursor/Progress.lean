import MonkeyTokens.Cursor.Lexeme

/-!
A scan makes progress.

The laws at the head say what the sequence of two steps does, so that no other
proof has to open the monad. The rest follows `Cursor.token` and shows that a
token other than the end of the text brings the end nearer.
-/

namespace MonkeyTokens.Cursor

variable {ε α β : Type}

/-! ### Sequences of steps -/

theorem bind_apply (x : StepIn ε α) (f : α → StepIn ε β) (cur : Cursor) :
    (x >>= f) cur = match x cur with
      | (.ok a, cur') => f a cur'
      | (.error e, cur') => (.error e, cur') := rfl

theorem bind_of_ok {x : StepIn ε α} {a : α} {cur cur' : Cursor} (h : x cur = (.ok a, cur'))
    (f : α → StepIn ε β) : (x >>= f) cur = f a cur' := by
  rw [bind_apply, h]

theorem bind_of_error {x : StepIn ε α} {e : ε} {cur cur' : Cursor}
    (h : x cur = (.error e, cur')) (f : α → StepIn ε β) : (x >>= f) cur = (.error e, cur') := by
  rw [bind_apply, h]

@[simp] theorem pure_apply (a : α) (cur : Cursor) :
    (pure a : StepIn ε α) cur = (.ok a, cur) := rfl

@[simp] theorem here_apply (cur : Cursor) : (here : StepIn ε Cursor) cur = (.ok cur, cur) := rfl

theorem spanFrom_apply (first : Position) (cur : Cursor) :
    spanFrom first cur = (.ok ⟨first, cur.position.before⟩, cur) := rfl

/-! ### Steps that never lead back -/

theorem pending_bind_le {x : Step α} {f : α → Step β} {cur : Cursor}
    (hx : (x cur).2.pending ≤ cur.pending)
    (hf : ∀ a cur', x cur = (.ok a, cur') → (f a cur').2.pending ≤ cur'.pending) :
    ((x >>= f) cur).2.pending ≤ cur.pending := by
  cases h : x cur with
  | mk r cur' =>
    rw [h] at hx
    cases r with
    | error e => rwa [bind_of_error h]
    | ok a => rw [bind_of_ok h]; exact Nat.le_trans (hf a cur' h) hx

/-- A sequence leads on if its first step does. -/
theorem pending_bind_lt {x : Step α} {f : α → Step β} {cur : Cursor}
    (hx : (x cur).2.pending < cur.pending)
    (hf : ∀ a cur', x cur = (.ok a, cur') → (f a cur').2.pending ≤ cur'.pending) :
    ((x >>= f) cur).2.pending < cur.pending := by
  cases h : x cur with
  | mk r cur' =>
    rw [h] at hx
    cases r with
    | error e => rwa [bind_of_error h]
    | ok a => rw [bind_of_ok h]; exact Nat.lt_of_le_of_lt (hf a cur' h) hx

theorem pending_run_le (p : Char → Bool) (cur : Cursor) :
    (run p cur).2.pending ≤ cur.pending := pending_takeWhile_le p "" cur

theorem pending_skipBlanks_le (cur : Cursor) : (skipBlanks cur).2.pending ≤ cur.pending :=
  pending_bind_le (pending_run_le _ _) fun _ _ _ => Nat.le_refl _

/-! ### Tokens lead on -/

theorem pending_word_lt {c : Char} {cur : Cursor} (hheld : cur.held = some c)
    (hc : isWordChar c) (first : Position) : (word first cur).2.pending < cur.pending :=
  pending_bind_lt (pending_run_lt hheld hc) fun _ _ _ => Nat.le_refl _

theorem pending_single_lt {c : Char} {cur : Cursor} (hheld : cur.held = some c)
    (kind : Token.Kind) (first : Position) :
    (single kind c first cur).2.pending < cur.pending :=
  pending_bind_lt (pending_advance_lt hheld) fun _ _ _ => Nat.le_refl _

theorem pending_digits_lt {c : Char} {cur : Cursor} (hheld : cur.held = some c)
    (hc : c.isDigit) (shape : Numeral) : (digits shape cur).2.pending < cur.pending := by
  cases shape with
  | decimal => exact pending_run_lt hheld (by simp [isDecimalChar, hc])
  | based radix =>
    refine pending_bind_lt (pending_advance_lt hheld) fun _ _ _ => ?_
    refine pending_bind_le (pending_advance_le _) fun _ _ _ => ?_
    exact pending_bind_le (pending_run_le _ _) fun _ _ _ => Nat.le_refl _

/-- Deciding the shape of a numeral either leaves the cursor on its first digit or
leads on. -/
theorem pending_shape {c : Char} {cur : Cursor} (hheld : cur.held = some c) :
    (∃ n cur', shape c cur = (.ok n, cur') ∧ cur'.held = some c ∧ cur'.pending ≤ cur.pending) ∨
      (∃ e cur', shape c cur = (.error e, cur') ∧ cur'.pending < cur.pending) := by
  have hpending := pending_of_held hheld
  unfold shape
  split
  · rcases peek_cases cur with ⟨peeked, d, hp, hle⟩ | ⟨e, cur', hp, hle⟩
    · have hheld' : { cur with decoder := d }.held = some c := hheld
      have hpending' := pending_of_held hheld'
      rw [bind_of_ok hp]
      cases Numeral.afterZero peeked with
      | ok n =>
        refine .inl ⟨n, _, rfl, hheld, ?_⟩
        rw [hpending', hpending]
        exact Nat.succ_le_succ hle
      | error letter =>
        refine .inr ⟨_, _, rfl, ?_⟩
        have hfail := pending_fail Numeral (.unknownRadix letter) { cur with decoder := d }
        rw [hpending]
        exact Nat.lt_succ_of_le (Nat.le_trans (Nat.le_of_eq hfail) hle)
    · refine .inr ⟨e, cur', bind_of_error hp _, ?_⟩
      rw [hpending]
      exact Nat.lt_succ_of_le hle
  · exact .inl ⟨_, cur, rfl, hheld, Nat.le_refl _⟩

theorem pending_numeral_lt {c : Char} {cur : Cursor} (hheld : cur.held = some c)
    (hc : c.isDigit) (first : Position) : (numeral c first cur).2.pending < cur.pending := by
  unfold numeral
  rcases pending_shape hheld with ⟨n, cur', h, hheld', hle⟩ | ⟨e, cur', h, hlt⟩
  · rw [bind_of_ok h]
    refine Nat.lt_of_lt_of_le ?_ hle
    exact pending_bind_lt (pending_digits_lt hheld' hc n) fun _ _ _ => Nat.le_refl _
  · rwa [bind_of_error h]

theorem pending_tokenFrom_lt {c : Char} {cur : Cursor} (hheld : cur.held = some c)
    (first : Position) : (tokenFrom c first cur).2.pending < cur.pending := by
  unfold tokenFrom
  cases Token.Kind.ofChar? c with
  | some kind => exact pending_single_lt hheld kind first
  | none =>
    by_cases hw : isWordChar c
    · simpa [hw] using pending_word_lt hheld hw first
    by_cases hd : c.isDigit
    · simpa [hw, hd] using pending_numeral_lt hheld hd first
    · simpa [hw, hd] using pending_single_lt hheld .unknown first

/-- A token that is not the end of the text brings the end nearer. -/
theorem pending_token_lt {t : Token} {cur cur' : Cursor} (h : token cur = (.ok t, cur'))
    (ht : t.isEndOfFile = false) : cur'.pending < cur.pending := by
  have hle := pending_skipBlanks_le cur
  unfold token at h
  cases hs : skipBlanks cur with
  | mk r cur₁ =>
    rw [hs] at hle
    cases r with
    | error e => simp [bind_of_error hs] at h
    | ok =>
      rw [bind_of_ok hs, bind_of_ok (here_apply cur₁)] at h
      cases hheld : cur₁.held with
      | none =>
        simp only [hheld, pure_apply, Prod.mk.injEq, Except.ok.injEq] at h
        simp [← h.1, Token.isEndOfFile, Token.endOfFile] at ht
      | some c =>
        simp only [hheld] at h
        have := pending_tokenFrom_lt hheld cur₁.position
        rw [h] at this
        exact Nat.lt_of_lt_of_le this hle

end MonkeyTokens.Cursor
