import MonkeyTokens.Proofs.Lexing.Located

/-!
Tokens read with checked arithmetic.

Lines and columns are words of 32 bits, and what is added to a word or taken from it wraps
around. `Counting.checking` is the way of counting in which this never passes unseen: a scan
that counts in this way fails with `CheckedError.outOfRange` where a line or a column that is
counted up does not fit into its word, and where a run is to end before a cursor that does not
stand on the line of the run, to the right of its first character.

As long as a text has fewer characters than a word counts, a cursor that faces it can take
every step in this way, and the outcome is the one of the scan (`Cursor.agrees_token`).
-/

namespace MonkeyTokens

open ByteStream Lexing

/-- What a scan with checked arithmetic fails with. -/
inductive CheckedError where
  /-- The text ended the scan. -/
  | scan (e : ScanError)
  /-- A number would have left its word. -/
  | outOfRange
deriving DecidableEq, Repr

namespace Counting

/-- The word that follows, if there is one. -/
def nextWord (w : UInt32) : Except CheckedError UInt32 :=
  if w.toNat + 1 < 2 ^ 32 then .ok (w + 1) else .error .outOfRange

/-- Words keep to their range: a line or a column is counted up only if there is a next word,
and a run ends only before a position on its line that is further to the right. -/
instance checking : Counting CheckedError where
  ofScanError := .scan
  scanError?
    | .scan e => some e
    | .outOfRange => none
  after p c :=
    if c = '\n' then (nextWord p.line).map fun line => ⟨line, 1⟩
    else (nextWord p.column).map fun column => ⟨p.line, column⟩
  before first p :=
    if p.line = first.line ∧ first.column < p.column then .ok p.before else .error .outOfRange

theorem after_checking (p : Position) (c : Char) : (after p c : Except CheckedError Position) =
    if c = '\n' then (nextWord p.line).map fun line => ⟨line, 1⟩
    else (nextWord p.column).map fun column => ⟨p.line, column⟩ := rfl

theorem before_checking {first p : Position} (hline : p.line = first.line)
    (hcolumn : first.column < p.column) :
    (before first p : Except CheckedError Position) = .ok p.before := if_pos ⟨hline, hcolumn⟩

example : (after ⟨1, 0xFFFFFFFF⟩ 'a' : Except CheckedError Position) = .error .outOfRange := rfl

example : (before ⟨1, 4⟩ ⟨1, 4⟩ : Except CheckedError Position) = .error .outOfRange := rfl

theorem nextWord_of_lt {w : UInt32} (h : w.toNat + 1 < 2 ^ 32) : nextWord w = .ok (w + 1) :=
  if_pos h

end Counting

/-- An outcome of the scan, for a scan that may also fail for its numbers. -/
def checked {α β : Type} (r : Except ScanError α × β) : Except CheckedError α × β :=
  (r.1.mapError .scan, r.2)

namespace Cursor

variable {α β : Type}

/-! ### Agreement with the scan -/

/-- The step that checks its numbers has the outcome of the step whose words wrap around. -/
def Agrees (x : StepIn CheckedError α) (y : Step α) (cur : Cursor) : Prop :=
  x cur = checked (y cur)

theorem agrees_pure (a : α) (cur : Cursor) : Agrees (pure a) (pure a) cur := rfl

theorem agrees_here (cur : Cursor) : Agrees here here cur := rfl

theorem agrees_fail (cause : ScanError.Cause) (cur : Cursor) :
    Agrees (fail cause : StepIn CheckedError α) (fail cause) cur := rfl

/-- Nothing is counted in a look at the next character. -/
theorem agrees_peek (cur : Cursor) : Agrees peek peek cur := by
  unfold Agrees peek
  rcases cur.decoder.peek with ⟨e | c, d⟩ <;> rfl

/-- Two steps in sequence agree if the first do, and the second do wherever the first succeed. -/
theorem Agrees.bind {x : StepIn CheckedError α} {y : Step α} {f : α → StepIn CheckedError β}
    {g : α → Step β} {cur : Cursor} (hx : Agrees x y cur)
    (hf : ∀ a cur', y cur = (.ok a, cur') → Agrees (f a) (g a) cur') :
    Agrees (x >>= f) (y >>= g) cur := by
  unfold Agrees at hx ⊢
  cases hy : y cur with
  | mk result cur' =>
    rw [hy] at hx
    cases result with
    | error e => rw [bind_of_error hx, bind_of_error hy]; rfl
    | ok a => rw [bind_of_ok hx, bind_of_ok hy, hf a cur' hy]

/-- So the shape of a numeral is told in both ways alike. -/
theorem agrees_shape (digit : Char) (cur : Cursor) : Agrees (shape digit) (shape digit) cur := by
  unfold shape
  split
  · apply Agrees.bind (agrees_peek cur)
    intro peeked cur' _
    cases Numeral.afterZero peeked with
    | ok n => exact agrees_pure n cur'
    | error letter => exact agrees_fail (.unknownRadix letter) cur'
  · exact agrees_pure _ _

section

variable {origin : Decoder} {before cs rest literal : List Char} {ending : Ending} {cur : Cursor}
  {c : Char}

/-- The next place can be counted as long as the characters before it can. -/
theorem after_place (h : (before ++ [c]).length < 2 ^ 32 - 1) :
    (Counting.after (place before) c : Except CheckedError Position) =
      .ok ((place before).after c) := by
  rw [List.length_append, List.length_singleton] at h
  have hcounts : (place before).Counts before := counts_place (by omega)
  have hline : (place before).line.toNat + 1 < 2 ^ 32 := by
    have := lineOf_le before
    rw [hcounts.line]
    omega
  have hcolumn : (place before).column.toNat + 1 < 2 ^ 32 := by
    have := columnOf_le before
    rw [hcounts.column]
    omega
  rw [Counting.after_checking, Counting.nextWord_of_lt hline, Counting.nextWord_of_lt hcolumn,
    Position.after]
  split <;> rfl

/-- Moving on counts the character that is then under the cursor, if there is one. -/
theorem agrees_advance_of_after (h : ∀ c, (advance cur).2.held = some c →
    (Counting.after cur.ahead c : Except CheckedError Position) = .ok (cur.ahead.after c)) :
    Agrees advance advance cur := by
  unfold Agrees
  rw [advance_apply] at h ⊢
  unfold advance
  cases hread : cur.decoder.read with
  | mk result d =>
    rw [hread] at h
    rcases result with e | _ | c
    · rfl
    · rfl
    · simp only [h c rfl]
      rfl

/-- A cursor that lands in a text short enough can move on. -/
theorem agrees_advance (hahead : cur.ahead = place before)
    (hland : Lands () origin before ending cs (advance cur))
    (hlen : (before ++ cs).length < 2 ^ 32 - 1) : Agrees advance advance cur := by
  apply agrees_advance_of_after
  intro c hc
  rw [hahead]
  generalize advance cur = r at hland hc
  cases hland with
  | faces h =>
    rw [h.held_eq] at hc
    obtain ⟨tail, rfl⟩ := List.head?_eq_some_iff.mp hc
    apply after_place
    rw [List.append_cons, List.length_append] at hlen
    omega
  | fails _ h =>
    rw [h.held] at hc
    cases hc

/-- The cursor holds `c` behind `before`, and lands behind it when it moves on. -/
structure Holds (origin : Decoder) (before : List Char) (ending : Ending) (c : Char)
    (cs : List Char) (cur : Cursor) : Prop where
  held : cur.held = some c
  ahead : cur.ahead = place (before ++ [c])
  lands : Lands () origin (before ++ [c]) ending cs (advance cur)

theorem holds_of_faces (h : Faces origin before ending (c :: cs) cur) :
    Holds origin before ending c cs cur := ⟨h.held_eq, h.ahead_eq, lands_advance h⟩

/-- A look at the next character moves nothing. -/
theorem holds_peeked (h : Faces origin before ending (c :: cs) cur)
    (hadv : advance cur.peeked = advance cur) :
    Holds origin before ending c cs cur.peeked :=
  ⟨h.held_eq, h.ahead_eq, hadv ▸ lands_advance h⟩

/-- A cursor that holds a character can move on from it, and then faces what follows it. -/
theorem Agrees.bind_advance {f : Unit → StepIn CheckedError β} {g : Unit → Step β}
    (h : Holds origin before ending c cs cur) (hlen : (before ++ c :: cs).length < 2 ^ 32 - 1)
    (hf : ∀ cur', Faces origin (before ++ [c]) ending cs cur' → Agrees (f ()) (g ()) cur') :
    Agrees (advance >>= f) (advance >>= g) cur := by
  rw [List.append_cons] at hlen
  apply Agrees.bind (agrees_advance h.ahead h.lands hlen)
  intro _ cur' hadv
  have hland := h.lands
  rw [hadv] at hland
  cases hland with
  | faces h' => exact hf cur' h'

/-! ### Runs -/

theorem agrees_of_stop {p : Char → Bool} (h : ∀ c, cur.held = some c → p c = false)
    (taken : String) : Agrees (takeWhile p taken) (takeWhile p taken) cur := by
  unfold Agrees
  rw [takeWhile_of_stop h, takeWhile_of_stop h]
  rfl

/-- What agrees from the next character on agrees from this one on. -/
theorem agrees_of_holds {p : Char → Bool} {taken : String} (h : Holds origin before ending c cs cur)
    (hc : p c = true) (hlen : (before ++ c :: cs).length < 2 ^ 32 - 1)
    (hnext : ∀ cur', Faces origin (before ++ [c]) ending cs cur' →
      Agrees (takeWhile p (taken.push c)) (takeWhile p (taken.push c)) cur') :
    Agrees (takeWhile p taken) (takeWhile p taken) cur := by
  rw [List.append_cons] at hlen
  have hadv : Agrees advance advance cur := agrees_advance h.ahead h.lands hlen
  have hland := h.lands
  unfold Agrees at hadv ⊢
  rw [takeWhile_of_held h.held hc, takeWhile_of_held h.held hc, hadv]
  generalize advance cur = r at hland
  cases hland with
  | faces h' => exact hnext _ h'
  | fails => rfl

theorem agrees_takeWhile (p : Char → Bool) (h : Faces origin before ending cs cur)
    (hlen : (before ++ cs).length < 2 ^ 32 - 1) (taken : String) :
    Agrees (takeWhile p taken) (takeWhile p taken) cur := by
  induction cs generalizing before cur taken with
  | nil =>
    apply agrees_of_stop
    intro c hc
    rw [h.held_eq] at hc
    cases hc
  | cons c cs ih =>
    cases hc : p c with
    | false =>
      apply agrees_of_stop
      intro d hd
      obtain rfl : c = d := by simpa [h.held_eq] using hd
      exact hc
    | true =>
      apply agrees_of_holds (holds_of_faces h) hc hlen
      intro cur' h'
      rw [List.append_cons] at hlen
      exact ih h' hlen _

theorem agrees_run (p : Char → Bool) (h : Faces origin before ending cs cur)
    (hlen : (before ++ cs).length < 2 ^ 32 - 1) : Agrees (run p) (run p) cur :=
  agrees_takeWhile p h hlen ""

/-- A run can be taken after a look at the next character as well. -/
theorem agrees_run_of_holds {p : Char → Bool} (h : Holds origin before ending c cs cur)
    (hc : p c = true) (hlen : (before ++ c :: cs).length < 2 ^ 32 - 1) :
    Agrees (run p) (run p) cur := by
  apply agrees_of_holds h hc hlen
  intro cur' h'
  rw [List.append_cons] at hlen
  exact agrees_takeWhile p h' hlen _

/-! ### Spans -/

/-- Behind a literal within a line the cursor stands on the line of its first character, and
further to the right. -/
theorem before_place (hne : literal ≠ []) (hline : ∀ c ∈ literal, c ≠ '\n')
    (hlen : (before ++ literal).length < 2 ^ 32 - 1) :
    (Counting.before (place before) (place (before ++ literal)) : Except CheckedError Position) =
      .ok (place (before ++ literal)).before := by
  have hshort : before.length < 2 ^ 32 - 1 := by
    rw [List.length_append] at hlen
    omega
  obtain ⟨hsame, hcolumn⟩ := (counts_place hshort).along (counts_place hlen) hline
  apply Counting.before_checking hsame
  rw [UInt32.lt_iff_toNat_lt, hcolumn]
  exact Nat.lt_add_of_pos_right (List.length_pos_iff.mpr hne)

/-- So a span can be ended behind a literal within a line. -/
theorem agrees_spanFrom (hne : literal ≠ []) (hline : ∀ c ∈ literal, c ≠ '\n')
    (hlen : (before ++ literal).length < 2 ^ 32 - 1)
    (h : Faces origin (before ++ literal) ending rest cur) :
    Agrees (spanFrom (place before)) (spanFrom (place before)) cur := by
  have hlast := before_place hne hline hlen
  rw [← h.position_eq] at hlast
  unfold Agrees
  rw [spanFrom_apply, spanFrom, bind_of_ok (here_apply cur), hlast]
  rfl

/-- A token can be spanned wherever its cursor lands behind a literal within a line. -/
theorem agrees_spanned {kind : String → Token.Kind} {t : Token} {x : StepIn CheckedError String}
    {y : Step String} (hx : Agrees x y cur) (hne : literal ≠ [])
    (hline : ∀ c ∈ literal, c ≠ '\n') (hlen : (before ++ literal).length < 2 ^ 32 - 1)
    (hland : Lands t origin (before ++ literal) ending rest ((do
      let literal ← y
      return ⟨kind literal, literal, ← spanFrom (place before)⟩ : Step Token) cur)) :
    Agrees (do
      let literal ← x
      return ⟨kind literal, literal, ← spanFrom (place before)⟩ : StepIn CheckedError Token) (do
      let literal ← y
      return ⟨kind literal, literal, ← spanFrom (place before)⟩ : Step Token) cur := by
  apply Agrees.bind hx
  intro taken cur' hy
  rw [bind_of_ok hy, bind_of_ok (spanFrom_apply (place before) cur')] at hland
  cases hland with
  | faces h =>
    apply Agrees.bind (agrees_spanFrom hne hline hlen h)
    intro span cur'' _
    exact agrees_pure _ _

/-! ### Tokens -/

/-- A text that is short enough is so up to the end of a literal in it. -/
theorem length_lt_of_split (hcs : cs = literal ++ rest)
    (hlen : (before ++ cs).length < 2 ^ 32 - 1) :
    (before ++ literal).length < 2 ^ 32 - 1 := by
  rw [hcs, ← List.append_assoc, List.length_append] at hlen
  exact Nat.lt_of_le_of_lt (Nat.le_add_right _ _) hlen

theorem agrees_word (hrun : MaximalRun WordChar cs literal rest) (hne : literal ≠ [])
    (h : Faces origin before ending cs cur) (hlen : (before ++ cs).length < 2 ^ 32 - 1) :
    Agrees (word (place before)) (word (place before)) cur := by
  have hline : ∀ c ∈ literal, c ≠ '\n' := by
    rintro c hc rfl
    exact absurd (hrun.all _ hc) (by decide)
  have hshort := length_lt_of_split hrun.split hlen
  exact agrees_spanned (agrees_run _ h hlen) hne hline hshort (lands_word hrun hne h)

theorem agrees_single (h : Faces origin before ending (c :: cs) cur)
    (hlen : (before ++ c :: cs).length < 2 ^ 32 - 1) (kind : Token.Kind) (first : Position) :
    Agrees (single kind c first) (single kind c first) cur := by
  apply Agrees.bind_advance (holds_of_faces h) hlen
  intro cur' _
  exact agrees_pure _ _

/-- A numeral can be taken from its first digit on, with a radix if the letter comes next. -/
theorem agrees_digits {d : Char} {n : Numeral} (h : Holds origin before ending d cs cur)
    (hd : Digit d) (hn : ∀ r, n = .based r → cs.head? = some r.letter)
    (hlen : (before ++ d :: cs).length < 2 ^ 32 - 1) : Agrees (digits n) (digits n) cur := by
  cases n with
  | decimal => exact agrees_run_of_holds h (isDecimalChar_iff.mpr (.inl hd)) hlen
  | based r =>
    obtain ⟨cs, rfl⟩ := List.head?_eq_some_iff.mp (hn r rfl)
    apply Agrees.bind_advance h hlen
    intro cur₁ h₁
    rw [List.append_cons] at hlen
    apply Agrees.bind_advance (holds_of_faces h₁) hlen
    intro cur₂ h₂
    rw [List.append_cons] at hlen
    apply Agrees.bind (agrees_run _ h₂ hlen)
    intro taken cur₃ _
    exact agrees_pure _ _

/-- A shape is that of the character after a zero, and leaves the cursor where it was. -/
theorem shape_of_faces {d : Char} {n : Numeral} {cur' : Cursor}
    (h : Faces origin before ending (d :: cs) cur) (hshape : shape d cur = (.ok n, cur')) :
    Holds origin before ending d cs cur' ∧ ∀ r, n = .based r → cs.head? = some r.letter := by
  by_cases hd : d = '0'
  · subst hd
    rcases peek_of_faces h with ⟨hpeek, hadv⟩ | ⟨e, cur'', -, -, -, hpeek⟩
    · rw [shape, if_pos rfl, bind_of_ok hpeek] at hshape
      cases hafter : Numeral.afterZero cs.head? with
      | error letter =>
        rw [hafter] at hshape
        cases hshape
      | ok m =>
        rw [hafter] at hshape
        cases hshape
        exact ⟨holds_peeked h hadv, fun r hr => letter_of_afterZero (hr ▸ hafter)⟩
    · rw [shape_of_peek_error hpeek] at hshape
      cases hshape
  · rw [shape_of_ne hd] at hshape
    cases hshape
    refine ⟨holds_of_faces h, ?_⟩
    rintro r ⟨⟩

/-- A numeral can be taken where its token lands behind a literal within a line. -/
theorem agrees_numeral {d : Char} {t : Token} (hd : Digit d)
    (h : Faces origin before ending (d :: cs) cur) (hne : literal ≠ [])
    (hline : ∀ c ∈ literal, c ≠ '\n') (hcs : d :: cs = literal ++ rest)
    (hlen : (before ++ d :: cs).length < 2 ^ 32 - 1)
    (hland : Lands t origin (before ++ literal) ending rest
      (numeral d (place before) cur)) :
    Agrees (numeral d (place before)) (numeral d (place before)) cur := by
  apply Agrees.bind (agrees_shape _ _)
  intro n cur' hshape
  obtain ⟨hholds, hn⟩ := shape_of_faces h hshape
  rw [numeral, bind_of_ok hshape] at hland
  have hshort := length_lt_of_split hcs hlen
  exact agrees_spanned (agrees_digits hholds hd hn hlen) hne hline hshort hland

/-- A numeral is refused by its shape. -/
theorem agrees_numeral_of_badZero {letter : Char} (h : Faces origin before ending (c :: cs) cur)
    (hbad : BadZero (c :: cs) letter) (first : Position) :
    Agrees (numeral c first) (numeral c first) cur := by
  cases hbad with
  | mk hletter hradix =>
    obtain ⟨cur', -, hshape⟩ := shape_of_badZero hletter hradix h
    apply Agrees.bind (agrees_shape _ _)
    intro n cur'' hok
    rw [hshape] at hok
    cases hok

/-- Whichever token `c` begins, it can be taken if a token of this class can. -/
theorem agrees_tokenFrom_of_class {first : Position}
    (hsingle : ∀ kind, Agrees (single kind c first) (single kind c first) cur)
    (hword : WordChar c → Agrees (word first) (word first) cur)
    (hnumeral : Digit c → Agrees (numeral c first) (numeral c first) cur) :
    Agrees (tokenFrom c first) (tokenFrom c first) cur := by
  unfold tokenFrom
  cases Token.Kind.ofChar? c with
  | some kind => exact hsingle kind
  | none =>
    by_cases hw : isWordChar c = true
    · simpa only [if_pos hw] using hword (isWordChar_iff.mp hw)
    by_cases hd : c.isDigit = true
    · simpa only [if_neg hw, if_pos hd] using hnumeral (isDigit_iff.mp hd)
    · simpa only [if_neg hw, if_neg hd] using hsingle .unknown

theorem agrees_tokenFrom (h : Faces origin before ending (c :: cs) cur)
    (hlen : (before ++ c :: cs).length < 2 ^ 32 - 1) :
    Agrees (tokenFrom c (place before)) (tokenFrom c (place before)) cur := by
  apply agrees_tokenFrom_of_class
  · intro kind
    exact agrees_single h hlen kind _
  · intro hword
    obtain ⟨literal, rest, hrun⟩ := exists_maximalRun WordChar (c :: cs)
    obtain ⟨tail, rfl, -⟩ := hrun.exists_cons hword
    exact agrees_word hrun (List.cons_ne_nil _ _) h hlen
  · intro hdigit
    have hblank : ¬ Blank c := fun hblank => hblank.not_decimalChar (.inl hdigit)
    rcases exists_lexeme hblank cs with ⟨kind, literal, rest, hlex⟩ | ⟨letter, hbad⟩
    · have hland := lands_tokenFrom hlex h
      rw [tokenFrom_digit hdigit] at hland
      exact agrees_numeral hdigit h hlex.ne_nil hlex.ne_newline hlex.split hlen hland
    · exact agrees_numeral_of_badZero h hbad _

theorem agrees_skipBlanks (h : Faces origin before ending cs cur)
    (hlen : (before ++ cs).length < 2 ^ 32 - 1) : Agrees skipBlanks skipBlanks cur := by
  apply Agrees.bind (agrees_run _ h hlen)
  intro blanks cur' _
  exact agrees_pure _ _

/-- A cursor that faces a text short enough can take the next token. -/
theorem agrees_token (h : Faces origin before ending cs cur)
    (hlen : (before ++ cs).length < 2 ^ 32 - 1) : Agrees token token cur := by
  apply Agrees.bind (agrees_skipBlanks h hlen)
  intro _ cur₁ hskip
  apply Agrees.bind (agrees_here _)
  rintro _ _ ⟨⟩
  obtain ⟨blanks, text, hrun⟩ := exists_maximalRun Blank cs
  have hland := lands_skipBlanks hrun h
  rw [hskip] at hland
  rw [hrun.split, ← List.append_assoc] at hlen
  cases hland with
  | faces h' =>
    cases text with
    | nil =>
      rw [h'.held_eq]
      exact agrees_pure _ _
    | cons c text =>
      rw [h'.held_eq, h'.position_eq]
      exact agrees_tokenFrom h' hlen

/-- Nothing is counted where no character is left. -/
theorem agrees_token_of_held_none (hheld : cur.held = none) : Agrees token token cur := by
  have hstop : ∀ c, cur.held = some c → isBlank c = false := by
    intro c hc
    rw [hheld] at hc
    cases hc
  have hskip : Agrees skipBlanks skipBlanks cur :=
    .bind (agrees_of_stop hstop "") fun _ _ _ => agrees_pure _ _
  apply Agrees.bind hskip
  intro _ cur' hcur'
  rw [skipBlanks_of_held_none hheld] at hcur'
  cases hcur'
  apply Agrees.bind (agrees_here _)
  rintro _ _ ⟨⟩
  rw [hheld]
  exact agrees_pure _ _

end

end Cursor

end MonkeyTokens
