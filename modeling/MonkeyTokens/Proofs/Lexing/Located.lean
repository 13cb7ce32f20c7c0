import MonkeyTokens.Proofs.Lexing.Landing

/-!
The token of a lexeme.

`locate` gives the token of a lexeme that stands behind a text. A cursor that faces a
lexeme reads just this token and lands behind it (`lands_tokenFrom`), whichever kind of
lexeme it is; a cursor that faces a bad zero reports the letter where it stands
(`tokenFrom_of_badZero`). The look at the character after a zero is the one place where
the decoder is ahead of the cursor: `peek_of_faces` says that it changes nothing for a
cursor that moves on.
-/

namespace MonkeyTokens

open Lexing

/-- The token of a lexeme that stands behind the text `before`. -/
def locate (kind : Token.Kind) (literal before : List Char) : Token :=
  ⟨kind, String.ofList literal, ⟨place before, place (before ++ literal.dropLast)⟩⟩

theorem ofChar_eq_locate (kind : Token.Kind) (c : Char) (before : List Char) :
    Token.ofChar kind c (place before) = locate kind [c] before := by
  rw [locate, ← String.singleton_eq_ofList, List.dropLast_singleton, List.append_nil]
  rfl

theorem isEndOfFile_locate {kind : Token.Kind} (h : kind ≠ .endOfFile)
    (literal before : List Char) : (locate kind literal before).isEndOfFile = false := by
  simpa [Token.isEndOfFile, locate] using h

theorem counts_first_locate {before : List Char} (h : before.length < 2 ^ 32 - 1)
    (kind : Token.Kind) (literal : List Char) :
    (locate kind literal before).span.first.Counts before := counts_place h

theorem counts_last_locate {literal before : List Char}
    (h : (before ++ literal).length < 2 ^ 32 - 1) (kind : Token.Kind) :
    (locate kind literal before).span.last.Counts (before ++ literal.dropLast) := by
  apply counts_place
  rw [List.length_append] at h ⊢
  rw [List.length_dropLast]
  omega

/-- A token of a literal within a line ends on the line on which it begins, and has a column for
each character. -/
theorem along_locate {literal before : List Char} (hline : ∀ c ∈ literal, c ≠ '\n')
    (hlen : (before ++ literal).length < 2 ^ 32 - 1) (kind : Token.Kind) :
    let span := (locate kind literal before).span
    span.last.line = span.first.line ∧
      span.last.column.toNat = span.first.column.toNat + (literal.length - 1) := by
  have hshort : before.length < 2 ^ 32 - 1 := by
    rw [List.length_append] at hlen
    omega
  have hinit : ∀ c ∈ literal.dropLast, c ≠ '\n' := by
    intro c hc
    exact hline c (List.dropLast_subset _ hc)
  have hfirst := counts_first_locate hshort kind literal
  have halong := hfirst.along (counts_last_locate hlen kind) hinit
  rwa [List.length_dropLast] at halong

namespace Cursor

open ByteStream

variable {origin : Decoder} {before cs rest literal : List Char} {ending : Ending} {cur : Cursor}

/-- What is read from the first character of a run within a line to the cursor behind it
is spanned from the first character to the last. -/
theorem spanFrom_of_faces (hne : literal ≠ []) (hline : ∀ c ∈ literal, c ≠ '\n')
    (h : Faces origin (before ++ literal) ending rest cur) (first : Position) :
    spanFrom first cur = (.ok ⟨first, place (before ++ literal.dropLast)⟩, cur) := by
  rw [spanFrom_apply, h.position_eq, before_place_append hne hline]

/-! ### Words and single characters -/

theorem lands_single {c : Char} (h : Faces origin before ending (c :: cs) cur) (kind : Token.Kind) :
    Lands (locate kind [c] before) origin (before ++ [c]) ending cs
      (single kind c (place before) cur) := by
  apply (lands_advance h).bind_here
  intro cur' _
  rw [← ofChar_eq_locate]
  rfl

theorem lands_word (hrun : MaximalRun WordChar cs literal rest) (hne : literal ≠ [])
    (h : Faces origin before ending cs cur) :
    Lands (locate (.ofWord (String.ofList literal)) literal before) origin (before ++ literal)
      ending rest (word (place before) cur) := by
  have hline : ∀ c ∈ literal, c ≠ '\n' := by
    rintro c hc rfl
    exact absurd (hrun.all _ hc) (by decide)
  apply (lands_run (fun _ => isWordChar_iff) hrun h).bind_here
  intro cur' h'
  exact bind_of_ok (spanFrom_of_faces hne hline h' _) _

theorem ofWord_keyword (k : Keyword) :
    Token.Kind.ofWord (String.ofList k.spelling.toList) = .keyword k := by
  simp [Token.Kind.ofWord]

theorem ofWord_identifier (h : ∀ k : Keyword, k.spelling.toList ≠ literal) :
    Token.Kind.ofWord (String.ofList literal) = .identifier := by
  unfold Token.Kind.ofWord
  cases hk : Keyword.ofSpelling? (String.ofList literal) with
  | none => rfl
  | some k =>
    rw [ofSpelling?_eq_some_iff] at hk
    exact absurd (by rw [← hk, String.toList_ofList]) (h k)

/-! ### The look after a zero -/

/-- The cursor after a look at the next character. -/
def peeked (cur : Cursor) : Cursor := { cur with decoder := cur.decoder.peek.2 }

/-- A failure after a look at the next character. -/
theorem halted_peeked {c : Char} (h : Faces origin before ending (c :: cs) cur) :
    Halted origin (before ++ [c]) { cur.peeked with held := none } := by
  constructor
  · rfl
  · rw [List.dropLast_concat]
    exact h.position_eq
  · rw [peeked, h.decoder_eq, List.length_append, List.length_singleton]

/-- A look at the next character leaves a cursor that moves on as it would have without
it, or fails where the failure is to come. -/
theorem peek_of_faces {c : Char} (h : Faces origin before ending (c :: cs) cur) :
    (peek cur = (.ok cs.head?, cur.peeked) ∧ advance cur.peeked = advance cur) ∨
      ∃ e cur', cs = [] ∧ ending = .failure e ∧ Halted origin (before ++ [c]) cur' ∧
        peek cur = (.error ⟨.unreadable e, place (before ++ [c])⟩, cur') := by
  have hhalted := halted_peeked h
  cases h with
  | @character s _ _ _ hs =>
    cases hs with
    | endOfInput hd =>
      obtain ⟨s', hnext, -⟩ := nextChar_of_decodes hd
      have hpeek := Decoder.peek_of_nextChar (d := ⟨s, none⟩) rfl hnext
      exact .inl ⟨by simp only [peek, peeked, hpeek]; rfl,
        by simp only [advance_apply, peeked, hpeek, Decoder.read, hnext]⟩
    | failure hd =>
      obtain ⟨s', hread, -⟩ := Decoder.read_of_decodes (d := ⟨s, none⟩) rfl hd
      have hpeek := Decoder.peek_of_read_error hread
      rw [peeked, hpeek] at hhalted
      exact .inr ⟨_, _, rfl, rfl, hhalted, by simp only [peek, hpeek]; rfl⟩
    | character hd _ =>
      obtain ⟨s', hnext, -⟩ := nextChar_of_decodes hd
      have hpeek := Decoder.peek_of_nextChar (d := ⟨s, none⟩) rfl hnext
      exact .inl ⟨by simp only [peek, peeked, hpeek]; rfl,
        by simp only [advance_apply, peeked, hpeek, Decoder.read, hnext]⟩

theorem shape_of_ne {d : Char} (hd : d ≠ '0') (cur : Cursor) :
    shape d cur = (.ok .decimal, cur) := by
  simp [shape, hd]

theorem shape_of_peek {peeked : Option Char} {cur' : Cursor} {n : Numeral}
    (hpeek : peek cur = (.ok peeked, cur')) (hn : Numeral.afterZero peeked = .ok n) :
    shape '0' cur = (.ok n, cur') := by
  rw [shape, if_pos rfl, bind_of_ok hpeek, hn]
  rfl

theorem shape_of_peek_error {cur' : Cursor} {e : ScanError}
    (hpeek : peek cur = (.error e, cur')) : shape '0' cur = (.error e, cur') := by
  rw [shape, if_pos rfl, bind_of_error hpeek]

theorem afterZero_letter (r : Radix) : Numeral.afterZero (some r.letter) = .ok (.based r) := by
  simp [Numeral.afterZero]

theorem ofLetter?_of_ne {c : Char} (h : ∀ r : Radix, c ≠ r.letter) :
    Radix.ofLetter? c = none := by
  rw [Option.eq_none_iff_forall_ne_some]
  intro r hr
  exact h r (ofLetter?_eq_some_iff.mp hr)

theorem letter_of_afterZero {next : Option Char} {r : Radix}
    (h : Numeral.afterZero next = .ok (.based r)) : next = some r.letter := by
  cases next with
  | none => cases h
  | some c =>
    unfold Numeral.afterZero at h
    cases hradix : Radix.ofLetter? c with
    | some r' =>
      simp only [hradix, Except.ok.injEq, Numeral.based.injEq] at h
      rw [ofLetter?_eq_some_iff.mp hradix, h]
    | none =>
      simp only [hradix] at h
      split at h <;> cases h

theorem afterZero_decimal {next : Option Char} (h : ∀ c, next = some c → ¬ Letter c) :
    Numeral.afterZero next = .ok .decimal := by
  cases next with
  | none => rfl
  | some c =>
    have hletter := h c rfl
    have hradix : Radix.ofLetter? c = none := by
      apply ofLetter?_of_ne
      rintro r rfl
      exact hletter (letter_letter r)
    simp only [Numeral.afterZero, hradix]
    rw [if_neg (by rwa [isAlpha_iff])]

theorem afterZero_refused {letter : Char} (h : Letter letter)
    (hradix : ∀ r : Radix, letter ≠ r.letter) :
    Numeral.afterZero (some letter) = .error letter := by
  simp only [Numeral.afterZero, ofLetter?_of_ne hradix]
  rw [if_pos (isAlpha_iff.mpr h)]

/-! ### Numerals -/

/-- A run that begins under the cursor is the same after a look at the next character. -/
theorem run_peeked {p : Char → Bool} {c : Char} (h : cur.held = some c)
    (hadv : advance cur.peeked = advance cur) (hc : p c = true) :
    run p cur.peeked = run p cur := by
  have h' : cur.peeked.held = some c := h
  simp only [run, takeWhile_of_held h hc, takeWhile_of_held h' hc, hadv]

/-- A numeral is the same after the look at its second character. -/
theorem digits_peeked {d : Char} (h : cur.held = some d)
    (hadv : advance cur.peeked = advance cur) (hd : Digit d) (n : Numeral) :
    digits n cur.peeked = digits n cur := by
  cases n with
  | decimal => exact run_peeked h hadv (isDecimalChar_iff.mpr (.inl hd))
  | based r => simp only [digits, bind_apply, hadv]

theorem lands_digits_decimal (hrun : MaximalRun DecimalChar cs literal rest)
    (h : Faces origin before ending cs cur) :
    Lands (String.ofList literal) origin (before ++ literal) ending rest (digits .decimal cur) :=
  lands_run (fun _ => isDecimalChar_iff) hrun h

theorem lands_digits_based {r : Radix} {taken : List Char}
    (hrun : MaximalRun (RadixChar r) cs taken rest)
    (h : Faces origin before ending ('0' :: r.letter :: cs) cur) :
    Lands (String.ofList ('0' :: r.letter :: taken)) origin (before ++ '0' :: r.letter :: taken)
      ending rest (digits (.based r) cur) := by
  have hcs := hrun.split
  have hzero : Lands () origin (before ++ ['0']) ending (r.letter :: taken ++ rest)
      (advance cur) := by
    rw [List.cons_append, ← hcs]
    exact lands_advance h
  rw [List.append_cons]
  apply hzero.bind
  intro cur₁ h₁
  have hletter : Lands () origin (before ++ ['0'] ++ [r.letter]) ending (taken ++ rest)
      (advance cur₁) := lands_advance h₁
  rw [List.append_cons]
  apply hletter.bind
  intro cur₂ h₂
  rw [← hcs] at h₂
  apply (lands_run (fun _ => accepts_iff) hrun h₂).bind_here
  intro cur₃ _
  rw [pure_apply]
  congr 2
  simp [String.ext_iff]

/-- A numeral whose shape is known is spanned from its first digit to its last. -/
theorem lands_numeral {d : Char} {n : Numeral} {cur' : Cursor}
    (hshape : shape d cur = (.ok n, cur')) (hdigits : digits n cur' = digits n cur)
    (hne : literal ≠ []) (hline : ∀ c ∈ literal, c ≠ '\n')
    (h : Lands (String.ofList literal) origin (before ++ literal) ending rest (digits n cur)) :
    Lands (locate .integer literal before) origin (before ++ literal) ending rest
      (numeral d (place before) cur) := by
  have hnumeral : numeral d (place before) cur = (digits n >>= fun literal => do
      return (⟨.integer, literal, ← spanFrom (place before)⟩ : Token)) cur := by
    rw [numeral, bind_of_ok hshape, bind_apply, hdigits, ← bind_apply]
  rw [hnumeral]
  apply h.bind_here
  intro cur'' h''
  exact bind_of_ok (spanFrom_of_faces hne hline h'' _) _

/-! ### Any lexeme -/

theorem lands_numeral_decimal {d : Char} (hd : Digit d)
    (hzero : d = '0' → ∀ c, cs.head? = some c → ¬ Letter c)
    (hlex : Lexeme (d :: cs) .integer literal rest)
    (hrun : MaximalRun DecimalChar (d :: cs) literal rest)
    (h : Faces origin before ending (d :: cs) cur) :
    Lands (locate .integer literal before) origin (before ++ literal) ending rest
      (numeral d (place before) cur) := by
  have hdigits := lands_digits_decimal hrun h
  by_cases hd' : d = '0'
  · subst hd'
    rcases peek_of_faces h with ⟨hpeek, hadv⟩ | ⟨e, cur', rfl, rfl, hhalted, hpeek⟩
    · have hshape := shape_of_peek hpeek (afterZero_decimal (hzero rfl))
      exact lands_numeral hshape (digits_peeked h.held_eq hadv hd _) hlex.ne_nil
        hlex.ne_newline hdigits
    · -- The zero is the last character before the failure.
      obtain ⟨tail, rfl, htail⟩ := hrun.exists_cons (.inl hd)
      obtain ⟨rfl, rfl⟩ := maximalRun_nil htail
      rw [numeral, bind_of_error (shape_of_peek_error hpeek)]
      exact .fails rfl hhalted
  · exact lands_numeral (shape_of_ne hd' cur) rfl hlex.ne_nil hlex.ne_newline hdigits

theorem lands_numeral_based {r : Radix} {taken : List Char}
    (hrun : MaximalRun (RadixChar r) cs taken rest)
    (h : Faces origin before ending ('0' :: r.letter :: cs) cur) :
    Lands (locate .integer ('0' :: r.letter :: taken) before) origin
      (before ++ '0' :: r.letter :: taken) ending rest (numeral '0' (place before) cur) := by
  have hlex := Lexeme.based hrun
  rcases peek_of_faces h with ⟨hpeek, hadv⟩ | ⟨e, cur', hnil, -⟩
  · have hshape := shape_of_peek hpeek (afterZero_letter r)
    exact lands_numeral hshape (digits_peeked h.held_eq hadv digit_zero _) hlex.ne_nil
      hlex.ne_newline (lands_digits_based hrun h)
  · cases hnil

theorem tokenFrom_mark (m : Mark) (first : Position) :
    tokenFrom m.char first = single (.mark m) m.char first := by
  simp only [tokenFrom, Token.Kind.ofChar?, Mark.ofChar?_char, Option.map_some]

theorem tokenFrom_of_not_mark {c : Char} (h : ∀ m : Mark, c ≠ m.char) (first : Position) :
    tokenFrom c first = if isWordChar c then word first
      else if c.isDigit then numeral c first else single .unknown c first := by
  have hnone : Mark.ofChar? c = none := by
    rw [Option.eq_none_iff_forall_ne_some]
    intro m hm
    exact h m (ofChar?_eq_some_iff.mp hm)
  simp only [tokenFrom, Token.Kind.ofChar?, hnone, Option.map_none]

theorem tokenFrom_word {c : Char} (hc : WordChar c) (first : Position) :
    tokenFrom c first = word first := by
  have hmark : ∀ m : Mark, c ≠ m.char := by
    rintro m rfl
    exact not_wordChar_char m hc
  rw [tokenFrom_of_not_mark hmark, if_pos (isWordChar_iff.mpr hc)]

theorem tokenFrom_digit {c : Char} (hc : Digit c) (first : Position) :
    tokenFrom c first = numeral c first := by
  have hmark : ∀ m : Mark, c ≠ m.char := by
    rintro m rfl
    exact not_digit_char m hc
  rw [tokenFrom_of_not_mark hmark, if_neg (by rw [isWordChar_iff]; exact hc.not_wordChar),
    if_pos (isDigit_iff.mpr hc)]

/-- A cursor that faces a lexeme reads its token. -/
theorem lands_tokenFrom {kind : Token.Kind} {c : Char}
    (hlex : Lexeme (c :: cs) kind literal rest) (h : Faces origin before ending (c :: cs) cur) :
    Lands (locate kind literal before) origin (before ++ literal) ending rest
      (tokenFrom c (place before) cur) := by
  have hlex' := hlex
  generalize hcs : c :: cs = text at hlex h
  cases hlex with
  | @mark m _ =>
    obtain ⟨rfl, rfl⟩ := List.cons.inj hcs
    rw [tokenFrom_mark]
    exact lands_single h _
  | @keyword _ _ k hrun =>
    have hne := hlex'.ne_nil
    obtain ⟨d, tail, hd⟩ := List.exists_cons_of_ne_nil hne
    have hc : WordChar c := by
      obtain ⟨rfl, -⟩ := List.cons.inj (hcs.trans (hd ▸ hrun.split))
      exact hrun.all _ (by rw [hd]; exact List.mem_cons_self ..)
    rw [tokenFrom_word hc, ← ofWord_keyword]
    exact lands_word hrun hne h
  | identifier hrun hne hk =>
    obtain ⟨d, tail, rfl⟩ := List.exists_cons_of_ne_nil hne
    have hc : WordChar c := by
      obtain ⟨rfl, -⟩ := List.cons.inj (hcs.trans hrun.split)
      exact hrun.all _ (List.mem_cons_self ..)
    rw [tokenFrom_word hc, ← ofWord_identifier hk]
    exact lands_word hrun hne h
  | based hrun =>
    obtain ⟨rfl, -⟩ := List.cons.inj hcs
    rw [tokenFrom_digit digit_zero]
    exact lands_numeral_based hrun h
  | decimal hd hzero hrun =>
    obtain ⟨rfl, rfl⟩ := List.cons.inj hcs
    rw [tokenFrom_digit hd]
    exact lands_numeral_decimal hd hzero hlex' hrun h
  | unknown hblank hmark hword hdigit =>
    obtain ⟨rfl, rfl⟩ := List.cons.inj hcs
    rw [tokenFrom_of_not_mark hmark, if_neg (by rwa [isWordChar_iff]),
      if_neg (by rwa [isDigit_iff])]
    exact lands_single h _

theorem shape_of_badZero {letter : Char} (hletter : Letter letter)
    (hradix : ∀ r : Radix, letter ≠ r.letter)
    (h : Faces origin before ending ('0' :: letter :: rest) cur) :
    ∃ cur', Halted origin (before ++ ['0']) cur' ∧ shape '0' cur =
      (.error ⟨.unknownRadix letter, place (before ++ ['0'])⟩, cur') := by
  rcases peek_of_faces h with ⟨hpeek, -⟩ | ⟨e, cur', hnil, -⟩
  · have hahead : cur.peeked.ahead = place (before ++ ['0']) := h.ahead_eq
    refine ⟨_, halted_peeked h, ?_⟩
    rw [shape, if_pos rfl, bind_of_ok hpeek]
    simp only [List.head?_cons, afterZero_refused hletter hradix, fail_apply, hahead]
  · cases hnil

/-- A cursor that faces a bad zero reports its letter. -/
theorem tokenFrom_of_badZero {letter : Char} (hletter : Letter letter)
    (hradix : ∀ r : Radix, letter ≠ r.letter)
    (h : Faces origin before ending ('0' :: letter :: rest) cur) :
    ∃ cur', Halted origin (before ++ ['0']) cur' ∧ tokenFrom '0' (place before) cur =
      (.error ⟨.unknownRadix letter, place (before ++ ['0'])⟩, cur') := by
  obtain ⟨cur', hhalted, hshape⟩ := shape_of_badZero hletter hradix h
  refine ⟨cur', hhalted, ?_⟩
  rw [tokenFrom_digit digit_zero, numeral, bind_of_error hshape]

/-! ### Blanks and the next token -/

theorem skipBlanks_of_held_none (h : cur.held = none) : skipBlanks cur = (.ok (), cur) := by
  apply bind_of_ok
  apply takeWhile_of_stop
  intro c hc
  rw [h] at hc
  cases hc

theorem lands_skipBlanks {blanks text : List Char} (hrun : MaximalRun Blank cs blanks text)
    (h : Faces origin before ending cs cur) :
    Lands () origin (before ++ blanks) ending text (skipBlanks cur) := by
  apply (lands_run (fun _ => isBlank_iff) hrun h).bind_here
  intro cur' _
  rfl

/-- A cursor that has only blanks before it reads the end of the text. -/
theorem lands_token_of_blanks (hblank : ∀ c ∈ cs, Blank c) (h : Faces origin before ending cs cur) :
    Lands (.endOfFile (place (before ++ cs))) origin (before ++ cs) ending [] (token cur) := by
  have hrun : MaximalRun Blank cs cs [] := ⟨by simp, hblank, by simp⟩
  apply (lands_skipBlanks hrun h).bind_here
  intro cur' h'
  rw [bind_of_ok (here_apply cur'), h'.held_eq, h'.position_eq]
  rfl

/-- A cursor that faces a lexeme behind blanks reads its token. -/
theorem lands_token {kind : Token.Kind} {blanks text : List Char}
    (hrun : MaximalRun Blank cs blanks text) (hlex : Lexeme text kind literal rest)
    (h : Faces origin before ending cs cur) :
    Lands (locate kind literal (before ++ blanks)) origin (before ++ blanks ++ literal) ending rest
      (token cur) := by
  have hskip := lands_skipBlanks hrun h
  obtain ⟨c, tail, rfl⟩ := List.exists_cons_of_ne_nil hlex.ne_nil
  rw [hlex.split] at hskip
  apply hskip.bind
  intro cur' h'
  rw [bind_of_ok (here_apply cur'), h'.held_eq, h'.position_eq]
  rw [hlex.split] at hlex
  exact lands_tokenFrom hlex h'

/-- A cursor that faces a bad zero behind blanks reports its letter. -/
theorem token_of_badZero {blanks : List Char} {letter : Char}
    (hrun : MaximalRun Blank cs blanks ('0' :: letter :: rest)) (hletter : Letter letter)
    (hradix : ∀ r : Radix, letter ≠ r.letter) (h : Faces origin before ending cs cur) :
    ∃ cur', Halted origin (before ++ blanks ++ ['0']) cur' ∧ token cur =
      (.error ⟨.unknownRadix letter, place (before ++ blanks ++ ['0'])⟩, cur') := by
  have hskip := lands_skipBlanks hrun h
  generalize hr : skipBlanks cur = r at hskip
  cases hskip with
  | faces h' =>
    rw [token, bind_of_ok hr, bind_of_ok (here_apply _), h'.held_eq, h'.position_eq]
    exact tokenFrom_of_badZero hletter hradix h'

end Cursor

end MonkeyTokens
