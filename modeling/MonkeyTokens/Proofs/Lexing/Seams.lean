import MonkeyTokens.Proofs.Lexing.MaximalMunch

/-!
Texts put together.

A blank ends every lexeme, and so does the end of the text: what follows a lexeme is
`Separated` from it, and then the lexeme is the same whatever it is put before
(`Lexeme.separated`). So a text that is cut without a bad zero is cut in the same way where
another text follows it, as long as a blank stands at the seam (`Lexes.join`). The blanks at
the end of the first text belong to the first piece of the second; where the tokens stand
is not changed by that (`Lexes.lead`). Both texts have the tokens that they have alone, those of
the second behind all of the first (`Lexes.seam`, `tokenize_seam_of_clean`).

`lexes_of_tokenize_ok` and `lexes_of_tokenize_error` say what a text that is tokenized, or
refused, is cut into.
-/

namespace MonkeyTokens

namespace Lexing

/-! ### Lexemes that something follows -/

/-- Nothing follows, or a blank does. -/
def Separated (behind : List Char) : Prop := ∀ c, behind.head? = some c → Blank c

theorem separated_of_blank {behind : List Char} (h : ∀ c ∈ behind, Blank c) :
    Separated behind := by
  intro c hc
  exact h c (List.mem_of_head? hc)

/-- Blanks, if there are any, separate from whatever comes after them. -/
theorem separated_append {blanks behind : List Char} (hblank : ∀ c ∈ blanks, Blank c)
    (h : blanks = [] → Separated behind) : Separated (blanks ++ behind) := by
  cases blanks with
  | nil => exact h rfl
  | cons b blanks =>
    rintro c hc
    obtain rfl : b = c := by simpa using hc
    exact hblank b (List.mem_cons_self ..)

theorem DecimalChar.not_letter {c : Char} (h : DecimalChar c) : ¬ Letter c := by
  intro hletter
  rcases h with hdigit | rfl
  · exact hdigit.not_wordChar (.inl hletter)
  · exact absurd hletter (by decide)

theorem Blank.not_letter {c : Char} (h : Blank c) : ¬ Letter c := by
  intro hletter
  exact h.not_wordChar (.inl hletter)

/-- A run of a class without blanks ends where a blank follows. -/
theorem maximalRun_separated {p : Char → Prop} {run behind : List Char} (hall : ∀ c ∈ run, p c)
    (hblank : ∀ c, Blank c → ¬ p c) (h : Separated behind) :
    MaximalRun p (run ++ behind) run behind :=
  ⟨rfl, hall, fun c hc => hblank c (h c hc)⟩

/-- A lexeme is the same in front of a blank as it is anywhere else. -/
theorem Lexeme.separated {cs literal rest behind : List Char} {kind : Token.Kind}
    (h : Lexeme cs kind literal rest) (hsep : Separated behind) :
    Lexeme (literal ++ behind) kind literal behind := by
  cases h with
  | mark => exact .mark
  | keyword hrun =>
    exact .keyword (maximalRun_separated hrun.all (fun _ => Blank.not_wordChar) hsep)
  | identifier hrun hne hk =>
    exact .identifier (maximalRun_separated hrun.all (fun _ => Blank.not_wordChar) hsep) hne hk
  | @based r _ _ _ hrun =>
    exact .based (maximalRun_separated hrun.all (fun _ h => h.not_radixChar r) hsep)
  | decimal hd _ hrun =>
    have hrun' := maximalRun_separated hrun.all (fun _ => Blank.not_decimalChar) hsep
    obtain ⟨tail, rfl, htail⟩ := hrun.exists_cons (.inl hd)
    refine .decimal hd ?_ hrun'
    -- Neither a digit of the numeral nor the blank behind it is a letter.
    rintro - c hc
    cases tail with
    | nil => exact (hsep c hc).not_letter
    | cons e tail =>
      obtain rfl : e = c := by simpa using hc
      exact (htail.all e (List.mem_cons_self ..)).not_letter
  | unknown h₁ h₂ h₃ h₄ => exact .unknown h₁ h₂ h₃ h₄

/-- A lexeme is not changed by text that is put behind it and separated from it. -/
theorem Lexeme.append_separated {cs literal rest more : List Char} {kind : Token.Kind}
    (h : Lexeme cs kind literal rest) (hsep : rest = [] → Separated more) :
    Lexeme (cs ++ more) kind literal (rest ++ more) := by
  by_cases hne : rest = []
  · subst hne
    rw [h.split, List.append_nil, List.nil_append]
    exact h.separated (hsep rfl)
  · exact h.append hne more

/-! ### Texts that something follows -/

/-- What is left of a text that is cut without a bad zero is blank. -/
theorem Lexes.blank_of_clean {cs blanks : List Char} {ps : List Piece}
    (h : Lexes cs ps (.clean blanks)) : ∀ c ∈ blanks, Blank c := by
  generalize hstop : Stop.clean blanks = stop at h
  induction h with
  | clean hblank =>
    cases hstop
    exact hblank
  | refused => cases hstop
  | piece _ _ _ ih => exact ih hstop

/-- Where a blank stands at the seam, two texts are cut one after the other. -/
theorem Lexes.join {a b blanks : List Char} {ps qs : List Piece} {stop : Stop}
    (ha : Lexes a ps (.clean blanks)) (hb : Lexes (blanks ++ b) qs stop)
    (hsep : blanks = [] → Separated b) : Lexes (a ++ b) (ps ++ qs) stop := by
  generalize hstop : Stop.clean blanks = stop' at ha
  induction ha with
  | clean =>
    cases hstop
    exact hb
  | refused => cases hstop
  | @piece cs blanks' text literal rest kind ps stop'' hrun hlex hrest ih =>
    have htext : text ≠ [] := by
      rw [hlex.split]
      simp [hlex.ne_nil]
    have hbehind : rest = [] → Separated b := by
      rintro rfl
      obtain ⟨-, hclean⟩ := hrest.of_nil
      rw [← hstop] at hclean
      exact hsep (Stop.clean.inj hclean)
    exact .piece (hrun.append htext b) (hlex.append_separated hbehind) (ih hstop)

/-- Blanks behind a text belong to what is left of it. -/
theorem Lexes.trail {cs blanks more : List Char} {ps : List Piece}
    (h : Lexes cs ps (.clean blanks)) (hmore : ∀ c ∈ more, Blank c) :
    Lexes (cs ++ more) ps (.clean (blanks ++ more)) := by
  have hall : ∀ c ∈ blanks ++ more, Blank c :=
    List.forall_mem_append.mpr ⟨h.blank_of_clean, hmore⟩
  have hjoin := h.join (.clean hall) fun _ => separated_of_blank hmore
  rwa [List.append_nil] at hjoin

/-- A blank at the end of a text is behind its last piece. -/
theorem Lexes.blanks_ne_nil {cs blanks : List Char} {ps : List Piece} {c : Char}
    (h : Lexes cs ps (.clean blanks)) (hlast : cs.getLast? = some c) (hc : Blank c) :
    blanks ≠ [] := by
  generalize hstop : Stop.clean blanks = stop at h
  induction h with
  | clean =>
    cases hstop
    rintro rfl
    cases hlast
  | refused => cases hstop
  | @piece cs blanks' text literal rest kind ps stop hrun hlex _ ih =>
    rw [hrun.split, hlex.split, ← List.append_assoc] at hlast
    by_cases hrest : rest = []
    · -- The blank would be the last character of the lexeme.
      rw [hrest, List.append_nil, List.getLast?_append_of_ne_nil _ hlex.ne_nil] at hlast
      exact absurd hc (hlex.not_blank c (List.mem_of_getLast? hlast))
    · rw [List.getLast?_append_of_ne_nil _ hrest] at hlast
      exact ih hlast hstop

theorem MaximalRun.lead {blanks cs run rest : List Char} (hblank : ∀ c ∈ blanks, Blank c)
    (h : MaximalRun Blank cs run rest) :
    MaximalRun Blank (blanks ++ cs) (blanks ++ run) rest := by
  have hall : ∀ c ∈ blanks ++ run, Blank c := List.forall_mem_append.mpr ⟨hblank, h.all⟩
  exact ⟨by rw [h.split, List.append_assoc], hall, h.stops⟩

/-- Blanks in front of a text change nothing but where its tokens stand. -/
theorem Lexes.lead {blanks cs : List Char} {ps : List Piece} {stop : Stop}
    (hblank : ∀ c ∈ blanks, Blank c) (h : Lexes cs ps stop) :
    ∃ qs stop', Lexes (blanks ++ cs) qs stop' ∧ ∀ before,
      tokensFrom before qs = tokensFrom (before ++ blanks) ps ∧
      ∀ ending, lastItem (before ++ textOf qs) ending stop' =
        lastItem (before ++ blanks ++ textOf ps) ending stop := by
  cases h with
  | clean hcs =>
    have hall : ∀ c ∈ blanks ++ cs, Blank c := List.forall_mem_append.mpr ⟨hblank, hcs⟩
    refine ⟨[], _, .clean hall, ?_⟩
    intro before
    refine ⟨rfl, ?_⟩
    intro ending
    cases ending <;> simp [lastItem]
  | refused hrun hletter hradix =>
    refine ⟨[], _, .refused (hrun.lead hblank) hletter hradix, ?_⟩
    intro before
    refine ⟨rfl, ?_⟩
    intro ending
    cases ending <;> simp [lastItem]
  | piece hrun hlex hrest =>
    refine ⟨_, _, .piece (hrun.lead hblank) hlex hrest, ?_⟩
    intro before
    constructor
    · simp [tokensFrom]
    · intro ending
      simp

/-- Where a blank stands at the seam, two texts have the tokens that they have alone. Those of
the second stand behind all of the first, and so does what ends it. -/
theorem Lexes.seam {a b blanks : List Char} {ps qs : List Piece} {stop : Stop}
    (ha : Lexes a ps (.clean blanks)) (hb : Lexes b qs stop) (hsep : blanks = [] → Separated b) :
    ∃ rs stop', Lexes (a ++ b) rs stop' ∧
      tokensFrom [] rs = tokensFrom [] ps ++ tokensFrom a qs ∧
      ∀ ending, lastItem (textOf rs) ending stop' = lastItem (a ++ textOf qs) ending stop := by
  have htext : a = textOf ps ++ blanks := ha.text_eq
  obtain ⟨rs, stop', hlexes, hsame⟩ := hb.lead ha.blank_of_clean
  obtain ⟨htokens, hlast⟩ := hsame (textOf ps)
  rw [← htext] at htokens hlast
  refine ⟨ps ++ rs, stop', ha.join hlexes hsep, ?_, ?_⟩
  · rw [tokensFrom_append, List.nil_append, htokens]
  · intro ending
    rw [textOf_append, hlast]

end Lexing

open Lexing

/-! ### What two texts are tokenized into -/

section

variable {a b : String} {blanks : List Char} {ps qs : List Piece}

/-- The items of two texts with a blank at the seam. -/
theorem items_seam {stop : Stop} (ha : Lexes a.toList ps (.clean blanks))
    (hb : Lexes b.toList qs stop) (hsep : blanks = [] → Separated b.toList) :
    (Scanner.ofString (a ++ b)).items = (tokensFrom [] ps ++ tokensFrom a.toList qs).map .ok ++
      [lastItem (a.toList ++ textOf qs) .endOfInput stop] := by
  obtain ⟨rs, stop', hlexes, htokens, hlast⟩ := ha.seam hb hsep
  rw [← String.toList_append] at hlexes
  rw [items_ofString hlexes, htokens, hlast]

theorem tokenize_seam_of_clean {blanks' : List Char} (ha : Lexes a.toList ps (.clean blanks))
    (hb : Lexes b.toList qs (.clean blanks')) (hsep : blanks = [] → Separated b.toList) :
    tokenize (a ++ b) = .ok (tokensFrom [] ps ++ (tokensFrom a.toList qs ++
      [.endOfFile (place (a.toList ++ b.toList))])) := by
  have htext : b.toList = textOf qs ++ blanks' := hb.text_eq
  have hlast : lastItem (a.toList ++ textOf qs) .endOfInput (.clean blanks') =
      .ok (.endOfFile (place (a.toList ++ b.toList))) := by
    rw [lastItem, htext, List.append_assoc]
  rw [tokenize, items_seam ha hb hsep, hlast, ← List.append_assoc, ← mapM_id_ok]
  simp only [List.map_append, List.map_cons, List.map_nil]

end

/-! ### What is tokenized and what is refused -/

theorem lexes_of_tokenize_ok {s : String} {ts : List Token} (h : tokenize s = .ok ts) :
    ∃ ps blanks, Lexes s.toList ps (.clean blanks) ∧
      ts = tokensFrom [] ps ++ [.endOfFile (place s.toList)] := by
  obtain ⟨ps, stop, hlexes⟩ := exists_lexes s.toList
  cases stop with
  | clean blanks =>
    rw [tokenize_of_clean hlexes] at h
    exact ⟨ps, blanks, hlexes, (Except.ok.inj h).symm⟩
  | refused blanks letter rest =>
    rw [tokenize_of_refused hlexes] at h
    cases h

theorem lexes_of_tokenize_error {s : String} {e : ScanError} (h : tokenize s = .error e) :
    ∃ ps blanks letter rest, Lexes s.toList ps (.refused blanks letter rest) ∧
      e = ⟨.unknownRadix letter, place (textOf ps ++ blanks ++ ['0'])⟩ := by
  obtain ⟨ps, stop, hlexes⟩ := exists_lexes s.toList
  cases stop with
  | clean blanks =>
    rw [tokenize_of_clean hlexes] at h
    cases h
  | refused blanks letter rest =>
    rw [tokenize_of_refused hlexes] at h
    exact ⟨ps, blanks, letter, rest, hlexes, (Except.error.inj h).symm⟩

/-- The tokens of a text without the one at its end. -/
def withoutEnd (ts : List Token) : List Token := ts.filter fun t => !t.isEndOfFile

theorem withoutEnd_append (ts us : List Token) :
    withoutEnd (ts ++ us) = withoutEnd ts ++ withoutEnd us := List.filter_append ..

/-- None of the tokens of pieces is the one at the end. -/
theorem withoutEnd_of_lexes {cs : List Char} {ps : List Piece} {stop : Stop}
    (h : Lexes cs ps stop) (before : List Char) :
    withoutEnd (tokensFrom before ps) = tokensFrom before ps := by
  refine List.filter_eq_self.mpr ?_
  intro t ht
  rw [isEndOfFile_tokensFrom h before t ht]
  rfl

theorem withoutEnd_tokensFrom {cs : List Char} {ps : List Piece} {stop : Stop}
    (h : Lexes cs ps stop) (before : List Char) (p : Position) :
    withoutEnd (tokensFrom before ps ++ [.endOfFile p]) = tokensFrom before ps := by
  rw [withoutEnd_append, withoutEnd_of_lexes h]
  exact List.append_nil _

end MonkeyTokens
