import MonkeyTokens.Proofs.Lexing.Scan

/-!
Tokenizing is maximal-munch lexing.

The pieces that a text is cut into determine what `tokenize` makes of it: the tokens
of the pieces and the end of the text, or the letter after a bad zero. Since every text
can be cut, `tokenize` and the grammar agree on all texts; the main statement is
`tokenize_maximal_munch`.
-/

namespace MonkeyTokens

open ByteStream Lexing

theorem mapM_id_ok (ts : List Token) :
    (ts.map Except.ok : List Scanner.Item).mapM id = .ok ts := by
  induction ts with
  | nil => rfl
  | cons t ts ih =>
    rw [List.map_cons, List.mapM_cons, ih]
    rfl

theorem mapM_id_error (ts : List Token) (e : ScanError) :
    (ts.map Except.ok ++ [.error e] : List Scanner.Item).mapM id = .error e := by
  induction ts with
  | nil => rfl
  | cons t ts ih =>
    rw [List.map_cons, List.cons_append, List.mapM_cons, ih]
    rfl

/-- The items of the scanner of a text. -/
theorem items_ofString {s : String} {ps : List Piece} {stop : Stop}
    (h : Lexes s.toList ps stop) : (Scanner.ofString s).items =
      (tokensFrom [] ps).map .ok ++ [lastItem (textOf ps) .endOfInput stop] := by
  have hsupply : Supplies (answers [.bytes (Utf8.encode s.toList)]) s.toList .endOfInput :=
    supplies_encode .usedUp s.toList
  exact Scanner.items_ofStream hsupply h

theorem tokenize_of_clean {s : String} {ps : List Piece} {blanks : List Char}
    (h : Lexes s.toList ps (.clean blanks)) :
    tokenize s = .ok (tokensFrom [] ps ++ [.endOfFile (place s.toList)]) := by
  have htext : s.toList = textOf ps ++ blanks := h.text_eq
  rw [tokenize, items_ofString h, lastItem, ← htext, ← mapM_id_ok, List.map_append]
  rfl

theorem tokenize_of_refused {s : String} {ps : List Piece} {blanks rest : List Char}
    {letter : Char} (h : Lexes s.toList ps (.refused blanks letter rest)) :
    tokenize s = .error ⟨.unknownRadix letter, place (textOf ps ++ blanks ++ ['0'])⟩ := by
  rw [tokenize, items_ofString h]
  exact mapM_id_error _ _

theorem map_tokensFrom (before : List Char) (ps : List Piece) :
    (tokensFrom before ps).map (fun t => (t.kind, t.literal)) =
      ps.map fun p => (p.kind, String.ofList p.literal) := by
  induction ps generalizing before with
  | nil => rfl
  | cons p ps ih => simp [tokensFrom, locate, ih]

/-- **Tokenizing is maximal-munch lexing.** Every text can be cut into pieces, and its
tokens are then those of the pieces, in kind and text, and the end of the text. Where the
cutting stops at a zero with a letter that names no radix, the text is refused with this
letter and the place where it stands, so that a text is accepted exactly if no lexeme
begins with such a zero. -/
theorem tokenize_maximal_munch (s : String) (hlen : s.length < 2 ^ 32 - 1) :
    (∃ ps stop, Lexes s.toList ps stop) ∧
      (∀ ps blanks, Lexes s.toList ps (.clean blanks) →
        ∃ ts, tokenize s = .ok ts ∧ ts.map (fun t => (t.kind, t.literal)) =
          ps.map (fun p => (p.kind, String.ofList p.literal)) ++ [(.endOfFile, "")]) ∧
      (∀ ps blanks letter rest, Lexes s.toList ps (.refused blanks letter rest) →
        ∃ before position, s.toList = before ++ letter :: rest ∧
          before = textOf ps ++ blanks ++ ['0'] ∧
          tokenize s = .error ⟨.unknownRadix letter, position⟩ ∧ position.Counts before) ∧
      ((∃ ts, tokenize s = .ok ts) ↔
        ∀ text letter, Starts s.toList text → ¬ BadZero text letter) := by
  refine ⟨exists_lexes s.toList, ?_, ?_, ?_⟩
  · intro ps blanks h
    refine ⟨_, tokenize_of_clean h, ?_⟩
    rw [List.map_append, map_tokensFrom]
    rfl
  · intro ps blanks letter rest h
    have htext : s.toList = textOf ps ++ blanks ++ ['0'] ++ letter :: rest := by
      rw [h.text_eq]
      simp [Stop.text]
    have hshort : (textOf ps ++ blanks ++ ['0']).length < 2 ^ 32 - 1 := by
      rw [← String.length_toList, htext, List.length_append] at hlen
      omega
    exact ⟨_, _, htext, rfl, tokenize_of_refused h, counts_place hshort⟩
  · constructor
    · rintro ⟨ts, hts⟩ text letter hstarts hbad
      obtain ⟨ps, blanks, rest, h⟩ := hstarts.lexes hbad
      rw [tokenize_of_refused h] at hts
      cases hts
    · intro hgood
      obtain ⟨ps, stop, h⟩ := exists_lexes s.toList
      cases stop with
      | clean blanks => exact ⟨_, tokenize_of_clean h⟩
      | refused blanks letter rest =>
        obtain ⟨text, hstarts, hbad⟩ := h.starts
        exact absurd hbad (hgood text letter hstarts)

/-- A binary numeral without digits, a decimal numeral and a name, glued together. -/
theorem tokenize_maximal_munch_glued :
    "0b20q".length < 2 ^ 32 - 1 ∧ ∃ ts, tokenize "0b20q" = .ok ts ∧
      ts.map (fun t => (t.kind, t.literal)) =
        [(.integer, "0b"), (.integer, "20"), (.identifier, "q"), (.endOfFile, "")] := by
  have hlexes : Lexes "0b20q".toList
      [⟨[], .integer, ['0', 'b']⟩, ⟨[], .integer, ['2', '0']⟩, ⟨[], .identifier, ['q']⟩]
      (.clean []) := by
    have hbinary : Lexeme ['0', 'b', '2', '0', 'q'] .integer ['0', 'b'] ['2', '0', 'q'] :=
      .based (r := .binary) (by decide)
    have hdecimal : Lexeme ['2', '0', 'q'] .integer ['2', '0'] ['q'] :=
      .decimal (by decide) (by decide) (by decide)
    have hname : Lexeme ['q'] .identifier ['q'] [] :=
      .identifier (by decide) (by simp) (by intro k; cases k <;> decide)
    refine .piece (by decide) hbinary ?_
    refine .piece (by decide) hdecimal ?_
    exact .piece (by decide) hname (.clean (by simp))
  have hlen : "0b20q".length < 2 ^ 32 - 1 := by decide
  exact ⟨hlen, (tokenize_maximal_munch "0b20q" hlen).2.1 _ _ hlexes⟩

end MonkeyTokens
