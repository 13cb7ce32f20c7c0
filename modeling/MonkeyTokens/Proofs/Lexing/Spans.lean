import MonkeyTokens.Proofs.Lexing.MaximalMunch

/-!
Spans are exact and lose nothing.

A text that is tokenized is covered by the literals of its tokens and by the blanks
between them. `Tiling` states this with an index for each token: the literal is found
there, the span counts the characters before its first and its last character, the
ranges follow one another, and the characters outside of them are just the blanks.
`restore` puts the tokens back into the blanks by their spans alone, and yields the
text. The main statement is `tokenize_spans_exact`.
-/

namespace MonkeyTokens

open Lexing

/-- The token is found in the text behind its first `i` characters. -/
structure Token.StandsAt (t : Token) (cs : List Char) (i : Nat) : Prop where
  not_end : t.kind ≠ .endOfFile
  pos : 0 < t.literal.length
  found : (cs.drop i).take t.literal.length = t.literal.toList
  first : t.span.first.Counts (cs.take i)
  last : t.span.last.Counts (cs.take (i + t.literal.length - 1))
  same_line : t.span.first.line = t.span.last.line
  width : t.span.last.column.toNat + 1 = t.span.first.column.toNat + t.literal.length

/-- The tokens, each with its index, cover the text behind its first `skipped`
characters up to the blanks. -/
structure Tiling (skipped : Nat) (cs : List Char) (placed : List (Nat × Token)) : Prop where
  stands : ∀ x ∈ placed, x.2.StandsAt cs x.1
  behind : ∀ x ∈ placed, skipped ≤ x.1
  apart : placed.Pairwise fun x y => x.1 + x.2.literal.length ≤ y.1
  blank_iff : ∀ i c, skipped ≤ i → cs[i]? = some c →
    (Blank c ↔ ∀ x ∈ placed, ¬ (x.1 ≤ i ∧ i < x.1 + x.2.literal.length))

/-- Puts tokens into blanks by their spans: a token is next if it begins at the position
that is reached, and a blank is next if not. -/
def restore (p : Position) : List Char → List Token → List Char
  | blanks, [] => blanks
  | [], t :: ts => t.literal.toList ++ restore (p.afterAll t.literal.toList) [] ts
  | c :: blanks, t :: ts =>
    if t.span.first = p then
      t.literal.toList ++ restore (p.afterAll t.literal.toList) (c :: blanks) ts
    else c :: restore (p.after c) blanks (t :: ts)
termination_by blanks ts => blanks.length + ts.length

/-! ### One token -/

theorem toList_literal_locate (kind : Token.Kind) (literal before : List Char) :
    (locate kind literal before).literal.toList = literal := String.toList_ofList

theorem length_literal_locate (kind : Token.Kind) (literal before : List Char) :
    (locate kind literal before).literal.length = literal.length := by
  rw [← String.length_toList, toList_literal_locate]

/-- A token that is located behind a text is found there. -/
theorem standsAt_locate {kind : Token.Kind} {a literal b : List Char} (hkind : kind ≠ .endOfFile)
    (hne : literal ≠ []) (hline : ∀ c ∈ literal, c ≠ '\n')
    (hlen : (a ++ literal ++ b).length < 2 ^ 32 - 1) :
    (locate kind literal a).StandsAt (a ++ literal ++ b) a.length := by
  have hlength := length_literal_locate kind literal a
  have hpos := List.length_pos_iff.mpr hne
  have htake : (a ++ literal ++ b).take a.length = a := by simp
  have htake_last : (a ++ literal ++ b).take (a.length + literal.length - 1) =
      a ++ literal.dropLast := by
    rw [Nat.add_sub_assoc hpos, List.append_assoc, List.take_length_add_append,
      List.take_append_of_le_length (Nat.sub_le ..), List.dropLast_eq_take]
  have hshort : (a ++ literal).length < 2 ^ 32 - 1 := by
    rw [List.length_append] at hlen
    omega
  have hfirst : (locate kind literal a).span.first.Counts a := by
    apply counts_first_locate
    rw [List.length_append] at hshort
    omega
  have hlast := counts_last_locate hshort kind
  obtain ⟨hsame, hcolumn⟩ := along_locate hline hshort kind
  constructor
  · exact hkind
  · rwa [hlength]
  · rw [hlength, toList_literal_locate]
    simp
  · rw [htake]
    exact hfirst
  · rw [hlength, htake_last]
    exact hlast
  · exact hsame.symm
  · rw [hlength, hcolumn]
    omega

theorem Token.StandsAt.le_length {t : Token} {cs : List Char} {i : Nat} (h : t.StandsAt cs i) :
    i + t.literal.length ≤ cs.length := by
  have hlength := congrArg List.length h.found
  rw [List.length_take, List.length_drop, String.length_toList] at hlength
  have := h.pos
  omega

/-- Where one range follows another, the one span ends before the other begins. -/
theorem Token.StandsAt.lt {t u : Token} {cs : List Char} {i j : Nat} (ht : t.StandsAt cs i)
    (hu : u.StandsAt cs j) (hij : i + t.literal.length ≤ j) : t.span.last < u.span.first := by
  have := ht.pos
  have := hu.pos
  have := hu.le_length
  obtain ⟨n, rfl⟩ : ∃ n, j = i + t.literal.length - 1 + n := Nat.exists_eq_add_of_le (by omega)
  have hfirst := hu.first
  rw [List.take_add] at hfirst
  apply ht.last.lt hfirst
  intro hnil
  have hzero := congrArg List.length hnil
  rw [List.length_take, List.length_drop, List.length_nil] at hzero
  omega

/-! ### All tokens -/

/-- The tokens of pieces that stand behind the text `before`, each with its index. -/
def placedFrom (before : List Char) : List Piece → List (Nat × Token)
  | [] => []
  | p :: ps =>
    ((before ++ p.blanks).length, locate p.kind p.literal (before ++ p.blanks)) ::
      placedFrom (before ++ p.blanks ++ p.literal) ps

theorem map_placedFrom (before : List Char) (ps : List Piece) :
    (placedFrom before ps).map Prod.snd = tokensFrom before ps := by
  induction ps generalizing before with
  | nil => rfl
  | cons p ps ih => rw [placedFrom, tokensFrom, List.map_cons, ih]

/-- A text of blanks is covered without any token. -/
theorem tiling_nil {before blanks : List Char} (hblank : ∀ c ∈ blanks, Blank c) :
    Tiling before.length (before ++ blanks) [] := by
  constructor
  · simp
  · simp
  · simp
  · intro i c hi hc
    rw [List.getElem?_append_right hi] at hc
    simpa using hblank c (List.mem_of_getElem? hc)

/-- A token behind blanks covers the text as far as its last character. -/
theorem Tiling.cons {kind : Token.Kind} {before blanks literal rest : List Char}
    {placed : List (Nat × Token)} (hblank : ∀ c ∈ blanks, Blank c)
    (hnot : ∀ c ∈ literal, ¬ Blank c)
    (hstands : (locate kind literal (before ++ blanks)).StandsAt
      (before ++ blanks ++ literal ++ rest) (before ++ blanks).length)
    (h : Tiling (before ++ blanks ++ literal).length (before ++ blanks ++ literal ++ rest) placed) :
    Tiling before.length (before ++ blanks ++ literal ++ rest)
      (((before ++ blanks).length, locate kind literal (before ++ blanks)) :: placed) := by
  have hlength := length_literal_locate kind literal (before ++ blanks)
  have hbehind := h.behind
  rw [List.length_append] at hbehind
  have hbefore : before.length ≤ (before ++ blanks).length := by simp
  constructor
  · intro x hx
    rcases List.mem_cons.mp hx with rfl | hx
    · exact hstands
    · exact h.stands x hx
  · intro x hx
    rcases List.mem_cons.mp hx with rfl | hx
    · exact hbefore
    · have := hbehind x hx
      omega
  · apply List.pairwise_cons.mpr
    constructor
    · intro x hx
      rw [hlength]
      exact hbehind x hx
    · exact h.apart
  · intro i c hi hc
    rw [List.forall_mem_cons, hlength]
    by_cases hblanks : i < (before ++ blanks).length
    · rw [List.append_assoc, List.getElem?_append_left hblanks, List.getElem?_append_right hi] at hc
      have hc' := hblank c (List.mem_of_getElem? hc)
      refine iff_of_true hc' ⟨by omega, ?_⟩
      intro x hx
      have := hbehind x hx
      omega
    by_cases hliteral : i < (before ++ blanks).length + literal.length
    · rw [List.getElem?_append_left (by rwa [List.length_append]),
        List.getElem?_append_right (Nat.le_of_not_lt hblanks)] at hc
      have hc' := hnot c (List.mem_of_getElem? hc)
      refine iff_of_false hc' ?_
      rintro ⟨hhead, -⟩
      exact hhead ⟨Nat.le_of_not_lt hblanks, hliteral⟩
    · rw [h.blank_iff i c (by rw [List.length_append]; omega) hc]
      constructor
      · intro hrest
        exact ⟨by omega, hrest⟩
      · rintro ⟨-, hrest⟩
        exact hrest

/-- The tokens of the pieces cover the text that is cut. -/
theorem tiling_placedFrom {cs blanks : List Char} {ps : List Piece}
    (h : Lexes cs ps (.clean blanks)) (before : List Char)
    (hlen : (before ++ cs).length < 2 ^ 32 - 1) :
    Tiling before.length (before ++ cs) (placedFrom before ps) := by
  generalize hstop : Stop.clean blanks = stop at h
  induction h generalizing before with
  | clean hblank => exact tiling_nil hblank
  | refused => cases hstop
  | @piece cs blanks text literal rest kind ps stop hrun hlex _ ih =>
    have hcs : before ++ cs = before ++ blanks ++ literal ++ rest := by
      rw [hrun.split, hlex.split]
      simp
    rw [hcs] at hlen ⊢
    have hstands := standsAt_locate hlex.kind_ne hlex.ne_nil hlex.ne_newline hlen
    exact Tiling.cons hrun.all hlex.not_blank hstands (ih _ hlen hstop)

/-! ### The text from its tokens -/

theorem restore_token {t : Token} {p : Position} (h : t.span.first = p) (blanks : List Char)
    (ts : List Token) : restore p blanks (t :: ts) =
      t.literal.toList ++ restore (p.afterAll t.literal.toList) blanks ts := by
  cases blanks with
  | nil => rw [restore]
  | cons c blanks => rw [restore, if_pos h]

/-- The blanks before a token are put back before it. -/
theorem restore_blanks {t : Token} {before blanks : List Char}
    (h : t.span.first = place (before ++ blanks))
    (hlen : (before ++ blanks).length < 2 ^ 32 - 1) (more : List Char) (ts : List Token) :
    restore (place before) (blanks ++ more) (t :: ts) = blanks ++ t.literal.toList ++
      restore (place (before ++ blanks ++ t.literal.toList)) more ts := by
  induction blanks generalizing before with
  | nil =>
    rw [List.append_nil] at h
    rw [List.nil_append, List.nil_append, List.append_nil, restore_token h, ← place_append]
  | cons c blanks ih =>
    have hne : t.span.first ≠ place before := by
      rw [h]
      exact (place_append_ne (by simp) hlen).symm
    rw [List.append_cons] at h hlen ⊢
    rw [List.cons_append, restore, if_neg hne, ← place_append_singleton, ih h hlen,
      List.cons_append, List.cons_append]

/-- The blanks of a text and its tokens determine the text. -/
theorem restore_tokensFrom {cs blanks : List Char} {ps : List Piece}
    (h : Lexes cs ps (.clean blanks)) (before : List Char)
    (hlen : (before ++ cs).length < 2 ^ 32 - 1) :
    restore (place before) (cs.filter (Blank ·))
      (tokensFrom before ps ++ [.endOfFile (place (before ++ cs))]) = cs := by
  generalize hstop : Stop.clean blanks = stop at h
  induction h generalizing before with
  | @clean blanks hblank =>
    have hfilter : blanks.filter (Blank ·) = blanks ++ [] := by simpa using hblank
    rw [hfilter, tokensFrom, List.nil_append, restore_blanks rfl hlen, restore]
    simp [Token.endOfFile]
  | refused => cases hstop
  | @piece cs blanks text literal rest kind ps stop hrun hlex _ ih =>
    have hcs : cs = blanks ++ literal ++ rest := by
      rw [hrun.split, hlex.split, List.append_assoc]
    have hbefore : before ++ cs = before ++ blanks ++ literal ++ rest := by
      rw [hcs]
      simp
    have hfilter : cs.filter (Blank ·) = blanks ++ rest.filter (Blank ·) := by
      have hblanks : blanks.filter (Blank ·) = blanks := by simpa using hrun.all
      have hliteral : literal.filter (Blank ·) = [] := by simpa using hlex.not_blank
      rw [hcs, List.filter_append, List.filter_append, hblanks, hliteral, List.append_nil]
    have hshort : (before ++ blanks).length < 2 ^ 32 - 1 := by
      rw [hbefore, List.append_assoc, List.length_append] at hlen
      omega
    rw [hbefore] at hlen ⊢
    rw [hfilter, tokensFrom, List.cons_append, restore_blanks rfl hshort, toList_literal_locate,
      ih _ hlen hstop, hcs]

/-- **Spans are exact and lose nothing.** The tokens of a text are one for each of some
ranges of it and one at its end. The ranges follow one another, each is the literal of
its token, and the span counts the lines and columns of its first and its last
character. The characters outside of all ranges are just the blanks, and the tokens put
back into these blanks by their spans are the text. -/
theorem tokenize_spans_exact {s : String} {ts : List Token} (hlen : s.length < 2 ^ 32 - 1)
    (hts : tokenize s = .ok ts) :
    ∃ placed stop, ts = placed.map Prod.snd ++ [.endOfFile stop] ∧ stop.Counts s.toList ∧
      Tiling 0 s.toList placed ∧
      placed.Pairwise (fun x y => x.2.span.last < y.2.span.first) ∧
      restore .start (s.toList.filter (Blank ·)) ts = s.toList := by
  rw [← String.length_toList] at hlen
  obtain ⟨ps, stop, h⟩ := exists_lexes s.toList
  cases stop with
  | refused blanks letter rest =>
    rw [tokenize_of_refused h] at hts
    cases hts
  | clean blanks =>
    have htiling := tiling_placedFrom h [] hlen
    rw [tokenize_of_clean h] at hts
    obtain rfl := Except.ok.inj hts
    refine ⟨placedFrom [] ps, _, ?_, counts_place hlen, htiling, ?_, restore_tokensFrom h [] hlen⟩
    · rw [map_placedFrom]
    · apply htiling.apart.imp_of_mem
      intro x y hx hy hxy
      exact (htiling.stands x hx).lt (htiling.stands y hy) hxy

/-- A character of two bytes, then a mark and a numeral without digits on the next line. -/
theorem tokenize_spans_exact_two_lines :
    "é\n =0x".length < 2 ^ 32 - 1 ∧ ∃ ts placed, tokenize "é\n =0x" = .ok ts ∧
      ts.map Token.span = [⟨⟨1, 1⟩, ⟨1, 1⟩⟩, ⟨⟨2, 2⟩, ⟨2, 2⟩⟩, ⟨⟨2, 3⟩, ⟨2, 4⟩⟩, ⟨⟨2, 5⟩, ⟨2, 5⟩⟩] ∧
      ts.dropLast = placed.map Prod.snd ∧ Tiling 0 "é\n =0x".toList placed ∧
      restore .start ['\n', ' '] ts = "é\n =0x".toList := by
  have hlexes : Lexes "é\n =0x".toList
      [⟨[], .unknown, ['é']⟩, ⟨['\n', ' '], .mark .assign, ['=']⟩, ⟨[], .integer, ['0', 'x']⟩]
      (.clean []) := by
    have hforeign : Lexeme ['é', '\n', ' ', '=', '0', 'x'] .unknown ['é']
        ['\n', ' ', '=', '0', 'x'] :=
      .unknown (by decide) (by intro m; cases m <;> decide) (by decide) (by decide)
    have hmark : Lexeme ['=', '0', 'x'] (.mark .assign) ['='] ['0', 'x'] := .mark (m := .assign)
    have hnumeral : Lexeme ['0', 'x'] .integer ['0', 'x'] [] :=
      .based (r := .hexadecimal) (by decide)
    refine .piece (by decide) hforeign ?_
    refine .piece (by decide) hmark ?_
    exact .piece (by decide) hnumeral (.clean (by simp))
  have hlen : "é\n =0x".length < 2 ^ 32 - 1 := by decide
  have hts := tokenize_of_clean hlexes
  obtain ⟨placed, stop, hplaced, -, htiling, -, hrestore⟩ := tokenize_spans_exact hlen hts
  refine ⟨hlen, _, placed, hts, rfl, ?_, htiling, hrestore⟩
  rw [hplaced, List.dropLast_concat]

end MonkeyTokens
