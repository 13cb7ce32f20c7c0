import MonkeyTokens.Proofs.Lexing.MaximalMunch

/-!
What follows a text.

A source may go on behind a text: with more of it, with the end of the input, or with a
failure. The tokens that end before the last character of the text are read all the
same, because a lexeme is not changed by what follows its next character; a failure
takes the place of the lexeme that touches it and of nothing else; and a bad zero ends
the scan before anything behind the text is read. The main statement is
`Scanner.items_continued`.
-/

namespace MonkeyTokens

open ByteStream Lexing

namespace Scanner

/-- The items of a text with nothing behind it. -/
def itemsOf (cs : List Char) : List Item := (ofString (String.ofList cs)).items

/-- The last item refuses a zero with a letter that names no radix. -/
def EndsRefused (items : List Item) : Prop :=
  ∃ letter position, items.getLast? = some (.error ⟨.unknownRadix letter, position⟩)

/-- Whether an item is a token whose last character is not the last of the text. -/
def endsWithin (cs : List Char) : Item → Bool
  | .ok t => !t.isEndOfFile && !decide (t.span.last.Counts cs.dropLast)
  | .error _ => false

/-- The tokens of a text that do not touch its end. -/
def untouched (cs : List Char) : List Item := (itemsOf cs).filter (endsWithin cs)

/-- The kind of error that is reported where a character cannot be read. -/
def kindOf : ReadError → String
  | .fault _ => "IOFailure"
  | .malformed _ => "EncodingError"

/-! ### The tokens that do not touch the end -/

theorem endsWithin_locate {kind : Token.Kind} {before literal rest : List Char}
    (hkind : kind ≠ .endOfFile) (hne : literal ≠ [])
    (hlen : (before ++ literal ++ rest).length < 2 ^ 32 - 1) :
    endsWithin (before ++ literal ++ rest) (.ok (locate kind literal before)) = true ↔
      rest ≠ [] := by
  have hshort : (before ++ literal).length < 2 ^ 32 - 1 := by
    rw [List.length_append] at hlen
    omega
  have hlast := counts_last_locate hshort kind
  rw [endsWithin, isEndOfFile_locate hkind, Bool.not_false, Bool.true_and, Bool.not_eq_true',
    decide_eq_false_iff_not]
  constructor
  · rintro hcounts rfl
    rw [List.append_nil, List.dropLast_append_of_ne_nil hne] at hcounts
    exact hcounts hlast
  · intro hrest hcounts
    have hsplit : (before ++ literal ++ rest).dropLast =
        before ++ literal.dropLast ++ (literal.getLast hne :: rest.dropLast) := by
      rw [List.dropLast_append_of_ne_nil hrest]
      conv => lhs; rw [← List.dropLast_concat_getLast hne]
      simp
    rw [hsplit] at hcounts
    exact Position.lt_irrefl _ (hlast.lt hcounts (by simp))

theorem filter_tokensFrom {cs : List Char} {ps : List Piece} {stop : Stop}
    (h : Lexes cs ps stop) (before : List Char) (hlen : (before ++ cs).length < 2 ^ 32 - 1) :
    ((tokensFrom before ps).map .ok).filter (endsWithin (before ++ cs)) =
      (tokensFrom before (settled ps stop)).map .ok := by
  induction h generalizing before with
  | clean => simp [tokensFrom]
  | refused => simp [tokensFrom]
  | @piece cs blanks text literal rest kind ps stop hrun hlex hrest ih =>
    have hcs : before ++ cs = before ++ blanks ++ literal ++ rest := by
      rw [hrun.split, hlex.split]
      simp
    rw [hcs] at hlen ⊢
    have hwithin := endsWithin_locate hlex.kind_ne hlex.ne_nil hlen
    by_cases hne : rest = []
    · obtain ⟨rfl, rfl⟩ := (hne ▸ hrest).of_nil
      rw [tokensFrom, List.map_cons, List.filter_cons_of_neg (fun h => hwithin.mp h hne)]
      rfl
    · rw [tokensFrom, List.map_cons, List.filter_cons_of_pos (hwithin.mpr hne), ih _ hlen,
        settled_cons hrest hne]
      rfl

theorem itemsOf_eq {cs : List Char} {ps : List Piece} {stop : Stop} (h : Lexes cs ps stop) :
    itemsOf cs = (tokensFrom [] ps).map .ok ++ [lastItem (textOf ps) .endOfInput stop] := by
  refine items_ofString ?_
  rwa [String.toList_ofList]

theorem untouched_eq {cs : List Char} {ps : List Piece} {stop : Stop} (h : Lexes cs ps stop)
    (hlen : cs.length < 2 ^ 32 - 1) :
    untouched cs = (tokensFrom [] (settled ps stop)).map .ok := by
  have hlast : endsWithin cs (lastItem (textOf ps) .endOfInput stop) = false := by
    cases stop <;> rfl
  rw [untouched, itemsOf_eq h, List.filter_append, List.filter_cons_of_neg (by simp [hlast]),
    List.filter_nil, List.append_nil]
  exact filter_tokensFrom h [] hlen

theorem endsRefused_iff {cs : List Char} {ps : List Piece} {stop : Stop} (h : Lexes cs ps stop) :
    EndsRefused (itemsOf cs) ↔ ∃ blanks letter rest, stop = .refused blanks letter rest := by
  rw [EndsRefused, itemsOf_eq h, List.getLast?_concat]
  cases stop with
  | clean blanks => simp [lastItem]
  | refused blanks letter rest => simp [lastItem]

/-! ### What is read of a source that goes on -/

section

variable {cs : List Char} {s : ByteStream} {rest rest' : List Answer}

/-- A bad zero ends the scan whatever follows the text. -/
theorem items_of_refused {ps : List Piece} {blanks behind : List Char} {letter : Char}
    (hs : s.answers = (Utf8.encode cs).map .byte ++ rest)
    (h : Lexes cs ps (.refused blanks letter behind)) : (ofStream s).items = itemsOf cs := by
  obtain ⟨more, ending, hsupply⟩ := exists_supplies rest
  have hkept : kept ps (.refused blanks letter (behind ++ more)) ending = ps := by
    cases ending <;> rfl
  rw [itemsOf_eq h, items_ofStream (hs ▸ hsupply.encode_append cs) (h.refused_append more), hkept]
  rfl

/-- The tokens that do not touch the end of the text are read whatever follows it. -/
theorem untouched_prefix_items (hlen : cs.length < 2 ^ 32 - 1)
    (hs : s.answers = (Utf8.encode cs).map .byte ++ rest) :
    untouched cs <+: (ofStream s).items := by
  obtain ⟨ps, stop, h⟩ := exists_lexes cs
  obtain ⟨more, ending, hsupply⟩ := exists_supplies rest
  obtain ⟨qs, stop', h', hbegins⟩ := h.settled_append more
  have hkept : settled ps stop <+: kept qs stop' ending :=
    hbegins.trans (settled_prefix_kept qs stop' ending)
  rw [untouched_eq h hlen, items_ofStream (hs ▸ hsupply.encode_append cs) h']
  exact ((tokensFrom_mono hkept []).map _).trans (List.prefix_append _ _)

/-- Where the input ends behind a text, the items are those of the text. -/
theorem items_of_ends (hs : s.answers = (Utf8.encode cs).map .byte ++ rest)
    (hends : Ends rest rest') : (ofStream s).items = itemsOf cs := by
  obtain ⟨ps, stop, h⟩ := exists_lexes cs
  rw [itemsOf_eq h, items_ofStream (hs ▸ supplies_encode hends cs) h]
  rfl

/-- A failure behind a text takes the place of the token that touches it. -/
theorem items_of_failure {ps : List Piece} {blanks : List Char} {e : ReadError}
    (hlen : cs.length < 2 ^ 32 - 1) (hs : s.answers = (Utf8.encode cs).map .byte ++ rest)
    (h : Lexes cs ps (.clean blanks)) (hfailure : Decodes rest (.error e) rest') :
    (ofStream s).items = untouched cs ++ [.error ⟨.unreadable e, place cs⟩] := by
  have hsupply : Supplies s.answers (cs ++ []) (.failure e) := by
    rw [hs]
    exact (Supplies.failure hfailure).encode_append cs
  rw [List.append_nil] at hsupply
  have htext : cs = textOf ps ++ blanks := h.text_eq
  rw [untouched_eq h hlen, items_ofStream hsupply h, lastItem, ← htext]
  rfl

end

/-- **What follows a text changes none of its tokens but the last.** If the text ends in
a bad zero, nothing behind it is read. If not, its tokens that do not touch its end
are read whatever follows; its items are all that is read where the input ends, whatever
comes after that; and a failure to read the next character is the only item after the
tokens that do not touch it, and stands right behind the text. -/
theorem items_continued {cs : List Char} {s : ByteStream} {rest : List Answer}
    (hlen : cs.length < 2 ^ 32 - 1) (hs : s.answers = (Utf8.encode cs).map .byte ++ rest) :
    (EndsRefused (itemsOf cs) → (ofStream s).items = itemsOf cs) ∧
      (¬ EndsRefused (itemsOf cs) →
        untouched cs <+: (ofStream s).items ∧
        (∀ rest', Ends rest rest' → (ofStream s).items = itemsOf cs) ∧
        ∀ e rest', Decodes rest (.error e) rest' →
          ∃ error : ScanError, (ofStream s).items = untouched cs ++ [.error error] ∧
            error.cause = .unreadable e ∧ error.kind = kindOf e ∧ error.position.Counts cs) := by
  obtain ⟨ps, stop, h⟩ := exists_lexes cs
  rw [endsRefused_iff h]
  constructor
  · rintro ⟨blanks, letter, behind, rfl⟩
    exact items_of_refused hs h
  · intro hclean
    refine ⟨untouched_prefix_items hlen hs, ?_, ?_⟩
    · intro rest' hends
      exact items_of_ends hs hends
    · intro e rest' hfailure
      cases stop with
      | refused blanks letter behind => exact absurd ⟨blanks, letter, behind, rfl⟩ hclean
      | clean blanks =>
        refine ⟨_, items_of_failure hlen hs h hfailure, rfl, ?_, counts_place hlen⟩
        cases e <;> rfl

/-- A read fails inside the character behind a zero, which is lost with it. -/
theorem items_continued_zero :
    let s : ByteStream := [.bytes [0x61, 0x20], .fault (.ofKind .interrupted) 1,
      .bytes [0x30, 0xE2], .fault (.ofKind .timedOut) 1, .bytes [0x82, 0xAC]]
    "a 0".toList.length < 2 ^ 32 - 1 ∧ s.answers = (Utf8.encode "a 0".toList).map .byte ++
        [.byte 0xE2, .fault (.ofKind .timedOut), .byte 0x82, .byte 0xAC] ∧
      ∃ error : ScanError, error.kind = "IOFailure" ∧ error.position.Counts "a 0".toList ∧
        (ofStream s).items = [.ok ⟨.identifier, "a", .point ⟨1, 1⟩⟩, .error error] := by
  intro s
  have hlexes : Lexes "a 0".toList [⟨[], .identifier, ['a']⟩, ⟨[' '], .integer, ['0']⟩]
      (.clean []) := by
    have hname : Lexeme ['a', ' ', '0'] .identifier ['a'] [' ', '0'] :=
      .identifier (by decide) (by simp) (by intro k; cases k <;> decide)
    have hzero : Lexeme ['0'] .integer ['0'] [] :=
      .decimal (by decide) (by simp) (by decide)
    refine .piece (by decide) hname ?_
    exact .piece (by decide) hzero (.clean (by simp))
  have hlen : "a 0".toList.length < 2 ^ 32 - 1 := by decide
  have hanswers : s.answers = (Utf8.encode "a 0".toList).map .byte ++
      [.byte 0xE2, .fault (.ofKind .timedOut), .byte 0x82, .byte 0xAC] := by decide
  have hclean : ¬ EndsRefused (itemsOf "a 0".toList) := by
    rw [endsRefused_iff hlexes]
    simp
  have hbegun : Utf8.Begun [0xE2] := .mk (.two (by decide) (by decide)) (by decide)
  obtain ⟨-, -, hfailure⟩ := (items_continued hlen hanswers).2 hclean
  obtain ⟨error, hitems, -, hkind, hposition⟩ := hfailure _ _ (.faultInside hbegun)
  rw [untouched_eq hlexes hlen] at hitems
  exact ⟨hlen, hanswers, error, hkind, hposition, hitems⟩

end Scanner

end MonkeyTokens
