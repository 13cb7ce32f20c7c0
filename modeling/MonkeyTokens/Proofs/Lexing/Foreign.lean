import MonkeyTokens.Proofs.Lexing.MaximalMunch

/-!
Texts with other foreign characters.

A character is foreign (`Lexing.Foreign`) if it is no blank, no letter, no digit, no underscore
and no mark. Foreign characters all mean the same to a scan: each of them is a token by itself,
and each takes one column, however many bytes it has. So a text in which they are replaced by
others, whichever they are (`Lexing.Replaces`), is cut into the same pieces (`Lexes.map`), and
these stand in the same places. The classes of the grammar are familiar: no foreign character is
in one of them, so that a replacement neither adds to them nor takes from them
(`Replaces.class_iff`). The main statement is `tokenize_map_foreign`.
-/

namespace MonkeyTokens

namespace Lexing

/-- A character that no lexeme but the unknown one contains, and that is no blank. -/
structure Foreign (c : Char) : Prop where
  not_blank : ¬ Blank c
  not_letter : ¬ Letter c
  not_digit : ¬ Digit c
  not_underscore : c ≠ '_'
  not_mark : ∀ m : Mark, c ≠ m.char

/-- The function replaces foreign characters by foreign ones, and nothing else. -/
structure Replaces (f : Char → Char) : Prop where
  foreign : ∀ c, Foreign c → Foreign (f c)
  fixed : ∀ c, ¬ Foreign c → f c = c

/-- No foreign character is in the class. -/
def Familiar (p : Char → Prop) : Prop := ∀ c, p c → ¬ Foreign c

theorem familiar_blank : Familiar Blank := fun _ hc h => h.not_blank hc

theorem familiar_letter : Familiar Letter := fun _ hc h => h.not_letter hc

theorem familiar_digit : Familiar Digit := fun _ hc h => h.not_digit hc

theorem familiar_mark (m : Mark) : Familiar (· = m.char) := fun _ hc h => h.not_mark m hc

theorem familiar_wordChar : Familiar WordChar := by
  rintro c (hc | hc) h
  · exact h.not_letter hc
  · exact h.not_underscore hc

theorem familiar_decimalChar : Familiar DecimalChar := by
  rintro c (hc | hc) h
  · exact h.not_digit hc
  · exact h.not_underscore hc

theorem familiar_newline : Familiar (· = '\n') := by
  rintro c rfl
  exact familiar_blank _ (by decide)

/-- What follows the letter of a radix is a digit, a letter or an underscore. -/
theorem RadixChar.digit_or_letter {r : Radix} {c : Char} (h : RadixChar r c) :
    Digit c ∨ Letter c ∨ c = '_' := by
  cases r with
  | binary =>
    rcases h with rfl | rfl | rfl
    · exact .inl (by decide)
    · exact .inl (by decide)
    · exact .inr (.inr rfl)
  | octal =>
    rcases h with ⟨h₁, h₂⟩ | rfl
    · exact .inl ⟨h₁, Char.le_trans h₂ (by decide)⟩
    · exact .inr (.inr rfl)
  | hexadecimal =>
    rcases h with h | ⟨h₁, h₂⟩ | ⟨h₁, h₂⟩ | rfl
    · exact .inl h
    · exact .inr (.inl (.inl ⟨h₁, Char.le_trans h₂ (by decide)⟩))
    · exact .inr (.inl (.inr ⟨h₁, Char.le_trans h₂ (by decide)⟩))
    · exact .inr (.inr rfl)

theorem familiar_radixChar (r : Radix) : Familiar (RadixChar r) := by
  intro c hc h
  rcases hc.digit_or_letter with hc | hc | hc
  · exact h.not_digit hc
  · exact h.not_letter hc
  · exact h.not_underscore hc

/-! ### Characters -/

section

variable {f : Char → Char} {p : Char → Prop} {cs run rest literal : List Char}
  {kind : Token.Kind}

/-- A class without foreign characters does not notice that they are replaced. -/
theorem Replaces.class_iff (hf : Replaces f) (hp : Familiar p) (c : Char) : p (f c) ↔ p c := by
  by_cases hc : Foreign c
  · constructor
    · intro h
      exact absurd (hf.foreign c hc) (hp _ h)
    · intro h
      exact absurd hc (hp c h)
  · rw [hf.fixed c hc]

theorem Replaces.fixed_of_class (hf : Replaces f) (hp : Familiar p) {c : Char} (hc : p c) :
    f c = c := hf.fixed c (hp c hc)

theorem Replaces.map_of_class (hf : Replaces f) (hp : Familiar p) (hall : ∀ c ∈ cs, p c) :
    cs.map f = cs := by
  conv_rhs => rw [← List.map_id cs]
  exact List.map_congr_left fun c hc => hf.fixed_of_class hp (hall c hc)

theorem Replaces.place_map (hf : Replaces f) (before : List Char) :
    place (before.map f) = place before := by
  induction before using List.reverseRecOn with
  | nil => rfl
  | append_singleton before c ih =>
    have hline : f c = '\n' ↔ c = '\n' := hf.class_iff familiar_newline c
    rw [List.map_append, List.map_singleton, place_append_singleton, place_append_singleton, ih]
    simp only [Position.after, hline]

/-! ### Lexemes -/

theorem MaximalRun.map (h : MaximalRun p cs run rest) (hf : Replaces f) (hp : Familiar p) :
    MaximalRun p (cs.map f) (run.map f) (rest.map f) where
  split := by rw [h.split, List.map_append]
  all := by
    intro d hd
    obtain ⟨c, hc, rfl⟩ := List.mem_map.mp hd
    exact (hf.class_iff hp c).mpr (h.all c hc)
  stops := by
    intro d hd
    rw [List.head?_map] at hd
    obtain ⟨c, hc, rfl⟩ := Option.map_eq_some_iff.mp hd
    rw [hf.class_iff hp]
    exact h.stops c hc

/-- Only the unknown lexeme has a foreign character. -/
theorem Lexeme.map_literal (h : Lexeme cs kind literal rest) (hf : Replaces f)
    (hkind : kind ≠ .unknown) : literal.map f = literal := by
  cases h with
  | @mark m _ => rw [List.map_singleton, hf.fixed_of_class (familiar_mark m) rfl]
  | keyword hrun => exact hf.map_of_class familiar_wordChar hrun.all
  | identifier hrun => exact hf.map_of_class familiar_wordChar hrun.all
  | @based r _ _ _ hrun =>
    rw [List.map_cons, List.map_cons, hf.fixed_of_class familiar_digit digit_zero,
      hf.fixed_of_class familiar_letter (letter_letter r),
      hf.map_of_class (familiar_radixChar r) hrun.all]
  | decimal _ _ hrun => exact hf.map_of_class familiar_decimalChar hrun.all
  | unknown => exact absurd rfl hkind

theorem Lexeme.map (h : Lexeme cs kind literal rest) (hf : Replaces f) :
    Lexeme (cs.map f) kind (literal.map f) (rest.map f) := by
  have hliteral := h.map_literal hf
  cases h with
  | @mark m rest =>
    rw [List.map_cons, List.map_singleton, hf.fixed_of_class (familiar_mark m) rfl]
    exact .mark
  | keyword hrun =>
    have hrun' := hrun.map hf familiar_wordChar
    rw [hliteral (by simp)] at hrun' ⊢
    exact .keyword hrun'
  | identifier hrun hne hk =>
    have hrun' := hrun.map hf familiar_wordChar
    rw [hliteral (by simp)] at hrun' ⊢
    exact .identifier hrun' hne hk
  | @based r _ _ _ hrun =>
    rw [List.map_cons, List.map_cons, List.map_cons, List.map_cons,
      hf.fixed_of_class familiar_digit digit_zero,
      hf.fixed_of_class familiar_letter (letter_letter r)]
    exact .based (hrun.map hf (familiar_radixChar r))
  | @decimal d cs _ _ hd hzero hrun =>
    have hrun' := hrun.map hf familiar_decimalChar
    have hd' : f d = d := hf.fixed_of_class familiar_digit hd
    rw [List.map_cons, hd'] at hrun' ⊢
    refine .decimal hd ?_ hrun'
    intro hd0 c' hc'
    rw [List.head?_map] at hc'
    obtain ⟨c, hc, rfl⟩ := Option.map_eq_some_iff.mp hc'
    rw [hf.class_iff familiar_letter]
    exact hzero hd0 c hc
  | @unknown c _ hblank hmark hword hdigit =>
    have hmark' : ∀ m : Mark, f c ≠ m.char := by
      intro m
      rw [Ne, hf.class_iff (familiar_mark m)]
      exact hmark m
    exact .unknown (by rwa [hf.class_iff familiar_blank]) hmark'
      (by rwa [hf.class_iff familiar_wordChar]) (by rwa [hf.class_iff familiar_digit])

/-! ### Pieces -/

/-- The piece with its characters replaced. -/
def Piece.map (f : Char → Char) (q : Piece) : Piece := ⟨q.blanks.map f, q.kind, q.literal.map f⟩

/-- What is left with its characters replaced. -/
def Stop.map (f : Char → Char) : Stop → Stop
  | .clean blanks => .clean (blanks.map f)
  | .refused blanks letter rest => .refused (blanks.map f) letter (rest.map f)

theorem textOf_map (f : Char → Char) (ps : List Piece) :
    textOf (ps.map (Piece.map f)) = (textOf ps).map f := by
  induction ps with
  | nil => rfl
  | cons q ps ih => rw [List.map_cons, textOf_cons, textOf_cons, ih]; simp [Piece.map]

theorem settled_map (f : Char → Char) (ps : List Piece) (stop : Stop) :
    settled (ps.map (Piece.map f)) (stop.map f) = (settled ps stop).map (Piece.map f) := by
  cases stop with
  | refused => rfl
  | clean blanks =>
    cases blanks with
    | nil => exact List.map_dropLast.symm
    | cons => rfl

/-- A text with other foreign characters is cut in the same places. -/
theorem Lexes.map {ps : List Piece} {stop : Stop} (h : Lexes cs ps stop) (hf : Replaces f) :
    Lexes (cs.map f) (ps.map (Piece.map f)) (stop.map f) := by
  induction h with
  | clean hblank =>
    apply Lexes.clean
    intro d hd
    obtain ⟨c, hc, rfl⟩ := List.mem_map.mp hd
    exact (hf.class_iff familiar_blank c).mpr (hblank c hc)
  | refused hrun hletter hradix =>
    have hrun' := hrun.map hf familiar_blank
    rw [List.map_cons, List.map_cons, hf.fixed_of_class familiar_digit digit_zero,
      hf.fixed_of_class familiar_letter hletter] at hrun'
    exact .refused hrun' hletter hradix
  | piece hrun hlex _ ih => exact .piece (hrun.map hf familiar_blank) (hlex.map hf) ih

end

end Lexing

open ByteStream Lexing

/-! ### Tokens -/

/-- The token, with the characters of its literal replaced if it is unknown. -/
def Token.mapUnknown (f : Char → Char) (t : Token) : Token :=
  if t.kind = .unknown then { t with literal := t.literal.map f } else t

section

variable {f : Char → Char} {cs : List Char} {ps : List Piece} {stop : Stop}

theorem kept_map (f : Char → Char) (ps : List Piece) (stop : Stop) (ending : Ending) :
    kept (ps.map (Piece.map f)) (stop.map f) ending = (kept ps stop ending).map (Piece.map f) := by
  cases ending with
  | endOfInput => rfl
  | failure => exact settled_map f ps stop

/-- A lexeme stands in the same place behind other foreign characters. -/
theorem locate_map {kind : Token.Kind} {literal before : List Char} (hf : Replaces f)
    (h : kind ≠ .unknown → literal.map f = literal) :
    locate kind (literal.map f) (before.map f) = (locate kind literal before).mapUnknown f := by
  have hspan : (⟨place (before.map f), place (before.map f ++ (literal.map f).dropLast)⟩ : Span) =
      ⟨place before, place (before ++ literal.dropLast)⟩ := by
    rw [← List.map_dropLast, ← List.map_append, hf.place_map, hf.place_map]
  rw [locate, hspan, Token.mapUnknown, locate]
  by_cases hkind : kind = .unknown
  · rw [if_pos hkind]
    simp [String.ext_iff]
  · rw [if_neg hkind, h hkind]

theorem tokensFrom_map (hf : Replaces f)
    (h : ∀ q ∈ ps, q.kind ≠ .unknown → q.literal.map f = q.literal) (before : List Char) :
    tokensFrom (before.map f) (ps.map (Piece.map f)) =
      (tokensFrom before ps).map (Token.mapUnknown f) := by
  induction ps generalizing before with
  | nil => rfl
  | cons q ps ih =>
    obtain ⟨hq, hps⟩ := List.forall_mem_cons.mp h
    have htail := ih hps (before ++ q.blanks ++ q.literal)
    rw [List.map_append, List.map_append] at htail
    rw [List.map_cons, tokensFrom, tokensFrom, List.map_cons, ← locate_map hf hq,
      List.map_append, ← htail]
    rfl

theorem lastItem_map (hf : Replaces f) (before : List Char) (ending : Ending) (stop : Stop) :
    lastItem (before.map f) ending (stop.map f) =
      (lastItem before ending stop).map (Token.mapUnknown f) := by
  cases stop with
  | refused blanks letter rest =>
    have hplace := hf.place_map (before ++ blanks ++ ['0'])
    rw [List.map_append, List.map_append, List.map_singleton,
      hf.fixed_of_class familiar_digit digit_zero] at hplace
    cases ending <;> simp only [Stop.map, lastItem, hplace, Except.map]
  | clean blanks =>
    have hplace := hf.place_map (before ++ blanks)
    rw [List.map_append] at hplace
    cases ending with
    | endOfInput =>
      rw [Stop.map, lastItem, lastItem, hplace]
      rfl
    | failure e => simp only [Stop.map, lastItem, hplace, Except.map]

theorem literal_of_lexes (h : Lexes cs ps stop) (hf : Replaces f) :
    ∀ q ∈ ps, q.kind ≠ .unknown → q.literal.map f = q.literal := by
  induction h with
  | clean => simp
  | refused => simp
  | piece _ hlex _ ih => exact List.forall_mem_cons.mpr ⟨hlex.map_literal hf, ih⟩

end

/-- Two sources that supply the same characters up to the foreign ones, in whatever bytes, and
end in the same way have the same items, up to the literals of unknown tokens. -/
theorem items_map_foreign {f : Char → Char} (hf : Replaces f) {source source' : ByteStream}
    {text : List Char} {ending : Ending} (hsupply : Supplies source.answers text ending)
    (hsupply' : Supplies source'.answers (text.map f) ending) :
    (Scanner.ofStream source').items =
      (Scanner.ofStream source).items.map (Except.map (Token.mapUnknown f)) := by
  obtain ⟨ps, stop, hlexes⟩ := exists_lexes text
  have hkept : ∀ q ∈ kept ps stop ending, q.kind ≠ .unknown → q.literal.map f = q.literal := by
    intro q hq
    exact literal_of_lexes hlexes hf q ((kept_prefix_self ps stop ending).subset hq)
  rw [Scanner.items_ofStream hsupply hlexes, Scanner.items_ofStream hsupply' (hlexes.map hf),
    kept_map, ← List.map_nil (f := f), tokensFrom_map hf hkept, textOf_map, lastItem_map hf,
    List.map_append, List.map_map, List.map_map, List.map_singleton]
  rfl

theorem mapM_id_map (g : Token → Token) (items : List Scanner.Item) :
    (items.map (Except.map g)).mapM id = (items.mapM id).map (List.map g) := by
  induction items with
  | nil => rfl
  | cons item items ih =>
    rw [List.map_cons, List.mapM_cons, List.mapM_cons, ih]
    cases item with
    | error e => rfl
    | ok t => cases items.mapM id <;> rfl

/-- **Foreign characters are uniform.** A text in which the foreign characters are replaced by
others is tokenized into the same tokens, in the same places, and only the literals of unknown
tokens are replaced as well. Where the text is refused, the error is the same. -/
theorem tokenize_map_foreign {f : Char → Char} (hf : Replaces f) (s : String) :
    tokenize (s.map f) = (tokenize s).map (List.map (Token.mapUnknown f)) := by
  have hsupply : Supplies (answers [.bytes (Utf8.encode s.toList)]) s.toList .endOfInput :=
    supplies_encode .usedUp s.toList
  have hsupply' : Supplies (answers [.bytes (Utf8.encode (s.map f).toList)]) (s.toList.map f)
      .endOfInput := by
    rw [String.toList_map]
    exact supplies_encode .usedUp (s.toList.map f)
  rw [tokenize, tokenize, Scanner.ofString, Scanner.ofString,
    items_map_foreign hf hsupply hsupply', mapM_id_map]

/-- A character of one byte is replaced by one of four, also where it comes after a zero. -/
theorem tokenize_map_foreign_wide :
    let f : Char → Char := fun c => if c = '@' then '😀' else c
    Replaces f ∧ "a@0@\n@ 1".map f = "a😀0😀\n😀 1" ∧
      tokenize "a😀0😀\n😀 1" = .ok [⟨.identifier, "a", .point ⟨1, 1⟩⟩,
        ⟨.unknown, "😀", .point ⟨1, 2⟩⟩, ⟨.integer, "0", .point ⟨1, 3⟩⟩,
        ⟨.unknown, "😀", .point ⟨1, 4⟩⟩, ⟨.unknown, "😀", .point ⟨2, 1⟩⟩,
        ⟨.integer, "1", .point ⟨2, 3⟩⟩, .endOfFile ⟨2, 4⟩] := by
  intro f
  have hat : Foreign '@' := ⟨by decide, by decide, by decide, by decide, by rintro ⟨⟩ <;> decide⟩
  have hface : Foreign '😀' := ⟨by decide, by decide, by decide, by decide, by rintro ⟨⟩ <;> decide⟩
  have hf : Replaces f := by
    constructor
    · intro c hc
      by_cases h : c = '@'
      · simp only [f, if_pos h, hface]
      · simpa only [f, if_neg h] using hc
    · intro c hc
      have h : c ≠ '@' := by
        rintro rfl
        exact hc hat
      exact if_neg h
  have htext : "a@0@\n@ 1".map f = "a😀0😀\n😀 1" := by decide +kernel
  refine ⟨hf, htext, ?_⟩
  rw [← htext, tokenize_map_foreign hf]
  decide +kernel

end MonkeyTokens
