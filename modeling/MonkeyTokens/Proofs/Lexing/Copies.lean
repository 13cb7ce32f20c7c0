import MonkeyTokens.Proofs.Lexing.LineBreaks
import MonkeyTokens.Proofs.Lexing.Respacing
import MonkeyTokens.Samples

/-!
Texts put together from parts, and large programs.

Where a blank stands at the seam of two texts (`Lexing.Parted`), no lexeme reaches over it, and
neither does the look at the character after a zero, so that the two are tokenized into the
kinds and literals that they have alone (`tokenize_glued`). A text that ends with a line feed
can be repeated any number of times: the tokens of the copies are those of one copy, over and
over, and each copy stands as many lines further down as a copy has line feeds (`Repeats`,
`tokenize_copies`). The large programs are such copies of a block that is glued together from
the samples; the main statement is `Samples.tokenize_large`.
-/

namespace MonkeyTokens

open Lexing

/-! ### Texts glued together -/

namespace Lexing

/-- A blank stands at the seam of two texts: at the end of the first, or else at the head of
the second, if this is not empty. -/
def Parted (a b : List Char) : Prop := (∃ c, a.getLast? = some c ∧ Blank c) ∨ Separated b

theorem Lexes.separated_of_parted {a b blanks : List Char} {ps : List Piece}
    (h : Lexes a ps (.clean blanks)) (hparted : Parted a b) : blanks = [] → Separated b := by
  intro hnone
  rcases hparted with ⟨c, hlast, hc⟩ | hsep
  · exact absurd hnone (h.blanks_ne_nil hlast hc)
  · exact hsep

end Lexing

theorem contents_append (ts us : List Token) :
    contents (ts ++ us) = contents ts ++ contents us := List.map_append ..

/-- What pieces contain does not depend on where they stand. -/
theorem contents_tokensFrom (before : List Char) (ps : List Piece) :
    contents (tokensFrom before ps) = contents (tokensFrom [] ps) := by
  rw [contents, contents, map_tokensFrom, map_tokensFrom]

/-- Two texts with a blank at the seam have the tokens that they have alone, up to where these
stand. -/
theorem tokenize_glued {a b : String} {ts us : List Token} (hts : tokenize a = .ok ts)
    (hus : tokenize b = .ok us) (hparted : Parted a.toList b.toList) :
    ∃ vs, tokenize (a ++ b) = .ok vs ∧
      contents (withoutEnd vs) = contents (withoutEnd ts) ++ contents (withoutEnd us) := by
  obtain ⟨ps, blanks, ha, rfl⟩ := lexes_of_tokenize_ok hts
  obtain ⟨qs, blanks', hb, rfl⟩ := lexes_of_tokenize_ok hus
  refine ⟨_, tokenize_seam_of_clean ha hb (ha.separated_of_parted hparted), ?_⟩
  rw [withoutEnd_append, withoutEnd_of_lexes ha, withoutEnd_tokensFrom hb, withoutEnd_tokensFrom ha,
    withoutEnd_tokensFrom hb, contents_append, contents_tokensFrom a.toList]

/-! ### Further down -/

theorem Position.liesBelow_zero (p : Position) : p.LiesBelow 0 p := ⟨rfl, rfl⟩

theorem Position.LiesBelow.trans {m n : Nat} {p q r : Position} (h : p.LiesBelow m q)
    (h' : q.LiesBelow n r) : p.LiesBelow (m + n) r :=
  ⟨by rw [h'.line, h.line, Nat.add_assoc], h'.column.trans h.column⟩

theorem Token.liesBelow_zero (t : Token) : t.LiesBelow 0 t :=
  ⟨rfl, rfl, t.span.first.liesBelow_zero, t.span.last.liesBelow_zero⟩

theorem Token.LiesBelow.trans {m n : Nat} {t u v : Token} (h : t.LiesBelow m u)
    (h' : u.LiesBelow n v) : t.LiesBelow (m + n) v :=
  ⟨h'.kind.trans h.kind, h'.literal.trans h.literal, h.first.trans h'.first,
    h.last.trans h'.last⟩

section

variable {m n : Nat} {ts us vs : List Token}

theorem forall₂_liesBelow_trans (h : List.Forall₂ (Token.LiesBelow m) ts us)
    (h' : List.Forall₂ (Token.LiesBelow n) us vs) :
    List.Forall₂ (Token.LiesBelow (m + n)) ts vs := by
  induction h generalizing vs with
  | nil =>
    cases h'
    exact .nil
  | cons hhead _ ih =>
    cases h' with
    | cons hhead' htail' => exact .cons (hhead.trans hhead') (ih htail')

theorem contents_of_liesBelow (h : List.Forall₂ (Token.LiesBelow n) ts us) :
    contents us = contents ts := by
  induction h with
  | nil => rfl
  | cons hhead _ ih =>
    rw [contents, contents] at ih ⊢
    rw [List.map_cons, List.map_cons, ih, hhead.kind, hhead.literal]

end

/-- Behind a text that ends with a line feed, tokens stand as many lines further down as it has
line feeds. -/
theorem tokensFrom_behind {cs : List Char} {ps : List Piece} (hend : cs.getLast? = some '\n')
    (hlen : (cs ++ textOf ps).length < 2 ^ 32 - 1) :
    List.Forall₂ (Token.LiesBelow (cs.count '\n')) (tokensFrom [] ps) (tokensFrom cs ps) := by
  obtain ⟨a, rfl⟩ := List.getLast?_eq_some_iff.mp hend
  have hlines : (a ++ ['\n']).count '\n' = lineOf a := by
    rw [List.count_append, List.count_singleton_self, lineOf, Nat.add_comm]
  rw [List.append_assoc] at hlen
  rw [hlines]
  exact tokensFrom_liesBelow [] hlen

/-! ### Copies -/

/-- A text, repeated any number of times without anything between the copies. -/
def copies (n : Nat) (s : String) : String := String.join (List.replicate n s)

@[simp] theorem copies_zero (s : String) : copies 0 s = "" := String.join_nil

theorem copies_succ (n : Nat) (s : String) : copies (n + 1) s = s ++ copies n s := by
  rw [copies, List.replicate_succ, String.join_cons, copies]

theorem length_copies (n : Nat) (s : String) : (copies n s).length = s.length * n := by
  induction n with
  | zero => simp
  | succ n ih => rw [copies_succ, String.length_append, ih, Nat.mul_succ, Nat.add_comm]

theorem lineOf_copies (n : Nat) (s : String) :
    lineOf (copies n s).toList = s.toList.count '\n' * n + 1 := by
  induction n with
  | zero => simp [lineOf]
  | succ n ih =>
    rw [lineOf, Nat.add_comm] at ih ⊢
    rw [copies_succ, String.toList_append, List.count_append, Nat.mul_succ]
    omega

theorem columnOf_copies {s : String} (hend : s.toList.getLast? = some '\n') (n : Nat) :
    columnOf (copies n s).toList = 1 := by
  obtain ⟨a, ha⟩ := List.getLast?_eq_some_iff.mp hend
  induction n with
  | zero => simp [columnOf]
  | succ n ih =>
    rw [copies_succ, String.toList_append, ha, List.append_assoc, List.singleton_append,
      columnOf_line_break, ih]

/-! ### Tokens of copies -/

/-- The `i`-th part of a list that is cut into parts of this size. -/
def part (size i : Nat) (ts : List Token) : List Token := (ts.drop (size * i)).take size

theorem part_append_zero {size : Nat} {ts : List Token} (h : ts.length = size)
    (us : List Token) : part size 0 (ts ++ us) = ts := by
  rw [part, Nat.mul_zero, List.drop_zero, List.take_left' h]

theorem part_append_succ {size : Nat} {ts : List Token} (h : ts.length = size) (i : Nat)
    (us : List Token) : part size (i + 1) (ts ++ us) = part size i us := by
  rw [part, Nat.mul_succ, Nat.add_comm, ← List.drop_drop, List.drop_left' h, part]

/-- The tokens `ts`, `n` times, each time `lines` lines further down. -/
inductive Repeats (lines : Nat) (ts : List Token) : Nat → List Token → Prop where
  | zero : Repeats lines ts 0 []
  /-- The copies that are there already are moved down behind a new one. -/
  | succ {n : Nat} {us moved : List Token} : Repeats lines ts n us →
      List.Forall₂ (Token.LiesBelow lines) us moved → Repeats lines ts (n + 1) (ts ++ moved)

namespace Repeats

variable {lines n : Nat} {ts us : List Token}

theorem length_eq (h : Repeats lines ts n us) : us.length = ts.length * n := by
  induction h with
  | zero => rfl
  | succ _ hmoved ih =>
    rw [List.length_append, ← hmoved.length_eq, ih, Nat.mul_succ, Nat.add_comm]

/-- Each copy lies below the first. -/
theorem part_liesBelow (h : Repeats lines ts n us) {i : Nat} (hi : i < n) :
    List.Forall₂ (Token.LiesBelow (lines * i)) ts (part ts.length i us) := by
  induction h generalizing i with
  | zero => cases hi
  | @succ n us moved _ hmoved ih =>
    cases i with
    | zero =>
      rw [part_append_zero rfl]
      exact List.forall₂_same.mpr fun t _ => t.liesBelow_zero
    | succ i =>
      have hcopy := ih (Nat.lt_of_succ_lt_succ hi)
      have hdown := List.forall₂_take ts.length (List.forall₂_drop (ts.length * i) hmoved)
      rw [part_append_succ rfl, Nat.mul_succ]
      exact forall₂_liesBelow_trans hcopy hdown

theorem contents_subset (h : Repeats lines ts n us) : contents us ⊆ contents ts := by
  induction h with
  | zero => exact List.nil_subset _
  | succ _ hmoved ih =>
    rw [contents_append, contents_of_liesBelow hmoved]
    exact List.append_subset.mpr ⟨List.Subset.refl _, ih⟩

end Repeats

/-- The copies of a text that ends with a line feed have its tokens over and over. -/
theorem tokenize_copies {s : String} {ts : List Token} (hend : s.toList.getLast? = some '\n')
    (hts : tokenize s = .ok ts) {n : Nat} (hlen : (copies n s).length < 2 ^ 32 - 1) :
    ∃ us, tokenize (copies n s) = .ok (us ++ [.endOfFile (place (copies n s).toList)]) ∧
      Repeats (s.toList.count '\n') (withoutEnd ts) n us := by
  obtain ⟨ps, blanks, hs, rfl⟩ := lexes_of_tokenize_ok hts
  rw [withoutEnd_tokensFrom hs]
  induction n with
  | zero =>
    have hempty : Lexes (copies 0 s).toList [] (.clean []) := .clean (by simp)
    exact ⟨[], tokenize_of_clean hempty, .zero⟩
  | succ n ih =>
    rw [copies_succ] at hlen ⊢
    rw [String.length_append] at hlen
    obtain ⟨us, hus, hrepeats⟩ := ih (by omega)
    obtain ⟨qs, blanks', hcopies, heq⟩ := lexes_of_tokenize_ok hus
    obtain rfl := List.append_cancel_right heq
    -- The new copy stands in front, and the tokens of those behind it move down together.
    have hparted : Parted s.toList (copies n s).toList := .inl ⟨'\n', hend, by decide⟩
    have hglued := tokenize_seam_of_clean hs hcopies (hs.separated_of_parted hparted)
    rw [← String.toList_append, ← List.append_assoc] at hglued
    refine ⟨_, hglued, .succ hrepeats (tokensFrom_behind hend ?_)⟩
    have htext : (copies n s).toList = textOf qs ++ blanks' := hcopies.text_eq
    have hlength := congrArg List.length htext
    rw [String.length_toList, List.length_append] at hlength
    rw [List.length_append, String.length_toList]
    omega

/-! ### The samples -/

/-- No token of these contents is a character that no rule matches. -/
def Known (cs : List (Token.Kind × String)) : Prop := ∀ c ∈ cs, c.1 ≠ .unknown

instance : DecidablePred Known := fun cs => inferInstanceAs (Decidable (∀ c ∈ cs, c.1 ≠ .unknown))

theorem Known.append {cs ds : List (Token.Kind × String)} (hcs : Known cs) (hds : Known ds) :
    Known (cs ++ ds) := List.forall_mem_append.mpr ⟨hcs, hds⟩

theorem Known.kind_ne {ts : List Token} (h : Known (contents ts)) :
    ∀ t ∈ ts, t.kind ≠ .unknown := fun _ ht => h _ (List.mem_map_of_mem ht)

/-- The text is tokenized into this many tokens before its end, and all of them are known. -/
def HasKnownTokens (n : Nat) (s : String) : Prop :=
  ∃ ts, tokenize s = .ok ts ∧ (withoutEnd ts).length = n ∧ Known (contents (withoutEnd ts))

instance (n : Nat) (s : String) : Decidable (HasKnownTokens n s) :=
  match h : tokenize s with
  | .ok ts =>
    decidable_of_iff ((withoutEnd ts).length = n ∧ Known (contents (withoutEnd ts))) <| by
      simp [HasKnownTokens, h]
  | .error _ => isFalse <| by simp [HasKnownTokens, h]

namespace Samples

theorem function_known : HasKnownTokens 26 function := by decide +kernel

theorem conditional_known : HasKnownTokens 18 conditional := by decide +kernel

theorem numerals_known : HasKnownTokens 13 numerals := by decide +kernel

theorem function_ends : function.toList.getLast? = some '\n' := by decide +kernel

theorem conditional_ends : conditional.toList.getLast? = some '\n' := by decide +kernel

theorem block_ends : block.toList.getLast? = some '\n' := by simp [block]

theorem lines_block : block.toList.count '\n' = 12 := by
  have hfunction : function.toList.count '\n' = 5 := by decide +kernel
  have hconditional : conditional.toList.count '\n' = 6 := by decide +kernel
  have hnumerals : numerals.toList.count '\n' = 0 := by decide +kernel
  simp [block, hfunction, hconditional, hnumerals]

theorem length_block : block.length = 182 := by
  have hfunction : function.length = 65 := by decide +kernel
  have hconditional : conditional.length = 62 := by decide +kernel
  have hnumerals : numerals.length = 54 := by decide +kernel
  rw [block, String.length_append, String.length_append, String.length_append, hfunction,
    hconditional, hnumerals]
  rfl

theorem large_eq (n : Nat) : large n = copies n block := rfl

theorem large_one : large 1 = block := by
  rw [large_eq, copies_succ, copies_zero, String.append_empty]

theorem length_large (n : Nat) : (large n).length = 182 * n := by
  rw [large_eq, length_copies, length_block]

/-- The samples of a block are tokenized as they are alone: a line feed stands at each seam. -/
theorem tokenize_block :
    ∃ fs cs ns ts, tokenize function = .ok fs ∧ tokenize conditional = .ok cs ∧
      tokenize numerals = .ok ns ∧ tokenize block = .ok ts ∧
      contents (withoutEnd ts) =
        contents (withoutEnd fs) ++ contents (withoutEnd cs) ++ contents (withoutEnd ns) ∧
      (withoutEnd ts).length = 57 ∧ Known (contents (withoutEnd ts)) := by
  obtain ⟨fs, hfs, hfcount, hfknown⟩ := function_known
  obtain ⟨cs, hcs, hccount, hcknown⟩ := conditional_known
  obtain ⟨ns, hns, hncount, hnknown⟩ := numerals_known
  have hblank : Blank '\n' := by decide
  have hline : tokenize "\n" = .ok [.endOfFile ⟨2, 1⟩] := by decide +kernel
  have hnothing : contents (withoutEnd [.endOfFile ⟨2, 1⟩]) = [] := rfl
  -- The samples are glued from the last to the first.
  obtain ⟨ls, hls, hlcontents⟩ := tokenize_glued hns hline
    (.inr (separated_of_blank (List.forall_mem_singleton.mpr hblank)))
  obtain ⟨ms, hms, hmcontents⟩ := tokenize_glued hcs hls (.inl ⟨'\n', conditional_ends, hblank⟩)
  obtain ⟨ts, hts, hcontents⟩ := tokenize_glued hfs hms (.inl ⟨'\n', function_ends, hblank⟩)
  rw [hmcontents, hlcontents, hnothing, List.append_nil, ← List.append_assoc] at hcontents
  have hblock : function ++ (conditional ++ (numerals ++ "\n")) = block := by
    rw [block, String.append_assoc, String.append_assoc]
  rw [hblock] at hts
  refine ⟨fs, cs, ns, ts, hfs, hcs, hns, hts, hcontents, ?_, ?_⟩
  · have hlength := congrArg List.length hcontents
    simpa [contents, hfcount, hccount, hncount] using hlength
  · rw [hcontents]
    exact (hfknown.append hcknown).append hnknown

/-- **Large programs are tokenized copy by copy.** A program of `n` copies of the samples has 57
tokens for each copy and the one at its end, which is at the head of line `12 * n + 1`. The
tokens of a copy are those of the first, twelve lines further down for each copy before it, and
have the kinds and literals of the three samples tokenized one by one. None is unknown. -/
theorem tokenize_large {n : Nat} (hlen : (large n).length < 2 ^ 32 - 1) :
    ∃ fs cs ns one ts last, tokenize function = .ok fs ∧ tokenize conditional = .ok cs ∧
      tokenize numerals = .ok ns ∧ tokenize (large 1) = .ok one ∧
      tokenize (large n) = .ok (ts ++ [.endOfFile last]) ∧
      (withoutEnd one).length = 57 ∧ ts.length = 57 * n ∧
      (∀ i < n, List.Forall₂ (Token.LiesBelow (12 * i)) (withoutEnd one) (part 57 i ts) ∧
        contents (part 57 i ts) =
          contents (withoutEnd fs) ++ contents (withoutEnd cs) ++ contents (withoutEnd ns)) ∧
      last.line.toNat = 12 * n + 1 ∧ last.column = 1 ∧ ∀ t ∈ ts, t.kind ≠ .unknown := by
  obtain ⟨fs, cs, ns, one, hfs, hcs, hns, hone, hcontents, hcount, hknown⟩ := tokenize_block
  rw [large_eq] at hlen
  rw [large_one, large_eq]
  obtain ⟨ts, hts, hrepeats⟩ := tokenize_copies block_ends hone hlen
  rw [lines_block] at hrepeats
  rw [← String.length_toList] at hlen
  have hlast := counts_place hlen
  refine ⟨fs, cs, ns, one, ts, _, hfs, hcs, hns, hone, hts, hcount, ?_, ?_, ?_, ?_, ?_⟩
  · rw [hrepeats.length_eq, hcount]
  · intro i hi
    have hcopy := hrepeats.part_liesBelow hi
    rw [hcount] at hcopy
    exact ⟨hcopy, by rw [contents_of_liesBelow hcopy, hcontents]⟩
  · rw [hlast.line, lineOf_copies, lines_block]
  · rw [← UInt32.toNat_inj, hlast.column, columnOf_copies block_ends]
    rfl
  · have hall : Known (contents ts) := fun c hc => hknown c (hrepeats.contents_subset hc)
    exact hall.kind_ne

/-- The second of two copies stands twelve lines below the first. -/
theorem tokenize_large_two :
    (large 2).length < 2 ^ 32 - 1 ∧
      ∃ one ts, tokenize (large 1) = .ok one ∧
        tokenize (large 2) = .ok (ts ++ [.endOfFile ⟨25, 1⟩]) ∧ ts.length = 114 ∧
        List.Forall₂ (Token.LiesBelow 12) (withoutEnd one) (part 57 1 ts) := by
  have hlen : (large 2).length < 2 ^ 32 - 1 := by
    rw [length_large]
    decide
  obtain ⟨fs, cs, ns, one, ts, ⟨line, column⟩, -, -, -, hone, hts, -, hcount, hcopies, hline,
    hcolumn, -⟩ := tokenize_large hlen
  obtain rfl : line = 25 := UInt32.toNat_inj.mp hline
  obtain rfl : column = 1 := hcolumn
  exact ⟨hlen, one, ts, hone, hts, hcount, (hcopies 1 (by decide)).1⟩

end Samples

end MonkeyTokens
