import Mathlib.Data.List.Forall2
import MonkeyTokens.Proofs.Lexing.Seams

/-!
Texts on lines of their own.

Nothing of a text reaches over a line break, so a text whose tokens are followed by a line
feed and another text is tokenized into the tokens of both. Those of the second stand as
many lines further down as the first has lines, in the same columns: `LiesBelow` says so of
positions and of tokens, and `place_liesBelow` of all the characters behind a line feed. An
error that ends the first text is there whatever follows it. The main statement is
`tokenize_line_break`.
-/

namespace MonkeyTokens

open Lexing

/-! ### Lines further down -/

/-- The position `q` is `n` lines below `p`, in the same column. -/
structure Position.LiesBelow (n : Nat) (p q : Position) : Prop where
  line : q.line.toNat = p.line.toNat + n
  column : q.column = p.column

/-- The token `u` is `t`, but `n` lines further down. -/
structure Token.LiesBelow (n : Nat) (t u : Token) : Prop where
  kind : u.kind = t.kind
  literal : u.literal = t.literal
  first : t.span.first.LiesBelow n u.span.first
  last : t.span.last.LiesBelow n u.span.last

theorem lineOf_line_break (a b : List Char) : lineOf (a ++ '\n' :: b) = lineOf b + lineOf a := by
  rw [lineOf_append, List.count_cons_self, lineOf, lineOf]
  omega

theorem columnOf_line_break (a b : List Char) : columnOf (a ++ '\n' :: b) = columnOf b := by
  have hreverse : (a ++ '\n' :: b).reverse = b.reverse ++ '\n' :: a.reverse := by simp
  rw [columnOf, columnOf, hreverse, List.takeWhile_append]
  split
  · rename_i hall
    rw [List.length_append, ← hall]
    simp
  · rfl

/-- Behind a line feed, a character stands below the place it has without the text before. -/
theorem place_liesBelow {a b : List Char} (hlen : (a ++ '\n' :: b).length < 2 ^ 32 - 1) :
    (place b).LiesBelow (lineOf a) (place (a ++ '\n' :: b)) := by
  have hb : b.length < 2 ^ 32 - 1 := by
    rw [List.length_append, List.length_cons] at hlen
    omega
  have hshort := counts_place hb
  have hlong := counts_place hlen
  constructor
  · rw [hlong.line, hshort.line, lineOf_line_break]
  · rw [← UInt32.toNat_inj, hlong.column, hshort.column, columnOf_line_break]

theorem locate_liesBelow (kind : Token.Kind) {a before literal : List Char}
    (hlen : (a ++ '\n' :: (before ++ literal)).length < 2 ^ 32 - 1) :
    (locate kind literal before).LiesBelow (lineOf a)
      (locate kind literal (a ++ '\n' :: before)) := by
  have hlast : (a ++ '\n' :: (before ++ literal.dropLast)).length < 2 ^ 32 - 1 := by
    simp only [List.length_append, List.length_cons, List.length_dropLast] at hlen ⊢
    omega
  have hfirst : (a ++ '\n' :: before).length < 2 ^ 32 - 1 := by
    simp only [List.length_append, List.length_cons] at hlen ⊢
    omega
  refine ⟨rfl, rfl, place_liesBelow hfirst, ?_⟩
  have h := place_liesBelow hlast
  rwa [← List.cons_append, ← List.append_assoc] at h

theorem tokensFrom_liesBelow (before : List Char) {a : List Char} {ps : List Piece}
    (hlen : (a ++ '\n' :: (before ++ textOf ps)).length < 2 ^ 32 - 1) :
    List.Forall₂ (Token.LiesBelow (lineOf a)) (tokensFrom before ps)
      (tokensFrom (a ++ '\n' :: before) ps) := by
  induction ps generalizing before with
  | nil => exact .nil
  | cons p ps ih =>
    have hsplit : before ++ textOf (p :: ps) = before ++ p.blanks ++ p.literal ++ textOf ps := by
      simp
    rw [hsplit] at hlen
    have hshort : (a ++ '\n' :: (before ++ p.blanks ++ p.literal)).length < 2 ^ 32 - 1 := by
      simp only [List.length_append, List.length_cons] at hlen ⊢
      omega
    have hhead := locate_liesBelow p.kind hshort
    have htail := ih _ hlen
    rw [tokensFrom, tokensFrom]
    simp only [List.append_assoc, List.cons_append] at hhead htail ⊢
    exact .cons hhead htail

/-! ### Two texts and the line feed between them -/

section

variable {a b : String} {blanks : List Char} {ps qs : List Piece}

/-- A line feed behind a text belongs to what is left of it. -/
theorem lexes_line_break (h : Lexes a.toList ps (.clean blanks)) :
    Lexes (a ++ "\n").toList ps (.clean (blanks ++ ['\n'])) := by
  rw [String.toList_append]
  exact h.trail (List.forall_mem_singleton.mpr (by decide))

theorem tokenize_line_break_of_clean {blanks' : List Char} (ha : Lexes a.toList ps (.clean blanks))
    (hb : Lexes b.toList qs (.clean blanks')) : tokenize (a ++ "\n" ++ b) =
      .ok (tokensFrom [] ps ++ (tokensFrom (a.toList ++ ['\n']) qs ++
        [.endOfFile (place (a.toList ++ '\n' :: b.toList))])) := by
  rw [tokenize_seam_of_clean (lexes_line_break ha) hb (by simp)]
  simp

theorem tokenize_line_break_of_refused {blanks' rest : List Char} {letter : Char}
    (ha : Lexes a.toList ps (.clean blanks))
    (hb : Lexes b.toList qs (.refused blanks' letter rest)) : tokenize (a ++ "\n" ++ b) =
      .error ⟨.unknownRadix letter,
        place (a.toList ++ '\n' :: (textOf qs ++ blanks' ++ ['0']))⟩ := by
  rw [tokenize, items_seam (lexes_line_break ha) hb (by simp), lastItem, mapM_id_error]
  simp

end

/-- **Texts on lines of their own are tokenized on their own.** An error in a text is the
error of every text that begins with it. A text without one is tokenized into the same
tokens where a line feed and another text follow it, and the tokens of the other text
follow these, as many lines further down as the first text has lines, and in the same
columns; or else the error of the other text does, just as far below. -/
theorem tokenize_line_break {a b : String} (hlen : a.length + b.length < 2 ^ 32 - 2) :
    (∀ e, tokenize a = .error e → ∀ x, tokenize (a ++ x) = .error e) ∧
      ∀ ts, tokenize a = .ok ts →
        (∀ us, tokenize b = .ok us → ∃ moved,
          tokenize (a ++ "\n" ++ b) = .ok (withoutEnd ts ++ moved) ∧
            List.Forall₂ (Token.LiesBelow (1 + a.toList.count '\n')) us moved) ∧
        ∀ e, tokenize b = .error e → ∃ moved, tokenize (a ++ "\n" ++ b) = .error moved ∧
          moved.cause = e.cause ∧
          e.position.LiesBelow (1 + a.toList.count '\n') moved.position := by
  rw [← String.length_toList, ← String.length_toList] at hlen
  constructor
  · intro e he x
    obtain ⟨ps, blanks, letter, rest, hlexes, rfl⟩ := lexes_of_tokenize_error he
    have happend := hlexes.refused_append x.toList
    rw [← String.toList_append] at happend
    exact tokenize_of_refused happend
  intro ts hts
  obtain ⟨ps, blanks, ha, rfl⟩ := lexes_of_tokenize_ok hts
  rw [withoutEnd_tokensFrom ha]
  have hshort : ∀ before, before <+: b.toList →
      (a.toList ++ '\n' :: before).length < 2 ^ 32 - 1 := by
    intro before hbefore
    have := hbefore.length_le
    rw [List.length_append, List.length_cons]
    omega
  constructor
  · intro us hus
    obtain ⟨qs, blanks', hb, rfl⟩ := lexes_of_tokenize_ok hus
    refine ⟨_, tokenize_line_break_of_clean ha hb, ?_⟩
    have hend := place_liesBelow (hshort _ List.prefix_rfl)
    have hpieces : textOf qs <+: b.toList := ⟨blanks', hb.text_eq.symm⟩
    have htokens := tokensFrom_liesBelow [] (hshort _ hpieces)
    exact List.rel_append htokens (.cons ⟨rfl, rfl, hend, hend⟩ .nil)
  · intro e he
    obtain ⟨qs, blanks', letter, rest, hb, rfl⟩ := lexes_of_tokenize_error he
    refine ⟨_, tokenize_line_break_of_refused ha hb, rfl, ?_⟩
    apply place_liesBelow
    apply hshort
    refine ⟨letter :: rest, ?_⟩
    rw [hb.text_eq]
    simp [Stop.text]

/-- A lone zero that ends a text of two lines, in front of a letter on the next. -/
theorem tokenize_line_break_letter :
    let ts : List Token := [.ofChar (.mark .bang) '!' ⟨1, 1⟩, ⟨.integer, "0", .point ⟨2, 1⟩⟩,
      .endOfFile ⟨2, 2⟩]
    let us : List Token := [⟨.identifier, "q", .point ⟨1, 1⟩⟩, .endOfFile ⟨1, 2⟩]
    "!\n0".length + "q".length < 2 ^ 32 - 2 ∧ tokenize "!\n0" = .ok ts ∧ tokenize "q" = .ok us ∧
      ∃ moved, tokenize "!\n0\nq" = .ok (withoutEnd ts ++ moved) ∧
        List.Forall₂ (Token.LiesBelow 2) us moved := by
  intro ts us
  have hlen : "!\n0".length + "q".length < 2 ^ 32 - 2 := by decide
  have hts : tokenize "!\n0" = .ok ts := by decide +kernel
  have hus : tokenize "q" = .ok us := by decide +kernel
  exact ⟨hlen, hts, hus, ((tokenize_line_break hlen).2 ts hts).1 us hus⟩

end MonkeyTokens
