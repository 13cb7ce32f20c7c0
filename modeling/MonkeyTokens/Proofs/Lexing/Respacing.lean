import MonkeyTokens.Proofs.Lexing.Seams

/-!
Texts with other blanks.

The tokens of a text do not depend on the blanks between them. `spaced` writes literals
with blanks of any kind before, between and behind them, and as long as some blank stands
between any two (`Spacing`), the text is tokenized into the same kinds and literals. With a
single space between them the literals are a `normalForm`. The main statement is
`tokenize_spaced`.
-/

namespace MonkeyTokens

open Lexing

/-- The kinds and the literals of tokens, without the places where they stand. -/
def contents (ts : List Token) : List (Token.Kind × String) := ts.map fun t => (t.kind, t.literal)

/-- The literals of a text, in order. -/
def literals (ts : List Token) : List String := (withoutEnd ts).map Token.literal

/-- The literals of a text with a single space between them. -/
def normalForm (ts : List Token) : String := " ".intercalate (literals ts)

/-- Literals, each with the text behind it, and a text before the first of them. -/
def spaced (before : String) : List (String × String) → String
  | [] => before
  | (literal, gap) :: more => before ++ literal ++ spaced gap more

/-- The texts between literals are blank, and only the last of them may be empty. -/
structure Spacing (before : String) (pairs : List (String × String)) : Prop where
  before : ∀ c ∈ before.toList, Blank c
  gaps : ∀ pair ∈ pairs, ∀ c ∈ pair.2.toList, Blank c
  between : ∀ pair ∈ pairs.dropLast, pair.2 ≠ ""

/-! ### Literals in other places -/

/-- Blanks behind the first literal are blanks before the others. -/
theorem Spacing.tail {before literal gap : String} {more : List (String × String)}
    (h : Spacing before ((literal, gap) :: more)) :
    Spacing gap more ∧ (gap = "" → more = []) := by
  have hgap : ∀ c ∈ gap.toList, Blank c := h.gaps _ (List.mem_cons_self ..)
  have hmore : ∀ pair ∈ more, ∀ c ∈ pair.2.toList, Blank c := by
    intro pair hpair
    exact h.gaps pair (List.mem_cons_of_mem _ hpair)
  cases more with
  | nil => exact ⟨⟨hgap, hmore, by simp⟩, fun _ => rfl⟩
  | cons next more =>
    have hbetween : ∀ pair ∈ (literal, gap) :: (next :: more).dropLast, pair.2 ≠ "" := h.between
    refine ⟨⟨hgap, hmore, ?_⟩, ?_⟩
    · intro pair hpair
      exact hbetween pair (List.mem_cons_of_mem _ hpair)
    · intro hnil
      exact absurd hnil (hbetween _ (List.mem_cons_self ..))

/-- What is written behind a literal begins with a blank, if anything is. -/
theorem separated_spaced {gap : String} {more : List (String × String)} (h : Spacing gap more)
    (hne : gap = "" → more = []) : Separated (spaced gap more).toList := by
  cases more with
  | nil => exact separated_of_blank h.before
  | cons pair more =>
    have hgap : gap.toList ≠ [] := by
      intro hnil
      cases hne (String.toList_eq_nil_iff.mp hnil)
    rw [spaced, String.append_assoc, String.toList_append]
    apply separated_append h.before
    intro hnil
    exact absurd hnil hgap

/-- Literals that are cut from a text are cut from any text that spaces them. -/
theorem lexes_spaced {cs blanks : List Char} {ps : List Piece} (h : Lexes cs ps (.clean blanks))
    {before : String} {pairs : List (String × String)} (hspacing : Spacing before pairs)
    (hpairs : pairs.map Prod.fst = ps.map fun p => String.ofList p.literal) :
    ∃ qs blanks', Lexes (spaced before pairs).toList qs (.clean blanks') ∧
      qs.map (fun p => (p.kind, String.ofList p.literal)) =
        ps.map fun p => (p.kind, String.ofList p.literal) := by
  generalize hstop : Stop.clean blanks = stop at h
  induction h generalizing before pairs with
  | clean =>
    obtain rfl := List.map_eq_nil_iff.mp hpairs
    exact ⟨[], _, .clean hspacing.before, rfl⟩
  | refused => cases hstop
  | @piece cs blanks' text literal rest kind ps stop _ hlex _ ih =>
    obtain ⟨⟨_, gap⟩, more, rfl, rfl, hmore⟩ := List.map_eq_cons_iff.mp hpairs
    obtain ⟨hspacing', hgap⟩ := hspacing.tail
    obtain ⟨qs, blanks'', hlexes, hcontents⟩ := ih hspacing' hmore hstop
    have hlex' := hlex.separated (separated_spaced hspacing' hgap)
    have hrun : MaximalRun Blank (before.toList ++ (literal ++ (spaced gap more).toList))
        before.toList (literal ++ (spaced gap more).toList) := by
      refine ⟨rfl, hspacing.before, ?_⟩
      intro c hc
      rw [List.head?_append_of_ne_nil _ hlex.ne_nil] at hc
      exact hlex.not_blank c (List.mem_of_head? hc)
    refine ⟨⟨before.toList, kind, literal⟩ :: qs, blanks'', ?_, ?_⟩
    · rw [spaced, String.append_assoc, String.toList_append, String.toList_append,
        String.toList_ofList]
      exact .piece hrun hlex' hlexes
    · rw [List.map_cons, List.map_cons, hcontents]

/-! ### A single space -/

/-- Literals, each with the single space behind it, and nothing behind the last. -/
def singly : List String → List (String × String)
  | [] => []
  | [literal] => [(literal, "")]
  | literal :: next :: more => (literal, " ") :: singly (next :: more)

theorem map_fst_singly (ls : List String) : (singly ls).map Prod.fst = ls := by
  fun_induction singly ls with
  | case1 => rfl
  | case2 => rfl
  | case3 literal next more ih => rw [List.map_cons, ih]

theorem spaced_singly (before : String) (ls : List String) :
    spaced before (singly ls) = before ++ " ".intercalate ls := by
  fun_induction singly ls generalizing before with
  | case1 => simp [spaced]
  | case2 literal => simp [spaced]
  | case3 literal next more ih =>
    rw [spaced, ih, String.intercalate_cons_cons]
    simp only [String.append_assoc]

theorem blank_of_mem_singly (ls : List String) :
    ∀ pair ∈ singly ls, ∀ c ∈ pair.2.toList, Blank c := by
  fun_induction singly ls with
  | case1 => simp
  | case2 literal => simp
  | case3 literal next more ih =>
    have hspace : ∀ c ∈ " ".toList, Blank c := by simp [Blank]
    intro pair hpair
    rcases List.mem_cons.mp hpair with rfl | hpair
    · exact hspace
    · exact ih pair hpair

theorem spacing_singly (ls : List String) : Spacing "" (singly ls) := by
  refine ⟨by simp, blank_of_mem_singly ls, ?_⟩
  fun_induction singly ls with
  | case1 => simp
  | case2 literal => simp
  | case3 literal next more ih =>
    have hne : singly (next :: more) ≠ [] := by
      intro hnil
      have hlength := congrArg List.length (map_fst_singly (next :: more))
      rw [hnil] at hlength
      cases hlength
    rw [List.dropLast_cons_of_ne_nil hne]
    intro pair hpair
    rcases List.mem_cons.mp hpair with rfl | hpair
    · simp
    · exact ih pair hpair

/-! ### Texts -/

/-- The literals are a part of the contents. -/
theorem literals_eq (ts : List Token) :
    literals ts = ((contents ts).filter fun c => !(c.1 == .endOfFile)).map Prod.snd := by
  rw [literals, withoutEnd, contents, List.filter_map, List.map_map]
  rfl

theorem contents_of_clean {s : String} {ts : List Token} {ps : List Piece} {blanks : List Char}
    (h : Lexes s.toList ps (.clean blanks)) (hts : tokenize s = .ok ts) :
    contents ts = ps.map (fun p => (p.kind, String.ofList p.literal)) ++ [(.endOfFile, "")] := by
  rw [tokenize_of_clean h] at hts
  obtain rfl := Except.ok.inj hts
  rw [contents, List.map_append, map_tokensFrom]
  rfl

/-- Literals with other blanks between them are tokenized as before. -/
theorem exists_tokenize_spaced {s : String} {ts : List Token} (hts : tokenize s = .ok ts)
    {before : String} {pairs : List (String × String)} (hspacing : Spacing before pairs)
    (hpairs : pairs.map Prod.fst = literals ts) :
    ∃ us, tokenize (spaced before pairs) = .ok us ∧ contents us = contents ts := by
  obtain ⟨ps, blanks, hlexes, rfl⟩ := lexes_of_tokenize_ok hts
  have hliterals : literals (tokensFrom [] ps ++ [.endOfFile (place s.toList)]) =
      ps.map fun p => String.ofList p.literal := by
    have hmap := congrArg (List.map Prod.snd) (map_tokensFrom [] ps)
    rw [List.map_map, List.map_map] at hmap
    rw [literals, withoutEnd_tokensFrom hlexes]
    exact hmap
  obtain ⟨qs, blanks', hlexes', hcontents⟩ := lexes_spaced hlexes hspacing (hpairs.trans hliterals)
  refine ⟨_, tokenize_of_clean hlexes', ?_⟩
  rw [contents_of_clean hlexes' (tokenize_of_clean hlexes'), hcontents,
    contents_of_clean hlexes hts]

/-- **Blanks between tokens do not matter.** The literals of a text with any blanks before,
between and behind them, but at least one between any two, are tokenized into the same
kinds and literals. With a single space between any two they are the normal form of the
text, which is tokenized into the same kinds and literals and is its own normal form. -/
theorem tokenize_spaced {s : String} {ts : List Token} (hts : tokenize s = .ok ts) :
    (∀ before pairs, Spacing before pairs → pairs.map Prod.fst = literals ts →
      ∃ us, tokenize (spaced before pairs) = .ok us ∧ contents us = contents ts ∧
        normalForm us = normalForm ts) ∧
      ∃ us, tokenize (normalForm ts) = .ok us ∧ contents us = contents ts ∧
        normalForm us = normalForm ts := by
  have hnormal : ∀ us, contents us = contents ts → normalForm us = normalForm ts := by
    intro us hcontents
    rw [normalForm, normalForm, literals_eq, literals_eq, hcontents]
  constructor
  · intro before pairs hspacing hpairs
    obtain ⟨us, hus, hcontents⟩ := exists_tokenize_spaced hts hspacing hpairs
    exact ⟨us, hus, hcontents, hnormal us hcontents⟩
  · obtain ⟨us, hus, hcontents⟩ :=
      exists_tokenize_spaced hts (spacing_singly (literals ts)) (map_fst_singly _)
    rw [spaced_singly, String.empty_append] at hus
    exact ⟨us, hus, hcontents, hnormal us hcontents⟩

/-- A binary numeral without digits and a digit that is glued to it, and a zero before a
foreign character, each put in front of other blanks. -/
theorem tokenize_spaced_glued :
    let ts : List Token := [⟨.integer, "0b", ⟨⟨1, 1⟩, ⟨1, 2⟩⟩⟩, ⟨.integer, "2", .point ⟨1, 3⟩⟩,
      ⟨.integer, "0", .point ⟨1, 5⟩⟩, ⟨.integer, "0", .point ⟨2, 1⟩⟩,
      ⟨.unknown, "é", .point ⟨2, 2⟩⟩, .endOfFile ⟨2, 3⟩]
    let pairs := [("0b", "\t"), ("2", "\n\n"), ("0", " "), ("0", "\r\n"), ("é", "")]
    tokenize "0b2 0\n0é" = .ok ts ∧ Spacing "\r" pairs ∧ pairs.map Prod.fst = literals ts ∧
      (∃ us, tokenize "\r0b\t2\n\n0 0\r\né" = .ok us ∧ contents us = contents ts) ∧
      ∃ us, tokenize "0b 2 0 0 é" = .ok us ∧ contents us = contents ts := by
  intro ts pairs
  have hts : tokenize "0b2 0\n0é" = .ok ts := by decide +kernel
  have hspacing : Spacing "\r" pairs :=
    ⟨by simp [Blank], by simp [pairs, Blank], by simp [pairs]⟩
  have hpairs : pairs.map Prod.fst = literals ts := by decide
  obtain ⟨hspaced, us', hus', hcontents', -⟩ := tokenize_spaced hts
  obtain ⟨us, hus, hcontents, -⟩ := hspaced "\r" pairs hspacing hpairs
  exact ⟨hts, hspacing, hpairs, ⟨us, hus, hcontents⟩, us', hus', hcontents'⟩

end MonkeyTokens
