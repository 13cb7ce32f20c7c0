import Mathlib.Data.List.TakeWhile
import Mathlib.Tactic.Common
import MonkeyTokens.Character
import MonkeyTokens.Numeral
import MonkeyTokens.Token.Kind

/-!
The lexical grammar of the Monkey language.

The grammar is stated over the characters of a text, without cursor, lookahead or
positions. A `MaximalRun` is the longest beginning of a text in a class of characters,
and a `Lexeme` is one mark, word, numeral or foreign character at the head of a text.
A text that does not begin with a blank begins with a lexeme, or with a zero that a
letter follows which names no radix (`exists_lexeme`), and a lexeme that ends within a
text does not depend on what follows it (`Lexeme.append`).

The classes are spelled out by their characters. The section on classes shows that the
tests of the scanner decide them.
-/

namespace MonkeyTokens.Lexing

/-! ### Classes of characters -/

/-- A space, a tab, a carriage return or a line feed. -/
def Blank (c : Char) : Prop := c = ' ' ∨ c = '\t' ∨ c = '\r' ∨ c = '\n'

/-- A letter of ASCII. -/
def Letter (c : Char) : Prop := 'A' ≤ c ∧ c ≤ 'Z' ∨ 'a' ≤ c ∧ c ≤ 'z'

/-- A digit of ASCII. -/
def Digit (c : Char) : Prop := '0' ≤ c ∧ c ≤ '9'

/-- What a word consists of. -/
def WordChar (c : Char) : Prop := Letter c ∨ c = '_'

/-- What a decimal numeral consists of. -/
def DecimalChar (c : Char) : Prop := Digit c ∨ c = '_'

/-- What may follow the letter of a radix. -/
def RadixChar : Radix → Char → Prop
  | .binary, c => c = '0' ∨ c = '1' ∨ c = '_'
  | .octal, c => '0' ≤ c ∧ c ≤ '7' ∨ c = '_'
  | .hexadecimal, c => Digit c ∨ 'A' ≤ c ∧ c ≤ 'F' ∨ 'a' ≤ c ∧ c ≤ 'f' ∨ c = '_'

instance : DecidablePred Blank := fun c =>
  inferInstanceAs (Decidable (c = ' ' ∨ c = '\t' ∨ c = '\r' ∨ c = '\n'))

instance : DecidablePred Letter := fun c =>
  inferInstanceAs (Decidable ('A' ≤ c ∧ c ≤ 'Z' ∨ 'a' ≤ c ∧ c ≤ 'z'))

instance : DecidablePred Digit := fun c => inferInstanceAs (Decidable ('0' ≤ c ∧ c ≤ '9'))

instance : DecidablePred WordChar := fun c => inferInstanceAs (Decidable (Letter c ∨ c = '_'))

instance : DecidablePred DecimalChar := fun c => inferInstanceAs (Decidable (Digit c ∨ c = '_'))

instance : ∀ r : Radix, DecidablePred (RadixChar r)
  | .binary, c => inferInstanceAs (Decidable (c = '0' ∨ c = '1' ∨ c = '_'))
  | .octal, c => inferInstanceAs (Decidable ('0' ≤ c ∧ c ≤ '7' ∨ c = '_'))
  | .hexadecimal, c => inferInstanceAs
    (Decidable (Digit c ∨ 'A' ≤ c ∧ c ≤ 'F' ∨ 'a' ≤ c ∧ c ≤ 'f' ∨ c = '_'))

theorem isBlank_iff {c : Char} : isBlank c = true ↔ Blank c := by
  simp [isBlank, Blank, or_assoc]

theorem isUpper_iff {c : Char} : c.isUpper = true ↔ 'A' ≤ c ∧ c ≤ 'Z' := decide_eq_true_iff

theorem isLower_iff {c : Char} : c.isLower = true ↔ 'a' ≤ c ∧ c ≤ 'z' := by
  change (decide ('a' ≤ c) && decide (c ≤ 'z')) = true ↔ _
  rw [Bool.and_eq_true, decide_eq_true_iff, decide_eq_true_iff]

theorem isAlpha_iff {c : Char} : c.isAlpha = true ↔ Letter c := by
  change (c.isUpper || c.isLower) = true ↔ _
  rw [Bool.or_eq_true, isUpper_iff, isLower_iff, Letter]

theorem isDigit_iff {c : Char} : c.isDigit = true ↔ Digit c := by
  change (decide ('0' ≤ c) && decide (c ≤ '9')) = true ↔ _
  rw [Bool.and_eq_true, decide_eq_true_iff, decide_eq_true_iff, Digit]

theorem isWordChar_iff {c : Char} : isWordChar c = true ↔ WordChar c := by
  simp [isWordChar, WordChar, isAlpha_iff]

theorem isDecimalChar_iff {c : Char} : isDecimalChar c = true ↔ DecimalChar c := by
  simp [isDecimalChar, DecimalChar, isDigit_iff]

theorem accepts_iff {r : Radix} {c : Char} : r.accepts c = true ↔ RadixChar r c := by
  cases r <;> simp [Radix.accepts, Radix.hasDigit, RadixChar, isDigit_iff, or_assoc]
  tauto

theorem ofLetter?_eq_some_iff {r : Radix} {c : Char} :
    Radix.ofLetter? c = some r ↔ c = r.letter := by
  constructor
  · intro h
    unfold Radix.ofLetter? at h
    split at h <;> cases h <;> rfl
  · rintro rfl
    exact Radix.ofLetter?_letter r

theorem ofChar?_eq_some_iff {m : Mark} {c : Char} : Mark.ofChar? c = some m ↔ c = m.char := by
  constructor
  · intro h
    unfold Mark.ofChar? at h
    split at h <;> cases h <;> rfl
  · rintro rfl
    exact Mark.ofChar?_char m

theorem ofSpelling?_eq_some_iff {k : Keyword} {word : String} :
    Keyword.ofSpelling? word = some k ↔ word = k.spelling := by
  constructor
  · intro h
    unfold Keyword.ofSpelling? at h
    split at h <;> cases h <;> rfl
  · rintro rfl
    exact Keyword.ofSpelling?_spelling k

/-! ### Maximal runs -/

/-- `run` is the longest beginning of `cs` in the class `p`, and `rest` follows it. -/
structure MaximalRun (p : Char → Prop) (cs run rest : List Char) : Prop where
  split : cs = run ++ rest
  all : ∀ c ∈ run, p c
  stops : ∀ c, rest.head? = some c → ¬ p c

/-- The maximal run is what is taken as long as the class lasts. -/
theorem maximalRun_iff {p : Char → Prop} [DecidablePred p] {cs run rest : List Char} :
    MaximalRun p cs run rest ↔ run = cs.takeWhile (p ·) ∧ rest = cs.dropWhile (p ·) := by
  constructor
  · rintro ⟨rfl, hall, hstops⟩
    have hrun : ∀ c ∈ run, decide (p c) = true := by simpa using hall
    rw [List.takeWhile_append_of_pos hrun, List.dropWhile_append_of_pos hrun]
    cases rest with
    | nil => simp
    | cons c rest => simp [hstops c rfl]
  · rintro ⟨rfl, rfl⟩
    constructor
    · rw [List.takeWhile_append_dropWhile]
    · intro c hc
      have hp := List.mem_takeWhile_imp hc
      exact of_decide_eq_true hp
    · intro c hc
      have hstop := List.head?_dropWhile_not (p ·) cs
      rw [hc] at hstop
      exact of_decide_eq_false hstop

instance (p : Char → Prop) [DecidablePred p] (cs run rest : List Char) :
    Decidable (MaximalRun p cs run rest) := decidable_of_iff' _ maximalRun_iff

theorem exists_maximalRun (p : Char → Prop) [DecidablePred p] (cs : List Char) :
    ∃ run rest, MaximalRun p cs run rest := ⟨_, _, maximalRun_iff.mpr ⟨rfl, rfl⟩⟩

section

variable {p : Char → Prop} {cs run rest more : List Char}

/-- A run that stops within a text stops there whatever follows the text. -/
theorem MaximalRun.append (h : MaximalRun p cs run rest) (hne : rest ≠ [])
    (more : List Char) : MaximalRun p (cs ++ more) run (rest ++ more) := by
  obtain ⟨c, tail, rfl⟩ := List.exists_cons_of_ne_nil hne
  exact ⟨by rw [h.split, List.append_assoc], h.all, h.stops⟩

theorem maximalRun_nil (h : MaximalRun p [] run rest) : run = [] ∧ rest = [] :=
  List.append_eq_nil_iff.mp h.split.symm

/-- The run of a text that begins with a character of the class begins with it. -/
theorem MaximalRun.exists_cons {c : Char} (h : MaximalRun p (c :: cs) run rest) (hc : p c) :
    ∃ tail, run = c :: tail ∧ MaximalRun p cs tail rest := by
  obtain ⟨hsplit, hall, hstops⟩ := h
  cases run with
  | nil =>
    rw [List.nil_append] at hsplit
    exact absurd hc (hstops c (by rw [← hsplit]; rfl))
  | cons d tail =>
    obtain ⟨rfl, htail⟩ := List.cons.inj hsplit
    exact ⟨tail, rfl, htail, fun e he => hall e (List.mem_cons_of_mem _ he), hstops⟩

end

/-! ### Lexemes -/

/-- A lexeme at the head of a text: its kind, its own text, and what follows it. -/
inductive Lexeme : List Char → Token.Kind → List Char → List Char → Prop where
  | mark {m : Mark} {rest : List Char} : Lexeme (m.char :: rest) (.mark m) [m.char] rest
  /-- A word is taken whole before it is compared with the reserved words. -/
  | keyword {cs rest : List Char} {k : Keyword} :
      MaximalRun WordChar cs k.spelling.toList rest →
      Lexeme cs (.keyword k) k.spelling.toList rest
  | identifier {cs run rest : List Char} : MaximalRun WordChar cs run rest → run ≠ [] →
      (∀ k : Keyword, k.spelling.toList ≠ run) → Lexeme cs .identifier run rest
  /-- The run after the letter of the radix may be empty. -/
  | based {r : Radix} {cs run rest : List Char} : MaximalRun (RadixChar r) cs run rest →
      Lexeme ('0' :: r.letter :: cs) .integer ('0' :: r.letter :: run) rest
  | decimal {d : Char} {cs run rest : List Char} : Digit d →
      (d = '0' → ∀ c, cs.head? = some c → ¬ Letter c) →
      MaximalRun DecimalChar (d :: cs) run rest → Lexeme (d :: cs) .integer run rest
  | unknown {c : Char} {rest : List Char} : ¬ Blank c → (∀ m : Mark, c ≠ m.char) →
      ¬ WordChar c → ¬ Digit c → Lexeme (c :: rest) .unknown [c] rest

/-- A zero and a letter that names no radix, at the head of a text. -/
inductive BadZero : List Char → Char → Prop where
  | mk {letter : Char} {rest : List Char} : Letter letter → (∀ r : Radix, letter ≠ r.letter) →
      BadZero ('0' :: letter :: rest) letter

theorem Digit.not_wordChar {c : Char} (h : Digit c) : ¬ WordChar c := by
  rintro (h' | rfl)
  · simp only [Digit, Letter, Char.le_def, UInt32.le_iff_toNat_le, Char.reduceVal,
      UInt32.reduceToNat] at h h'
    omega
  · exact absurd h (by decide)

theorem Blank.not_decimalChar {c : Char} (h : Blank c) : ¬ DecimalChar c := by
  rcases h with rfl | rfl | rfl | rfl <;> decide

theorem Blank.not_wordChar {c : Char} (h : Blank c) : ¬ WordChar c := by
  rcases h with rfl | rfl | rfl | rfl <;> decide

theorem Blank.not_radixChar {c : Char} (h : Blank c) (r : Radix) : ¬ RadixChar r c := by
  rcases h with rfl | rfl | rfl | rfl <;> cases r <;> decide

theorem not_blank_letter (r : Radix) : ¬ Blank r.letter := by cases r <;> decide

theorem not_blank_char (m : Mark) : ¬ Blank m.char := by cases m <;> decide

theorem not_wordChar_char (m : Mark) : ¬ WordChar m.char := by cases m <;> decide

theorem not_digit_char (m : Mark) : ¬ Digit m.char := by cases m <;> decide

theorem digit_zero : Digit '0' := by decide

theorem letter_letter (r : Radix) : Letter r.letter := by cases r <;> decide

section

variable {cs literal rest more : List Char} {kind : Token.Kind}

theorem Lexeme.split (h : Lexeme cs kind literal rest) : cs = literal ++ rest := by
  cases h with
  | mark => rfl
  | keyword hrun => exact hrun.split
  | identifier hrun _ _ => exact hrun.split
  | based hrun => rw [hrun.split]; rfl
  | decimal _ _ hrun => exact hrun.split
  | unknown => rfl

theorem Lexeme.ne_nil (h : Lexeme cs kind literal rest) : literal ≠ [] := by
  cases h with
  | mark => simp
  | @keyword _ _ k _ => cases k <;> decide
  | identifier _ hne _ => exact hne
  | based => simp
  | decimal hd _ hrun =>
    obtain ⟨tail, rfl, -⟩ := hrun.exists_cons (.inl hd)
    simp
  | unknown => simp

theorem Lexeme.kind_ne (h : Lexeme cs kind literal rest) : kind ≠ .endOfFile := by
  cases h <;> simp

/-- No lexeme contains a blank. -/
theorem Lexeme.not_blank (h : Lexeme cs kind literal rest) : ∀ c ∈ literal, ¬ Blank c := by
  intro c hc hblank
  cases h with
  | @mark m _ =>
    obtain rfl := List.mem_singleton.mp hc
    exact not_blank_char m hblank
  | keyword hrun => exact hblank.not_wordChar (hrun.all c hc)
  | identifier hrun _ _ => exact hblank.not_wordChar (hrun.all c hc)
  | @based r _ _ _ hrun =>
    rcases List.mem_cons.mp hc with rfl | hc
    · exact absurd hblank (by decide)
    rcases List.mem_cons.mp hc with rfl | hc
    · exact not_blank_letter r hblank
    · exact hblank.not_radixChar r (hrun.all c hc)
  | decimal _ _ hrun => exact hblank.not_decimalChar (hrun.all c hc)
  | unknown hnot _ _ _ =>
    obtain rfl := List.mem_singleton.mp hc
    exact hnot hblank

theorem Lexeme.ne_newline (h : Lexeme cs kind literal rest) : ∀ c ∈ literal, c ≠ '\n' := by
  rintro c hc rfl
  exact h.not_blank _ hc (by decide)

/-- A lexeme that ends within a text is the same whatever follows the text. -/
theorem Lexeme.append (h : Lexeme cs kind literal rest) (hne : rest ≠ []) (more : List Char) :
    Lexeme (cs ++ more) kind literal (rest ++ more) := by
  cases h with
  | mark => exact .mark
  | keyword hrun => exact .keyword (hrun.append hne more)
  | identifier hrun hne' hk => exact .identifier (hrun.append hne more) hne' hk
  | based hrun => exact .based (hrun.append hne more)
  | @decimal d cs _ _ hd hzero hrun =>
    refine .decimal hd ?_ (hrun.append hne more)
    intro hd' c hc
    cases cs with
    | nil =>
      -- The digit is all of the text, so nothing is left to follow the lexeme.
      obtain ⟨tail, rfl, htail⟩ := hrun.exists_cons (.inl hd)
      exact absurd (maximalRun_nil htail).2 hne
    | cons c' cs => exact hzero hd' c hc
  | unknown h₁ h₂ h₃ h₄ => exact .unknown h₁ h₂ h₃ h₄

end

/-- A text that begins with no blank begins with a lexeme or with a bad zero. -/
theorem exists_lexeme {c : Char} (hc : ¬ Blank c) (cs : List Char) :
    (∃ kind literal rest, Lexeme (c :: cs) kind literal rest) ∨
      ∃ letter, BadZero (c :: cs) letter := by
  by_cases hmark : ∃ m : Mark, c = m.char
  · obtain ⟨m, rfl⟩ := hmark
    exact .inl ⟨_, _, _, .mark⟩
  by_cases hword : WordChar c
  · obtain ⟨run, rest, hrun⟩ := exists_maximalRun WordChar (c :: cs)
    by_cases hkeyword : ∃ k : Keyword, k.spelling.toList = run
    · obtain ⟨k, rfl⟩ := hkeyword
      exact .inl ⟨_, _, _, .keyword hrun⟩
    · push Not at hkeyword
      obtain ⟨tail, rfl, -⟩ := hrun.exists_cons hword
      exact .inl ⟨_, _, _, .identifier hrun (by simp) hkeyword⟩
  by_cases hdigit : Digit c
  · by_cases hzero : c = '0' → ∀ l, cs.head? = some l → ¬ Letter l
    · obtain ⟨run, rest, hrun⟩ := exists_maximalRun DecimalChar (c :: cs)
      exact .inl ⟨_, _, _, .decimal hdigit hzero hrun⟩
    · push Not at hzero
      obtain ⟨rfl, letter, hhead, hletter⟩ := hzero
      obtain ⟨tail, rfl⟩ := List.head?_eq_some_iff.mp hhead
      by_cases hradix : ∃ r : Radix, letter = r.letter
      · obtain ⟨r, rfl⟩ := hradix
        obtain ⟨run, rest, hrun⟩ := exists_maximalRun (RadixChar r) tail
        exact .inl ⟨_, _, _, .based hrun⟩
      · push Not at hradix
        exact .inr ⟨letter, .mk hletter hradix⟩
  · push Not at hmark
    exact .inl ⟨_, _, _, .unknown hc hmark hword hdigit⟩

end MonkeyTokens.Lexing
