import MonkeyTokens.Text.Json
import MonkeyTokens.Text.Quoted

/-!
Which characters a text consists of.

Numbers, quoted texts and JSON values stay on one line, whatever they stand for, because
they are written without control characters. `Text.ConsistsOf` states such a property of
all the characters of a text; it passes from the parts of a text to the whole. Numbers and
quoted texts have no control character of ASCII (`clear_repr`, `clear_quoted`), and a JSON
value has none below the space if its parts have none (`Json.plain_string`,
`Json.plain_array`, `Json.plain_object`).
-/

namespace MonkeyTokens

namespace Text

/-- All the characters of a text have a property. -/
def ConsistsOf (p : Char → Bool) (s : String) : Prop := s.toList.all p = true

instance (p : Char → Bool) (s : String) : Decidable (ConsistsOf p s) :=
  inferInstanceAs (Decidable (_ = true))

/-- A text without control characters of ASCII. -/
abbrev Clear (s : String) : Prop := ConsistsOf (!isControl ·) s

/-- A text without a line feed. -/
abbrev OneLine (s : String) : Prop := ConsistsOf (· != '\n') s

section

variable {p q : Char → Bool} {s t : String}

theorem consistsOf_iff : ConsistsOf p s ↔ ∀ c ∈ s.toList, p c = true := List.all_eq_true

@[simp] theorem consistsOf_append : ConsistsOf p (s ++ t) ↔ ConsistsOf p s ∧ ConsistsOf p t := by
  simp [ConsistsOf]

theorem consistsOf_ofList {cs : List Char} :
    ConsistsOf p (String.ofList cs) ↔ cs.all p = true := by
  simp [ConsistsOf]

theorem ConsistsOf.imp (h : ConsistsOf p s) (hpq : ∀ c, p c = true → q c = true) :
    ConsistsOf q s :=
  consistsOf_iff.mpr fun c hc => hpq c (consistsOf_iff.mp h c hc)

theorem ConsistsOf.intercalate {texts : List String} (hs : ConsistsOf p s)
    (h : ∀ t ∈ texts, ConsistsOf p t) : ConsistsOf p (s.intercalate texts) := by
  induction texts with
  | nil => simp [ConsistsOf]
  | cons t texts ih =>
    obtain ⟨ht, htexts⟩ := List.forall_mem_cons.mp h
    cases texts with
    | nil => rwa [String.intercalate_singleton]
    | cons u texts =>
      rw [String.intercalate_cons_cons, consistsOf_append, consistsOf_append]
      exact ⟨⟨ht, hs⟩, ih htexts⟩

theorem ConsistsOf.oneLine (h : ConsistsOf p s) (hp : p '\n' = false) : OneLine s := by
  refine h.imp ?_
  intro c hc
  rw [bne_iff_ne]
  rintro rfl
  rw [hp] at hc
  cases hc

theorem Clear.oneLine (h : Clear s) : OneLine s := ConsistsOf.oneLine h (by decide)

end

/-! ### Digits -/

theorem exists_digitChar_of_mem_toDigits {b n : Nat} {c : Char} (hb : 1 < b)
    (h : c ∈ Nat.toDigits b n) : ∃ d, c = Nat.digitChar d := by
  induction n using Nat.strongRecOn with
  | ind n ih =>
    rw [Nat.toDigits_eq_if hb] at h
    split at h
    · exact ⟨n, List.mem_singleton.mp h⟩
    · rename_i hle
      rcases List.mem_append.mp h with h | h
      · exact ih (n / b) (Nat.div_lt_self (by omega) hb) h
      · exact ⟨n % b, List.mem_singleton.mp h⟩

/-- What holds of the sixteen digits, and of the asterisk that stands for anything larger,
holds of every number written as one character. -/
theorem digitChar_induction {P : Char → Prop} (hsmall : ∀ d < 16, P (Nat.digitChar d))
    (hstar : P '*') (d : Nat) : P (Nat.digitChar d) := by
  rcases Nat.lt_or_ge d 16 with h | h
  · exact hsmall d h
  · rwa [Nat.digitChar_eq_star.mpr h]

@[simp] theorem isControl_digitChar (d : Nat) : isControl (Nat.digitChar d) = false :=
  digitChar_induction (P := fun c => isControl c = false) (by decide) (by decide) d

theorem all_toDigits {b : Nat} (hb : 1 < b) (n : Nat) :
    (Nat.toDigits b n).all (!isControl ·) = true := by
  rw [List.all_eq_true]
  intro c hc
  obtain ⟨d, rfl⟩ := exists_digitChar_of_mem_toDigits hb hc
  simp

@[simp] theorem clear_repr (n : Nat) : Clear (Nat.repr n) := by
  rw [Nat.repr_eq_ofList_toDigits]
  exact consistsOf_ofList.mpr (all_toDigits (by omega) n)

/-! ### Quoted text -/

theorem all_quotedChar {delimiter : Char} (hdelimiter : isControl delimiter = false)
    (hidden : Char → Bool) (c : Char) :
    (quotedChar delimiter hidden c).all (!isControl ·) = true := by
  unfold quotedChar
  -- The control characters with a letter or digit of their own.
  iterate 4
    split
    · decide
  split
  · rename_i hquoted
    have hc : isControl c = false := by
      rcases hquoted with rfl | rfl
      · decide
      · exact hdelimiter
    simp +decide [hc]
  split
  · simp +decide [numbered, all_toDigits]
  · rename_i hshown
    simp_all

theorem clear_quoted {delimiter : Char} (hdelimiter : isControl delimiter = false)
    (hidden : Char → Bool) (cs : List Char) :
    Clear (String.ofList (quoted delimiter hidden cs)) := by
  have hbody : (cs.flatMap (quotedChar delimiter hidden)).all (!isControl ·) = true := by
    rw [List.all_flatMap, List.all_eq_true]
    intro c _
    exact all_quotedChar hdelimiter hidden c
  apply consistsOf_ofList.mpr
  simp [quoted, hdelimiter, hbody]

end Text

/-! ### JSON values -/

namespace Json

open Text

/-- A text without control characters below the space. -/
abbrev Plain (s : String) : Prop := ConsistsOf (0x20 ≤ ·.toNat) s

theorem Plain.oneLine {s : String} (h : Plain s) : OneLine s := ConsistsOf.oneLine h (by decide)

theorem lt_space_iff (c : Char) : c < ' ' ↔ c.toNat < 0x20 := Iff.rfl

theorem le_of_not_control {c : Char} (h : isControl c = false) : 0x20 ≤ c.toNat := by
  rw [isControl, Bool.or_eq_false_iff, decide_eq_false_iff_not, lt_space_iff] at h
  omega

theorem plain_of_clear {s : String} (h : Clear s) : Plain s := by
  refine h.imp ?_
  intro c hc
  rw [Bool.not_eq_true'] at hc
  exact decide_eq_true (le_of_not_control hc)

theorem all_stringChar (c : Char) : (stringChar c).all (0x20 ≤ ·.toNat) = true := by
  unfold stringChar
  split
  · rename_i hquoted
    rcases hquoted with rfl | rfl <;> decide
  -- The control characters with a letter of their own.
  iterate 5
    split
    · decide
  split
  · have hdigit : ∀ d, 0x20 ≤ (Nat.digitChar d).toNat := fun d =>
      le_of_not_control (isControl_digitChar d)
    simp +decide [hdigit]
  · rename_i hle
    rw [lt_space_iff, Nat.not_lt] at hle
    simpa using hle

theorem plain_string (s : String) : Plain (string s) := by
  have hbody : (s.toList.flatMap stringChar).all (0x20 ≤ ·.toNat) = true := by
    rw [List.all_flatMap, List.all_eq_true]
    intro c _
    exact all_stringChar c
  apply consistsOf_ofList.mpr
  simp +decide [hbody]

theorem plain_number (n : Nat) : Plain (number n) := plain_of_clear (clear_repr n)

theorem plain_array {values : List String} (h : ∀ v ∈ values, Plain v) : Plain (array values) := by
  have hvalues : Plain (",".intercalate values) := ConsistsOf.intercalate (by decide) h
  simp +decide [array, hvalues]

theorem plain_object {members : List (String × String)} (h : ∀ m ∈ members, Plain m.2) :
    Plain (object members) := by
  refine consistsOf_append.mpr ⟨consistsOf_append.mpr ⟨by decide, ?_⟩, by decide⟩
  refine ConsistsOf.intercalate (by decide) ?_
  intro text htext
  obtain ⟨m, hm, rfl⟩ := List.mem_map.mp htext
  simp +decide [plain_string, h m hm]

end Json

end MonkeyTokens
