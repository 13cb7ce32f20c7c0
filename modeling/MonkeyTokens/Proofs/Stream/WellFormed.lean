import Mathlib.Data.List.Basic
import Mathlib.Tactic.ByContra
import Mathlib.Tactic.SplitIfs
import MonkeyTokens.Stream.Utf8

/-!
The well-formed sequences of UTF-8.

`Utf8.WellFormed` is the table of byte ranges that the Unicode standard gives: the
lead byte fixes the length, every other byte is a continuation byte, and four leads
narrow the byte after them, so that overlong forms, surrogates and numbers beyond
the last plane have no sequence. `Utf8.IllFormed` lists the ways in which bytes fail
to begin with such a sequence.

* `wellFormed_iff`: the well-formed sequences are the encodings of the characters.
* `decode?_eq_some_iff`: of the sequences that are as long as their lead announces,
  `Utf8.decode?` takes exactly those.
* `illFormed_iff`: bytes begin with a well-formed sequence or are ill-formed.
-/

namespace MonkeyTokens.Utf8

/-- A byte that can only stand after the first of a sequence. -/
def Continuation (b : UInt8) : Prop := 0x80 ≤ b ∧ b ≤ 0xBF

/-- What the lead `a` of three or four bytes asks of the byte after it. -/
structure Second (a b : UInt8) : Prop where
  continuation : Continuation b
  notOverlong : a = 0xE0 → 0xA0 ≤ b
  notSurrogate : a = 0xED → b ≤ 0x9F
  notOverlongFour : a = 0xF0 → 0x90 ≤ b
  notTooLarge : a = 0xF4 → b ≤ 0x8F

/-- The well-formed sequences of one character. -/
inductive WellFormed : List UInt8 → Prop where
  | one {a : UInt8} : a ≤ 0x7F → WellFormed [a]
  | two {a b : UInt8} : 0xC2 ≤ a → a ≤ 0xDF → Continuation b → WellFormed [a, b]
  | three {a b c : UInt8} : 0xE0 ≤ a → a ≤ 0xEF → Second a b → Continuation c →
      WellFormed [a, b, c]
  | four {a b c d : UInt8} : 0xF0 ≤ a → a ≤ 0xF4 → Second a b → Continuation c →
      Continuation d → WellFormed [a, b, c, d]

/-! ### Well-formed sequences and characters -/

theorem continuation_ofNat (n : Nat) : Continuation (UInt8.ofNat (n % 64 + 128)) := by
  simp only [Continuation, UInt8.le_iff_toNat_le, UInt8.toNat_ofNat', UInt8.reduceToNat]
  omega

theorem wellFormed_encodeChar (c : Char) : WellFormed (String.utf8EncodeChar c) := by
  have hvalid : c.val.toNat < 0xD800 ∨ 0xDFFF < c.val.toNat ∧ c.val.toNat < 0x110000 := c.valid
  unfold String.utf8EncodeChar
  dsimp only
  generalize c.val.toNat = n at hvalid
  split_ifs with h₁ h₂ h₃
  · refine .one ?_
    simp only [UInt8.le_iff_toNat_le, UInt8.toNat_ofNat', UInt8.reduceToNat]
    omega
  · refine .two ?_ ?_ (continuation_ofNat _)
    all_goals
      simp only [UInt8.le_iff_toNat_le, UInt8.toNat_ofNat', UInt8.reduceToNat]
      omega
  · refine .three ?_ ?_ ⟨continuation_ofNat _, ?_, ?_, ?_, ?_⟩ (continuation_ofNat _)
    all_goals
      simp only [UInt8.le_iff_toNat_le, ← UInt8.toNat_inj, UInt8.toNat_ofNat', UInt8.reduceToNat]
      omega
  · refine .four ?_ ?_ ⟨continuation_ofNat _, ?_, ?_, ?_, ?_⟩ (continuation_ofNat _)
      (continuation_ofNat _)
    all_goals
      simp only [UInt8.le_iff_toNat_le, ← UInt8.toNat_inj, UInt8.toNat_ofNat', UInt8.reduceToNat]
      omega

/-- The encoding of the character of a number. -/
theorem encodeChar_ofNatAux {n : Nat} (h : n.isValidChar) :
    String.utf8EncodeChar (Char.ofNatAux n h) =
      if n ≤ 0x7F then [UInt8.ofNat n]
      else if n ≤ 0x7FF then [UInt8.ofNat (n / 64 % 32 + 192), UInt8.ofNat (n % 64 + 128)]
      else if n ≤ 0xFFFF then
        [UInt8.ofNat (n / 4096 % 16 + 224), UInt8.ofNat (n / 64 % 64 + 128),
          UInt8.ofNat (n % 64 + 128)]
      else
        [UInt8.ofNat (n / 262144 % 8 + 240), UInt8.ofNat (n / 4096 % 64 + 128),
          UInt8.ofNat (n / 64 % 64 + 128), UInt8.ofNat (n % 64 + 128)] := rfl

/-- A byte is given by its number. -/
theorem ofNat_eq_of_toNat {n : Nat} {b : UInt8} (h : n = b.toNat) : UInt8.ofNat n = b := by
  simp [h]

/-- Every well-formed sequence encodes a character. -/
theorem WellFormed.exists_char {bytes : List UInt8} (h : WellFormed bytes) :
    ∃ c, String.utf8EncodeChar c = bytes := by
  cases h with
  | @one a ha =>
    simp only [UInt8.le_iff_toNat_le, UInt8.reduceToNat] at ha
    refine ⟨Char.ofNatAux a.toNat (.inl (by omega)), ?_⟩
    rw [encodeChar_ofNatAux, if_pos ha, UInt8.ofNat_toNat]
  | @two a b ha ha' hb =>
    simp only [Continuation, UInt8.le_iff_toNat_le, UInt8.reduceToNat] at ha ha' hb
    refine ⟨Char.ofNatAux ((a.toNat - 192) * 64 + (b.toNat - 128)) (.inl (by omega)), ?_⟩
    rw [encodeChar_ofNatAux, if_neg (by omega), if_pos (by omega),
      ofNat_eq_of_toNat (b := a) (by omega), ofNat_eq_of_toNat (b := b) (by omega)]
  | @three a b c ha ha' hb hc =>
    obtain ⟨hb, hE0, hED, -, -⟩ := hb
    simp only [Continuation, UInt8.le_iff_toNat_le, ← UInt8.toNat_inj, UInt8.reduceToNat]
      at ha ha' hb hc hE0 hED
    refine ⟨Char.ofNatAux ((a.toNat - 224) * 4096 + (b.toNat - 128) * 64 + (c.toNat - 128)) ?_, ?_⟩
    · unfold Nat.isValidChar
      omega
    · rw [encodeChar_ofNatAux, if_neg (by omega), if_neg (by omega), if_pos (by omega),
        ofNat_eq_of_toNat (b := a) (by omega), ofNat_eq_of_toNat (b := b) (by omega),
        ofNat_eq_of_toNat (b := c) (by omega)]
  | @four a b c d ha ha' hb hc hd =>
    obtain ⟨hb, -, -, hF0, hF4⟩ := hb
    simp only [Continuation, UInt8.le_iff_toNat_le, ← UInt8.toNat_inj, UInt8.reduceToNat]
      at ha ha' hb hc hd hF0 hF4
    refine ⟨Char.ofNatAux ((a.toNat - 240) * 262144 + (b.toNat - 128) * 4096
      + (c.toNat - 128) * 64 + (d.toNat - 128)) (.inr (by omega)), ?_⟩
    rw [encodeChar_ofNatAux, if_neg (by omega), if_neg (by omega), if_neg (by omega),
      ofNat_eq_of_toNat (b := a) (by omega), ofNat_eq_of_toNat (b := b) (by omega),
      ofNat_eq_of_toNat (b := c) (by omega), ofNat_eq_of_toNat (b := d) (by omega)]

/-- The well-formed sequences are the encodings of the characters. -/
theorem wellFormed_iff {bytes : List UInt8} :
    WellFormed bytes ↔ ∃ c, String.utf8EncodeChar c = bytes := by
  constructor
  · exact WellFormed.exists_char
  · rintro ⟨c, rfl⟩
    exact wellFormed_encodeChar c

/-! ### The length that a lead announces -/

/-- The lead `a` announces a sequence in which `n` bytes follow it. -/
inductive Announces (a : UInt8) : Nat → Prop where
  | none : a ≤ 0x7F → Announces a 0
  | one : 0xC2 ≤ a → a ≤ 0xDF → Announces a 1
  | two : 0xE0 ≤ a → a ≤ 0xEF → Announces a 2
  | three : 0xF0 ≤ a → a ≤ 0xF4 → Announces a 3

theorem followers?_eq_some_iff {a : UInt8} {n : Nat} :
    followers? a = some n ↔ Announces a n := by
  constructor
  · intro h
    unfold followers? at h
    split_ifs at h with h₁ h₂ h₃ h₄ h₅ <;> cases h
    · exact .none h₁
    · exact .one (UInt8.not_lt.mp h₂) h₃
    · refine .two ?_ h₄
      simp only [UInt8.le_iff_toNat_le, UInt8.reduceToNat] at h₃ ⊢
      omega
    · refine .three ?_ h₅
      simp only [UInt8.le_iff_toNat_le, UInt8.reduceToNat] at h₄ ⊢
      omega
  · intro h
    unfold followers?
    cases h with
    | none h => rw [if_pos h]
    | one h h' | two h h' | three h h' =>
      simp only [UInt8.le_iff_toNat_le, UInt8.lt_iff_toNat_lt, UInt8.reduceToNat] at h h' ⊢
      split_ifs <;> first | rfl | omega

/-- A byte that announces nothing cannot stand first. -/
theorem followers?_eq_none_iff {a : UInt8} : followers? a = none ↔ ∀ n, ¬ Announces a n := by
  rw [Option.eq_none_iff_forall_ne_some]
  apply forall_congr'
  intro n
  exact not_congr followers?_eq_some_iff

/-- The lead of a well-formed sequence announces its length. -/
theorem WellFormed.announces {bytes : List UInt8} (h : WellFormed bytes) :
    ∃ a more, bytes = a :: more ∧ Announces a more.length := by
  cases h with
  | one h => exact ⟨_, [], rfl, .none h⟩
  | two h h' _ => exact ⟨_, [_], rfl, .one h h'⟩
  | three h h' _ _ => exact ⟨_, [_, _], rfl, .two h h'⟩
  | four h h' _ _ _ => exact ⟨_, [_, _, _], rfl, .three h h'⟩

theorem Announces.unique {a : UInt8} {m n : Nat} (hm : Announces a m) (hn : Announces a n) :
    m = n := by
  rw [← followers?_eq_some_iff] at hm hn
  exact Option.some.inj (hm.symm.trans hn)

/-- A well-formed sequence at the head of bytes is as long as their lead announces. -/
theorem WellFormed.eq_of_begins {bytes more tail : List UInt8} {a : UInt8}
    (h : WellFormed bytes) (hbegins : bytes <+: a :: more ++ tail)
    (ha : Announces a more.length) : bytes = a :: more := by
  obtain ⟨b, rest, rfl, hb⟩ := h.announces
  rw [List.cons_append] at hbegins
  obtain ⟨rfl, hrest⟩ := List.cons_prefix_cons.mp hbegins
  have hlen := hb.unique ha
  have hmore := List.prefix_of_prefix_length_le hrest (List.prefix_append _ _) (Nat.le_of_eq hlen)
  rw [hmore.eq_of_length hlen]

/-! ### Decoding one sequence -/

@[simp] theorem decode?_encodeChar (c : Char) :
    decode? (String.utf8EncodeChar c) = some c := by
  simpa [decode?] using
    ByteArray.utf8DecodeChar?_utf8EncodeChar_append (b := ByteArray.empty) (c := c)

/-- Bytes that decode to a character begin with its encoding. -/
theorem encodeChar_prefix_of_decode? {bytes : List UInt8} {c : Char}
    (h : decode? bytes = some c) : String.utf8EncodeChar c <+: bytes := by
  obtain ⟨tail, htail⟩ := ByteArray.exists_of_utf8DecodeChar?_eq_some h
  refine ⟨tail.data.toList, ?_⟩
  have hdata := congrArg (fun b => b.data.toList) htail
  simpa using hdata.symm

/-- A sequence of its announced length decodes to `c` if it is the encoding of `c`, and
to nothing else. -/
theorem decode?_eq_some_iff {a : UInt8} {more : List UInt8} {c : Char}
    (ha : Announces a more.length) :
    decode? (a :: more) = some c ↔ String.utf8EncodeChar c = a :: more := by
  constructor
  · intro h
    have hbegins := encodeChar_prefix_of_decode? h
    rw [← (a :: more).append_nil] at hbegins
    exact (wellFormed_encodeChar c).eq_of_begins hbegins ha
  · intro h
    rw [← h, decode?_encodeChar]

/-! ### Ill-formed bytes -/

/-- Bytes, up to the end of the input, that do not begin with a well-formed sequence. -/
inductive IllFormed : List UInt8 → Prop where
  /-- A continuation byte stands where a sequence begins. -/
  | stray {a : UInt8} {tail : List UInt8} : Continuation a → IllFormed (a :: tail)
  | overlongTwo {a : UInt8} {tail : List UInt8} : 0xC0 ≤ a → a ≤ 0xC1 → IllFormed (a :: tail)
  | overlongThree {b : UInt8} {tail : List UInt8} : b < 0xA0 → IllFormed (0xE0 :: b :: tail)
  | overlongFour {b : UInt8} {tail : List UInt8} : b < 0x90 → IllFormed (0xF0 :: b :: tail)
  | surrogate {b : UInt8} {tail : List UInt8} : 0x9F < b → IllFormed (0xED :: b :: tail)
  /-- The number is beyond the last plane. -/
  | tooLarge {b : UInt8} {tail : List UInt8} : 0x8F < b → IllFormed (0xF4 :: b :: tail)
  | tooLargeLead {a : UInt8} {tail : List UInt8} : 0xF5 ≤ a → IllFormed (a :: tail)
  /-- One of the bytes that the lead announces is no continuation byte. -/
  | badContinuation {a b : UInt8} {n i : Nat} {tail : List UInt8} : Announces a n → i < n →
      tail[i]? = some b → ¬ Continuation b → IllFormed (a :: tail)
  /-- The input ends before the sequence does. -/
  | truncated {a : UInt8} {n : Nat} {tail : List UInt8} : Announces a n → tail.length < n →
      IllFormed (a :: tail)

/-- A sequence is well-formed if it is as long as its lead announces, goes on with
continuation bytes, and the first of these is one that the lead allows. -/
theorem wellFormed_cons_iff {a : UInt8} {more : List UInt8} :
    WellFormed (a :: more) ↔
      Announces a more.length ∧ (∀ b ∈ more, Continuation b) ∧
        ∀ b, more.head? = some b → Second a b := by
  constructor
  · intro h
    cases h with
    | one h => exact ⟨.none h, by simp, by simp⟩
    | @two a b h h' hb =>
      refine ⟨.one h h', by simpa using hb, ?_⟩
      rintro b' hb'
      obtain rfl : b = b' := by simpa using hb'
      refine ⟨hb, ?_, ?_, ?_, ?_⟩ <;>
      · rintro rfl
        exact absurd h' (by decide)
    | three h h' hb hc =>
      exact ⟨.two h h', by simpa using ⟨hb.continuation, hc⟩, by simpa using hb⟩
    | four h h' hb hc hd =>
      exact ⟨.three h h', by simpa using ⟨hb.continuation, hc, hd⟩, by simpa using hb⟩
  · rintro ⟨ha, hall, hsecond⟩
    generalize hn : more.length = n at ha
    cases ha with
    | none h =>
      obtain rfl := List.length_eq_zero_iff.mp hn
      exact .one h
    | one h h' =>
      obtain ⟨b, rfl⟩ := List.length_eq_one_iff.mp hn
      exact .two h h' (hall b (by simp))
    | two h h' =>
      obtain ⟨b, c, rfl⟩ := List.length_eq_two.mp hn
      exact .three h h' (hsecond b rfl) (hall c (by simp))
    | three h h' =>
      obtain ⟨b, c, d, rfl⟩ := List.length_eq_three.mp hn
      exact .four h h' (hsecond b rfl) (hall c (by simp)) (hall d (by simp))

/-- A byte that announces nothing is ill-formed by itself. -/
theorem illFormed_of_not_announces {a : UInt8} (h : ∀ n, ¬ Announces a n)
    (tail : List UInt8) : IllFormed (a :: tail) := by
  have h₀ : ¬ a ≤ 0x7F := by
    intro hle
    exact h 0 (.none hle)
  have h₁ : ¬ (0xC2 ≤ a ∧ a ≤ 0xDF) := by
    rintro ⟨hle, hle'⟩
    exact h 1 (.one hle hle')
  have h₂ : ¬ (0xE0 ≤ a ∧ a ≤ 0xEF) := by
    rintro ⟨hle, hle'⟩
    exact h 2 (.two hle hle')
  have h₃ : ¬ (0xF0 ≤ a ∧ a ≤ 0xF4) := by
    rintro ⟨hle, hle'⟩
    exact h 3 (.three hle hle')
  by_cases hstray : Continuation a
  · exact .stray hstray
  by_cases hlarge : 0xF5 ≤ a
  · exact .tooLargeLead hlarge
  simp only [Continuation, UInt8.le_iff_toNat_le, UInt8.reduceToNat] at h₀ h₁ h₂ h₃ hstray hlarge
  refine .overlongTwo ?_ ?_ <;>
  · simp only [UInt8.le_iff_toNat_le, UInt8.reduceToNat]
    omega

/-- Bytes whose lead does not allow the byte after it are ill-formed. -/
theorem illFormed_of_not_second {a b : UInt8} {tail : List UInt8} (hb : Continuation b)
    (h : ¬ Second a b) : IllFormed (a :: b :: tail) := by
  by_contra hill
  apply h
  refine ⟨hb, ?_, ?_, ?_, ?_⟩ <;> rintro rfl <;> apply UInt8.not_lt.mp <;> intro hlt
  · exact hill (.overlongThree hlt)
  · exact hill (.surrogate hlt)
  · exact hill (.overlongFour hlt)
  · exact hill (.tooLarge hlt)

theorem Announces.lead {a : UInt8} {n : Nat} (h : Announces a n) :
    a ≤ 0x7F ∨ 0xC2 ≤ a ∧ a ≤ 0xF4 := by
  simp only [UInt8.le_iff_toNat_le, UInt8.reduceToNat]
  cases h <;> simp only [UInt8.le_iff_toNat_le, UInt8.reduceToNat] at * <;> omega

/-- The second byte of a well-formed sequence is one that its lead allows. -/
theorem WellFormed.second_of_begins {seq tail : List UInt8} {a b : UInt8}
    (h : WellFormed seq) (hbegins : seq <+: a :: b :: tail) (ha : 0xE0 ≤ a) : Second a b := by
  obtain ⟨lead, more, rfl, hlead⟩ := h.announces
  obtain ⟨rfl, hmore⟩ := List.cons_prefix_cons.mp hbegins
  obtain ⟨-, -, hsecond⟩ := wellFormed_cons_iff.mp h
  cases more with
  | nil =>
    replace hlead : Announces lead 0 := hlead
    cases hlead with
    | none hsmall => exact absurd (UInt8.le_trans ha hsmall) (by decide)
  | cons b' more =>
    obtain ⟨rfl, -⟩ := List.cons_prefix_cons.mp hmore
    exact hsecond _ rfl

/-- Ill-formed bytes do not begin with a well-formed sequence. -/
theorem IllFormed.not_wellFormed {bytes seq : List UInt8} (h : IllFormed bytes)
    (hbegins : seq <+: bytes) : ¬ WellFormed seq := by
  intro hseq
  obtain ⟨a, more, rfl, ha⟩ := hseq.announces
  cases h with
  | stray h =>
    obtain ⟨rfl, -⟩ := List.cons_prefix_cons.mp hbegins
    have := ha.lead
    simp only [Continuation, UInt8.le_iff_toNat_le, UInt8.reduceToNat] at h this
    omega
  | overlongTwo h h' =>
    obtain ⟨rfl, -⟩ := List.cons_prefix_cons.mp hbegins
    have := ha.lead
    simp only [UInt8.le_iff_toNat_le, UInt8.reduceToNat] at h h' this
    omega
  | tooLargeLead h =>
    obtain ⟨rfl, -⟩ := List.cons_prefix_cons.mp hbegins
    have := ha.lead
    simp only [UInt8.le_iff_toNat_le, UInt8.reduceToNat] at h this
    omega
  | overlongThree hb =>
    have hsecond := hseq.second_of_begins hbegins (UInt8.le_refl _)
    exact UInt8.not_le.mpr hb (hsecond.notOverlong rfl)
  | surrogate hb =>
    have hsecond := hseq.second_of_begins hbegins (by decide)
    exact UInt8.not_le.mpr hb (hsecond.notSurrogate rfl)
  | overlongFour hb =>
    have hsecond := hseq.second_of_begins hbegins (by decide)
    exact UInt8.not_le.mpr hb (hsecond.notOverlongFour rfl)
  | tooLarge hb =>
    have hsecond := hseq.second_of_begins hbegins (by decide)
    exact UInt8.not_le.mpr hb (hsecond.notTooLarge rfl)
  | truncated hn hlt =>
    obtain ⟨rfl, hmore⟩ := List.cons_prefix_cons.mp hbegins
    have := hmore.length_le
    have := ha.unique hn
    omega
  | badContinuation hn hi hb hbad =>
    obtain ⟨rfl, hmore⟩ := List.cons_prefix_cons.mp hbegins
    obtain ⟨-, hall, -⟩ := wellFormed_cons_iff.mp hseq
    rw [← ha.unique hn] at hi
    rw [List.prefix_iff_getElem?.mp hmore _ hi] at hb
    obtain rfl := Option.some.inj hb
    exact hbad (hall _ (List.getElem_mem hi))

/-- Bytes that do not begin with a well-formed sequence are ill-formed, unless there
are none. -/
theorem illFormed_of_not_wellFormed {bytes : List UInt8} (hne : bytes ≠ [])
    (h : ∀ seq, seq <+: bytes → ¬ WellFormed seq) : IllFormed bytes := by
  obtain ⟨a, tail, rfl⟩ := List.exists_cons_of_ne_nil hne
  by_cases hlead : ∃ n, Announces a n
  · obtain ⟨n, hn⟩ := hlead
    by_cases hshort : tail.length < n
    · exact .truncated hn hshort
    have hlen : (tail.take n).length = n := List.length_take_of_le (Nat.not_lt.mp hshort)
    have hseq := h (a :: tail.take n) (List.cons_prefix_cons.mpr ⟨rfl, List.take_prefix n tail⟩)
    rw [wellFormed_cons_iff, hlen] at hseq
    by_cases hall : ∀ b ∈ tail.take n, Continuation b
    · -- The continuation bytes are in order, so it is the second byte that is wrong.
      obtain ⟨b, hb, hbad⟩ : ∃ b, (tail.take n).head? = some b ∧ ¬ Second a b := by
        by_contra hnone
        push Not at hnone
        exact hseq ⟨hn, hall, hnone⟩
      obtain ⟨more, hmore⟩ := List.head?_eq_some_iff.mp hb
      obtain ⟨rest, hrest⟩ := List.take_prefix n tail
      rw [hmore] at hrest
      rw [← hrest]
      exact illFormed_of_not_second (hall b (by simp [hmore])) hbad
    · push Not at hall
      obtain ⟨b, hb, hbad⟩ := hall
      obtain ⟨i, hi, rfl⟩ := List.getElem_of_mem hb
      rw [hlen] at hi
      exact .badContinuation hn hi (by simp) hbad
  · push Not at hlead
    exact illFormed_of_not_announces hlead tail

/-- Bytes are ill-formed exactly where no well-formed sequence begins. -/
theorem illFormed_iff {bytes : List UInt8} (hne : bytes ≠ []) :
    IllFormed bytes ↔ ∀ seq, seq <+: bytes → ¬ WellFormed seq := by
  constructor
  · intro h seq hbegins
    exact h.not_wellFormed hbegins
  · exact illFormed_of_not_wellFormed hne

end MonkeyTokens.Utf8
