import MonkeyTokens.Proofs.Text.Characters
import MonkeyTokens.Proofs.Text.JsonReader

/-!
Displayed text read back.

What is displayed is made of fields: numbers and names with a mark behind them, and quoted
texts. A `Text.Reader` takes a field from the head of a text and leaves the rest, and
`Text.Takes` says that a reader takes just this text for a value, whatever follows it. It
passes from the parts of a text to the whole (`Takes.bind`), and each kind of field has one
law: a fixed text (`takes_word`), a field up to its mark (`takes_upTo`), a list with separators
(`takes_separatedUpTo`), a number in any base (`numberOf?_toDigits`), and a quoted text
(`takes_quoted`), whichever characters are written by number in it. A field that goes on to the
end of the text is read by `whole?` behind the others (`Takes.whole_bind`).
-/

namespace MonkeyTokens.Text

/-- A reader takes something from the head of a text, and leaves the rest. -/
abbrev Reader := StateT (List Char) Option

section

variable {α β : Type}

/-- The text is taken for `a` by a reader, whatever follows it. -/
def Takes (reader : Reader α) (text : List Char) (a : α) : Prop :=
  ∀ rest, reader (text ++ rest) = some (a, rest)

/-- Two texts that are taken one after the other are taken as one. -/
theorem Takes.bind {x : Reader α} {f : α → Reader β} {s t : List Char} {a : α} {b : β}
    (hx : Takes x s a) (hf : Takes (f a) t b) : Takes (x >>= f) (s ++ t) b := by
  intro rest
  have hbind : (x >>= f) (s ++ t ++ rest) =
      (x (s ++ (t ++ rest))).bind fun r => f r.1 r.2 := by
    rw [List.append_assoc]
    rfl
  rw [hbind, hx, Option.bind_some, hf]

/-- A text is taken for whatever is made of its value. -/
theorem Takes.map {x : Reader α} {text : List Char} {a : α} (h : Takes x text a) (f : α → β) :
    Takes (do return f (← x)) text (f a) := by
  have hpure : Takes (pure (f a) : Reader β) [] (f a) := fun _ => rfl
  have hbind := h.bind (f := fun a => pure (f a)) hpure
  rwa [List.append_nil] at hbind

/-- Takes what the reader takes, if it is something. -/
def Reader.filterMap (f : α → Option β) (reader : Reader α) : Reader β := fun cs => do
  let (a, rest) ← reader cs
  return (← f a, rest)

theorem Takes.filterMap {reader : Reader α} {f : α → Option β} {text : List Char} {a : α} {b : β}
    (h : Takes reader text a) (hf : f a = some b) : Takes (reader.filterMap f) text b := by
  intro rest
  have hbind : reader.filterMap f (text ++ rest) =
      (reader (text ++ rest)).bind fun r => (f r.1).bind fun b => some (b, r.2) := rfl
  rw [hbind, h, Option.bind_some, hf, Option.bind_some]

/-- Reads a text that is one value as a whole. -/
def whole? (reader : Reader α) (text : List Char) : Option α :=
  match reader text with
  | some (a, []) => some a
  | _ => none

theorem Takes.whole {reader : Reader α} {text : List Char} {a : α} (h : Takes reader text a) :
    whole? reader text = some a := by
  have hall := h []
  rw [List.append_nil] at hall
  rw [whole?, hall]

/-- Behind a field, the rest of a text is read as a whole. -/
theorem Takes.whole_bind {x : Reader α} {s : List Char} {a : α} (hx : Takes x s a)
    (f : α → Reader β) (t : List Char) : whole? (x >>= f) (s ++ t) = whole? (f a) t := by
  have hbind : (x >>= f) (s ++ t) = (x (s ++ t)).bind fun r => f r.1 r.2 := rfl
  rw [whole?, hbind, hx, Option.bind_some, whole?]

/-! ### Fields -/

/-- Takes this character. -/
def exactly (c : Char) : Reader Unit
  | [] => none
  | d :: rest => if d = c then some ((), rest) else none

theorem takes_exactly (c : Char) : Takes (exactly c) [c] () := fun _ => if_pos rfl

/-- Takes these characters. -/
def word : List Char → Reader Unit
  | [] => pure ()
  | c :: cs => do
    exactly c
    word cs

theorem takes_word (cs : List Char) : Takes (word cs) cs () := by
  induction cs with
  | nil => exact fun _ => rfl
  | cons c cs ih => exact (takes_exactly c).bind ih

/-- Takes all that is left. -/
def remainder : Reader (List Char) := fun cs => some (cs, [])

theorem whole?_remainder (f : List Char → α) (text : List Char) :
    whole? (do return f (← remainder)) text = some (f text) := rfl

/-- Takes all the characters before a mark, and the mark. -/
def upTo (closing : Char) : Reader (List Char) := fun cs =>
  match cs.dropWhile (· ≠ closing) with
  | [] => none
  | _ :: rest => some (cs.takeWhile (· ≠ closing), rest)

theorem takes_upTo {closing : Char} {text : List Char} (h : closing ∉ text) :
    Takes (upTo closing) (text ++ [closing]) text := by
  intro rest
  have hall : ∀ c ∈ text, decide (c ≠ closing) = true := by
    intro c hc
    rw [decide_eq_true_iff]
    rintro rfl
    exact h hc
  rw [upTo, List.append_assoc, List.dropWhile_append_of_pos hall,
    List.takeWhile_append_of_pos hall]
  simp

/-- Takes items up to a mark that none of them begins with, and the mark. An item that takes
nothing is refused. -/
def manyUpTo (item : Reader α) (closing : Char) (cs : List Char) : Option (List α × List Char) :=
  match cs with
  | [] => none
  | c :: tail =>
    if c = closing then some ([], tail)
    else match item (c :: tail) with
      | none => none
      | some (a, rest) =>
        if rest.length ≤ tail.length then
          (manyUpTo item closing rest).map fun (as, rest') => (a :: as, rest')
        else none
termination_by cs.length
decreasing_by
  rename_i hle
  exact Nat.lt_succ_of_le hle

/-- Items that are taken one by one are taken one after the other. -/
theorem takes_manyUpTo {item : Reader α} {closing : Char} {write : α → List Char}
    (hitem : ∀ a, Takes item (write a) a)
    (hhead : ∀ a, ∃ c tail, write a = c :: tail ∧ c ≠ closing) (as : List α) :
    Takes (manyUpTo item closing) (as.flatMap write ++ [closing]) as := by
  intro rest
  induction as with
  | nil => simp [manyUpTo]
  | cons a as ih =>
    obtain ⟨c, tail, hwrite, hc⟩ := hhead a
    have ha := hitem a (as.flatMap write ++ [closing] ++ rest)
    rw [List.flatMap_cons, List.append_assoc, List.append_assoc, ← List.append_assoc _ [closing]]
    rw [hwrite, List.cons_append] at ha ⊢
    rw [manyUpTo, if_neg hc, ha]
    simp only [ih, Option.map_some]
    rw [if_pos (by simp +arith)]

theorem intercalate_cons (separator text : List Char) (texts : List (List Char)) :
    separator.intercalate (text :: texts) = text ++ texts.flatMap (separator ++ ·) := by
  induction texts generalizing text with
  | nil => simp
  | cons next texts ih => rw [List.intercalate_cons_cons, ih, List.flatMap_cons]; simp

/-- Takes one item or more with a separator between them, up to a mark, and the mark. -/
def someUpTo (item : Reader α) (separator : List Char) (closing : Char) : Reader (List α) := do
  let a ← item
  let as ← manyUpTo (do word separator; item) closing
  return a :: as

/-- Takes any number of items with a separator between them, up to a mark that none of them
begins with, and the mark. -/
def separatedUpTo (item : Reader α) (separator : List Char) (closing : Char) :
    Reader (List α) := fun cs =>
  match exactly closing cs with
  | some (_, rest) => some ([], rest)
  | none => someUpTo item separator closing cs

section

variable {item : Reader α} {write : α → List Char} {separator : List Char} {closing : Char}
  (hitem : ∀ a, Takes item (write a) a)
  (hseparator : ∃ c tail, separator = c :: tail ∧ c ≠ closing)

include hitem hseparator

theorem takes_someUpTo (a : α) (as : List α) : Takes (someUpTo item separator closing)
    (separator.intercalate ((a :: as).map write) ++ [closing]) (a :: as) := by
  have htail : Takes (manyUpTo (do word separator; item) closing)
      (as.flatMap (fun b => separator ++ write b) ++ [closing]) as := by
    refine takes_manyUpTo (fun b => (takes_word separator).bind (hitem b)) ?_ as
    intro b
    obtain ⟨c, tail, rfl, hc⟩ := hseparator
    exact ⟨c, _, rfl, hc⟩
  rw [List.map_cons, intercalate_cons, List.flatMap_map, List.append_assoc]
  exact (hitem a).bind (f := fun a => do
    let as ← manyUpTo (do word separator; item) closing
    return a :: as) (htail.map (a :: ·))

/-- Items that are taken one by one are taken with separators between them. -/
theorem takes_separatedUpTo (hhead : ∀ a, ∃ c tail, write a = c :: tail ∧ c ≠ closing)
    (as : List α) : Takes (separatedUpTo item separator closing)
      (separator.intercalate (as.map write) ++ [closing]) as := by
  intro rest
  cases as with
  | nil => simp [separatedUpTo, exactly]
  | cons a as =>
    obtain ⟨c, tail, hwrite, hc⟩ := hhead a
    have hsome := takes_someUpTo hitem hseparator a as rest
    rw [List.map_cons, intercalate_cons, hwrite] at hsome ⊢
    have hopen (text : List Char) : exactly closing (c :: text) = none := if_neg hc
    rw [separatedUpTo, List.cons_append, List.cons_append, List.cons_append, hopen]
    exact hsome

end

end

/-! ### Numbers -/

/-- The number that is written in digits of this base, of which there are at most sixteen. -/
def numberOf? (base : Nat) (digits : List Char) : Option Nat :=
  digits.foldlM (fun n c => do
    let d ← Json.hexDigit? c
    if d < base then some (base * n + d) else none) 0

theorem numberOf?_toDigits {base : Nat} (hlow : 1 < base) (hhigh : base ≤ 16) (n : Nat) :
    numberOf? base (Nat.toDigits base n) = some n := by
  induction n using Nat.strongRecOn with
  | ind n ih =>
    rw [Nat.toDigits_eq_if hlow]
    split
    next hlt => simp [numberOf?, Json.hexDigit?_digitChar n (by omega), hlt]
    next hle =>
      have hdigit := Nat.mod_lt n (show base > 0 by omega)
      have hinit := ih (n / base) (Nat.div_lt_self (by omega) hlow)
      unfold numberOf? at hinit ⊢
      rw [List.foldlM_append, hinit]
      simp [Json.hexDigit?_digitChar (n % base) (by omega), hdigit, Nat.div_add_mod]

/-- No digit is a mark that ends a field. -/
theorem not_mem_toDigits {base : Nat} (hbase : 1 < base) {closing : Char}
    (h : ∀ d, Nat.digitChar d ≠ closing) (n : Nat) : closing ∉ Nat.toDigits base n := by
  intro hmem
  obtain ⟨d, hd⟩ := exists_digitChar_of_mem_toDigits hbase hmem
  exact h d hd.symm

theorem digitChar_ne {closing : Char} (hsmall : ∀ d < 16, Nat.digitChar d ≠ closing)
    (hstar : '*' ≠ closing) (d : Nat) : Nat.digitChar d ≠ closing :=
  digitChar_induction (P := (· ≠ closing)) hsmall hstar d

/-! ### Quoted text -/

/-- A mark that texts are quoted with: a quotation mark or an apostrophe. -/
def IsQuote (c : Char) : Prop := c = '\x22' ∨ c = '\x27'

/-- Takes a character that is written by number, without the mark of the escape and the brace
before it. -/
def charByNumber : Reader Char :=
  (upTo '\x7d').filterMap fun digits => do Json.charOf? (← numberOf? 16 digits)

/-- Takes a character between delimiters, from an escape or as it is. -/
def quotedChar? (delimiter : Char) : Reader Char
  | '\\' :: '0' :: rest => some ('\x00', rest)
  | '\\' :: 't' :: rest => some ('\t', rest)
  | '\\' :: 'r' :: rest => some ('\r', rest)
  | '\\' :: 'n' :: rest => some ('\n', rest)
  | '\\' :: 'u' :: '\x7b' :: rest => charByNumber rest
  | '\\' :: c :: rest => if c = '\\' ∨ c = delimiter then some (c, rest) else none
  | c :: rest => if c = delimiter then none else some (c, rest)
  | [] => none

/-- Takes a text between delimiters. -/
def quoted? (delimiter : Char) : Reader (List Char) := do
  exactly delimiter
  manyUpTo (quotedChar? delimiter) delimiter

theorem takes_charByNumber (c : Char) :
    Takes charByNumber (Nat.toDigits 16 c.toNat ++ ['\x7d']) c := by
  have hclosing : '\x7d' ∉ Nat.toDigits 16 c.toNat :=
    not_mem_toDigits (by decide) (digitChar_ne (by decide) (by decide)) _
  apply (takes_upTo hclosing).filterMap
  rw [numberOf?_toDigits (by decide) (by decide)]
  exact Json.charOf?_toNat c

section

variable {delimiter : Char} (hquote : IsQuote delimiter) (hidden : Char → Bool)

include hquote

/-- A character is taken back from the way it is written between delimiters. -/
theorem takes_quotedChar (c : Char) :
    Takes (quotedChar? delimiter) (quotedChar delimiter hidden c) c := by
  intro rest
  unfold quotedChar
  -- The control characters with a letter or digit of their own.
  iterate 4
    split
    · subst c
      rfl
  split
  · rename_i hescaped
    rcases hescaped with rfl | rfl
    · rfl
    · rcases hquote with rfl | rfl <;> rfl
  split
  · have hnumbered : numbered c ++ rest =
        '\\' :: 'u' :: '\x7b' :: (Nat.toDigits 16 c.toNat ++ ['\x7d'] ++ rest) := rfl
    rw [hnumbered]
    exact takes_charByNumber c rest
  · rename_i hraw _
    rw [not_or] at hraw
    rw [List.singleton_append]
    unfold quotedChar?
    split <;> simp_all

/-- What a character is written as does not begin with the delimiter. -/
theorem exists_quotedChar_eq_cons (c : Char) :
    ∃ d tail, quotedChar delimiter hidden c = d :: tail ∧ d ≠ delimiter := by
  have hescape : '\\' ≠ delimiter := by
    rcases hquote with rfl | rfl <;> decide
  unfold quotedChar
  iterate 4
    split
    · exact ⟨_, _, rfl, hescape⟩
  split
  · exact ⟨_, _, rfl, hescape⟩
  · rename_i hraw
    rw [not_or] at hraw
    split
    · exact ⟨_, _, rfl, hescape⟩
    · exact ⟨_, _, rfl, hraw.2⟩

/-- A text is taken back from between its delimiters. -/
theorem takes_quoted (cs : List Char) :
    Takes (quoted? delimiter) (quoted delimiter hidden cs) cs := by
  have hbody : Takes (manyUpTo (quotedChar? delimiter) delimiter)
      (cs.flatMap (quotedChar delimiter hidden) ++ [delimiter]) cs :=
    takes_manyUpTo (takes_quotedChar hquote hidden) (exists_quotedChar_eq_cons hquote hidden) cs
  exact (takes_exactly delimiter).bind hbody

end

end MonkeyTokens.Text
