import MonkeyTokens.Text.Json
import Mathlib.Data.List.Forall2

/-!
JSON text read back.

A `Json.Value` is what a JSON text stands for: a string, a natural number, an array, or an
object with its members in the order given; the outputs hold no other values. `Json.read?`
reads a whole text as one value, in the usual way: an escape is undone as it is met, a number
goes on as long as there are digits, and commas separate. Values may be nested 128 deep. Blanks
are not passed over, and of the escapes by number those of surrogates are refused, because
no text is written with either.

`Json.Reads` says that a reader takes a text for a value, whatever follows but a digit. Each
form of JSON text has one law: a text of that form is read for the value of its parts
(`reads_string`, `reads_number`, `reads_array`, `reads_object`).
-/

namespace MonkeyTokens.Json

/-- What a JSON text stands for. -/
inductive Value where
  | string (s : String)
  | number (n : Nat)
  | array (values : List Value)
  | object (members : List (String × Value))

namespace Value

/-- The string that a value is. -/
def string? : Value → Option String
  | .string s => some s
  | _ => none

/-- The number that a value is. -/
def number? : Value → Option Nat
  | .number n => some n
  | _ => none

/-- The values that an array holds. -/
def array? : Value → Option (List Value)
  | .array values => some values
  | _ => none

/-- The value of the first member of this name that an object has. -/
def member? (name : String) : Value → Option Value
  | .object members => members.lookup name
  | _ => none

end Value

/-- A reader takes something from the head of a text, and leaves the rest. -/
abbrev Reader (α : Type) := List Char → Option (α × List Char)

/-! ### Strings -/

/-- The number that a hexadecimal digit stands for. -/
def hexDigit? (c : Char) : Option Nat :=
  if c.isDigit then some (c.toNat - '0'.toNat)
  else if 'a' ≤ c ∧ c ≤ 'f' then some (c.toNat - 'a'.toNat + 10)
  else if 'A' ≤ c ∧ c ≤ 'F' then some (c.toNat - 'A'.toNat + 10)
  else none

/-- The character of a number, which is none for surrogates and beyond the last plane. -/
def charOf? (n : Nat) : Option Char := if h : n.isValidChar then some (Char.ofNatAux n h) else none

/-- The character that is written as a letter or mark after a backslash. -/
def unescaped? : Char → Option Char
  | '\x22' => some '\x22'
  | '\\' => some '\\'
  | '/' => some '/'
  | 'b' => some '\x08'
  | 'f' => some '\x0c'
  | 'n' => some '\n'
  | 'r' => some '\r'
  | 't' => some '\t'
  | _ => none

/-- Reads one character of a string. -/
def stringChar? : Reader Char
  | '\\' :: 'u' :: a :: b :: c :: d :: rest => do
    let n ← [a, b, c, d].foldlM (fun n digit => return 16 * n + (← hexDigit? digit)) 0
    return (← charOf? n, rest)
  | '\\' :: c :: rest => do return (← unescaped? c, rest)
  | c :: rest => if c < ' ' ∨ c = '\x22' ∨ c = '\\' then none else some (c, rest)
  | [] => none

theorem length_lt_of_stringChar? {cs rest : List Char} {c : Char}
    (h : stringChar? cs = some (c, rest)) : rest.length < cs.length := by
  unfold stringChar? at h
  split at h
  · obtain ⟨n, -, h⟩ := Option.bind_eq_some_iff.mp h
    obtain ⟨c', -, h⟩ := Option.bind_eq_some_iff.mp h
    cases h
    simp +arith
  · obtain ⟨c', -, h⟩ := Option.bind_eq_some_iff.mp h
    cases h
    simp +arith
  · split at h <;> cases h
    simp
  · cases h

/-- Reads the characters of a string, up to the quotation mark behind them. -/
def stringBody? (cs : List Char) : Option (List Char × List Char) :=
  match cs with
  | '\x22' :: rest => some ([], rest)
  | cs =>
    match _ : stringChar? cs with
    | none => none
    | some (c, rest) => (stringBody? rest).map fun (body, rest') => (c :: body, rest')
termination_by cs.length
decreasing_by
  rename_i h
  exact length_lt_of_stringChar? h

/-! ### Values -/

/-- Reads a number. -/
def number? : Reader Nat := fun cs =>
  let digits := cs.takeWhile Char.isDigit
  if digits = [] then none
  else some (Nat.ofDigitChars 10 digits 0, cs.dropWhile Char.isDigit)

/-- Reads one item or more with commas between them, up to the bracket behind them. An item
that takes nothing is refused. -/
def items? {α : Type} (item : Reader α) (closing : Char) (cs : List Char) :
    Option (List α × List Char) :=
  match item cs with
  | some (a, c :: rest) =>
    if rest.length < cs.length then
      if c = closing then some ([a], rest)
      else if c = ',' then (items? item closing rest).map fun (as, rest') => (a :: as, rest')
      else none
    else none
  | _ => none
termination_by cs.length

/-- Reads any number of items up to the bracket behind them. -/
def bracketed? {α : Type} (item : Reader α) (closing : Char) : Reader (List α)
  | [] => none
  | c :: rest => if c = closing then some ([], rest) else items? item closing (c :: rest)

/-- Reads a member of an object with a reader of its value. -/
def memberOf? (value : Reader Value) : Reader (String × Value)
  | '\x22' :: cs =>
    match stringBody? cs with
    | some (name, ':' :: rest) =>
      (value rest).map fun (v, rest') => ((String.ofList name, v), rest')
    | _ => none
  | _ => none

/-- Reads a value that is nested less deep than `depth`. -/
def value? : Nat → Reader Value
  | 0, _ => none
  | _ + 1, '\x22' :: cs =>
    (stringBody? cs).map fun (body, rest) => (.string (String.ofList body), rest)
  | depth + 1, '[' :: cs =>
    (bracketed? (value? depth) ']' cs).map fun (values, rest) => (.array values, rest)
  | depth + 1, '\x7b' :: cs =>
    (bracketed? (memberOf? (value? depth)) '\x7d' cs).map fun (members, rest) =>
      (.object members, rest)
  | _ + 1, cs => (number? cs).map fun (n, rest) => (.number n, rest)

/-- How deep the values of a text may be nested. -/
def depthLimit : Nat := 128

/-- Reads a text that is one value. -/
def read? (text : String) : Option Value :=
  match value? depthLimit text.toList with
  | some (v, []) => some v
  | _ => none

/-! ### Characters and strings -/

theorem hexDigit?_digitChar : ∀ d < 16, hexDigit? (Nat.digitChar d) = some d := by decide

theorem charOf?_toNat (c : Char) : charOf? c.toNat = some c := by
  exact dif_pos c.valid

/-- A character is read back from the way it is written in a string. -/
theorem stringChar?_stringChar (c : Char) (rest : List Char) :
    stringChar? (stringChar c ++ rest) = some (c, rest) := by
  unfold stringChar
  split
  · rename_i hquoted
    rcases hquoted with rfl | rfl <;> rfl
  -- The control characters with a letter of their own.
  iterate 5
    split
    · subst c
      rfl
  split
  · rename_i hcontrol
    have hlt : c.toNat < 32 := hcontrol
    have hhigh := hexDigit?_digitChar (c.toNat / 16) (by omega)
    have hlow := hexDigit?_digitChar (c.toNat % 16) (by omega)
    have hzero : hexDigit? '0' = some 0 := by decide
    have hnumber : 16 * (c.toNat / 16) + c.toNat % 16 = c.toNat := Nat.div_add_mod _ _
    simp [stringChar?, hhigh, hlow, hzero, hnumber, charOf?_toNat]
  · rename_i hquoted _ _ _ _ _ hcontrol
    rw [not_or] at hquoted
    have hshown : ¬ (c < ' ' ∨ c = '\x22' ∨ c = '\\') := by
      rintro (h | h | h)
      · exact hcontrol h
      · exact hquoted.1 h
      · exact hquoted.2 h
    simp only [List.singleton_append]
    unfold stringChar?
    split <;> simp_all

theorem stringBody?_of_stringChar? {cs rest : List Char} {c : Char}
    (h : stringChar? cs = some (c, rest)) :
    stringBody? cs = (stringBody? rest).map fun (body, rest') => (c :: body, rest') := by
  rw [stringBody?.eq_def cs]
  split
  · simp [stringChar?] at h
  · split <;> simp_all

/-- The characters of a string are read back from the way they are written. -/
theorem stringBody?_stringChars (cs rest : List Char) :
    stringBody? (cs.flatMap stringChar ++ '\x22' :: rest) = some (cs, rest) := by
  induction cs with
  | nil => rw [List.flatMap_nil, List.nil_append, stringBody?]
  | cons c cs ih =>
    rw [List.flatMap_cons, List.append_assoc,
      stringBody?_of_stringChar? (stringChar?_stringChar c _), ih]
    rfl

/-! ### What a text is read for -/

/-- The text is read for `a` by a reader, whatever follows it but a digit. -/
def Reads {α : Type} (reader : Reader α) (text : String) (a : α) : Prop :=
  ∀ rest, (∀ c ∈ rest.head?, c.isDigit = false) → reader (text.toList ++ rest) = some (a, rest)

theorem toList_string_append (s : String) (rest : List Char) : (string s).toList ++ rest =
    '\x22' :: (s.toList.flatMap stringChar ++ '\x22' :: rest) := by
  simp [string]

theorem reads_string (depth : Nat) (s : String) :
    Reads (value? (depth + 1)) (string s) (.string s) := by
  intro rest _
  rw [toList_string_append, value?, stringBody?_stringChars, Option.map_some]
  simp only [String.ofList_toList]

theorem number?_number (n : Nat) : Reads number? (number n) n := by
  intro rest hrest
  have hdigits : ∀ c ∈ Nat.toDigits 10 n, c.isDigit = true := fun c =>
    Nat.isDigit_of_mem_toDigits (by omega) (by omega)
  have hstop : rest.takeWhile Char.isDigit = [] ∧ rest.dropWhile Char.isDigit = rest := by
    cases rest with
    | nil => exact ⟨rfl, rfl⟩
    | cons c rest => simp [hrest c rfl]
  have htext : (number n).toList = Nat.toDigits 10 n := by
    rw [number, Nat.repr_eq_ofList_toDigits, String.toList_ofList]
  simp only [htext, number?, List.takeWhile_append_of_pos hdigits,
    List.dropWhile_append_of_pos hdigits, hstop, List.append_nil, Nat.ofDigitChars_ten_toDigits,
    Nat.toDigits_ne_nil, if_false]

theorem value?_of_digit (depth : Nat) {c : Char} (h : c.isDigit = true) (cs : List Char) :
    value? (depth + 1) (c :: cs) = (number? (c :: cs)).map fun (n, rest) => (.number n, rest) := by
  unfold value?
  split <;> simp_all

theorem reads_number (depth n : Nat) : Reads (value? (depth + 1)) (number n) (.number n) := by
  intro rest hrest
  obtain ⟨c, cs, hcs⟩ := List.exists_cons_of_ne_nil (Nat.toDigits_ne_nil (n := n) (b := 10))
  have hc : c.isDigit = true :=
    Nat.isDigit_of_mem_toDigits (n := n) (by omega) (by omega) (hcs ▸ List.mem_cons_self ..)
  have hnumber := number?_number n rest hrest
  have htext : (number n).toList = c :: cs := by
    rw [number, Nat.repr_eq_ofList_toDigits, String.toList_ofList, hcs]
  rw [htext, List.cons_append] at hnumber ⊢
  rw [value?_of_digit depth hc, hnumber]
  rfl

section

variable {α : Type} {item : Reader α} {closing : Char}

theorem items?_of_closing {cs rest : List Char} {a : α} (h : item cs = some (a, closing :: rest))
    (hlt : rest.length < cs.length) : items? item closing cs = some ([a], rest) := by
  rw [items?, h]
  simp [hlt]

theorem items?_of_comma (hcomma : closing ≠ ',') {cs rest : List Char} {a : α}
    (h : item cs = some (a, ',' :: rest)) (hlt : rest.length < cs.length) :
    items? item closing cs =
      (items? item closing rest).map fun (as, rest') => (a :: as, rest') := by
  rw [items?, h]
  simp [hlt, hcomma.symm]

/-- Items that are read one by one are read with commas between them. -/
theorem items?_of_reads (hdigit : closing.isDigit = false) (hcomma : closing ≠ ',')
    {texts : List String} {as : List α} (h : List.Forall₂ (Reads item) texts as)
    (hne : texts ≠ []) (rest : List Char) :
    items? item closing ((",".intercalate texts).toList ++ closing :: rest) = some (as, rest) := by
  induction h with
  | nil => exact absurd rfl hne
  | @cons text a texts as htext htexts ih =>
    cases htexts with
    | nil =>
      rw [String.intercalate_singleton]
      exact items?_of_closing (htext (closing :: rest) (by simpa using hdigit)) (by simp +arith)
    | @cons text' a' texts as htext' htexts =>
      have hsplit : (",".intercalate (text :: text' :: texts)).toList ++ closing :: rest =
          text.toList ++ ',' :: ((",".intercalate (text' :: texts)).toList ++ closing :: rest) := by
        simp [String.intercalate_cons_cons]
      rw [hsplit, items?_of_comma hcomma (htext _ (by simp)) (by simp +arith), ih (by simp)]
      rfl

/-- Items that are read one by one are read in brackets, if none of them begins with the closing
one. -/
theorem bracketed?_of_reads (hdigit : closing.isDigit = false) (hcomma : closing ≠ ',')
    (hclosing : ∀ cs, item (closing :: cs) = none) {texts : List String} {as : List α}
    (h : List.Forall₂ (Reads item) texts as) (rest : List Char) :
    bracketed? item closing ((",".intercalate texts).toList ++ closing :: rest) =
      some (as, rest) := by
  by_cases hne : texts = []
  · subst hne
    cases h
    simp [bracketed?]
  · have hitems := items?_of_reads hdigit hcomma h hne rest
    obtain ⟨c, cs, hcs⟩ := List.exists_cons_of_ne_nil
      (l := (",".intercalate texts).toList ++ closing :: rest) (by simp)
    rw [hcs] at hitems ⊢
    have hc : c ≠ closing := by
      rintro rfl
      rw [items?, hclosing] at hitems
      cases hitems
    rw [bracketed?, if_neg hc, hitems]

end

/-! ### Arrays and objects -/

theorem value?_of_bracket (depth : Nat) (cs : List Char) : value? depth (']' :: cs) = none := by
  cases depth with
  | zero => rfl
  | succ depth => rfl

/-- An array of texts that are read for values is read for the array of these. -/
theorem reads_array {depth : Nat} {texts : List String} {values : List Value}
    (h : List.Forall₂ (Reads (value? depth)) texts values) :
    Reads (value? (depth + 1)) (array texts) (.array values) := by
  intro rest _
  have hsplit : (array texts).toList ++ rest =
      '[' :: ((",".intercalate texts).toList ++ ']' :: rest) := by
    simp [array]
  have hvalues := bracketed?_of_reads (by decide) (by decide) (value?_of_bracket depth) h rest
  rw [hsplit, value?, hvalues]
  rfl

/-- The text of a member of an object. -/
def memberText (m : String × String) : String := string m.1 ++ ":" ++ m.2

theorem toList_object_append (members : List (String × String)) (rest : List Char) :
    (object members).toList ++ rest =
      '\x7b' :: ((",".intercalate (members.map memberText)).toList ++ '\x7d' :: rest) := by
  have htext : object members = "\x7b" ++ ",".intercalate (members.map memberText) ++ "\x7d" := rfl
  simp [htext]

theorem reads_member {depth : Nat} (name : String) {text : String} {v : Value}
    (h : Reads (value? depth) text v) :
    Reads (memberOf? (value? depth)) (memberText (name, text)) (name, v) := by
  intro rest hrest
  have hsplit : (memberText (name, text)).toList ++ rest = '\x22' ::
      (name.toList.flatMap stringChar ++ '\x22' :: (':' :: (text.toList ++ rest))) := by
    simp [memberText, string]
  rw [hsplit, memberOf?, stringBody?_stringChars]
  simp only [h rest hrest, Option.map_some, String.ofList_toList]

/-- An object of texts that are read for values is read for the object of these. -/
theorem reads_object {depth : Nat} {members : List (String × String)}
    {values : List (String × Value)} (h : List.Forall₂
      (fun m v => m.1 = v.1 ∧ Reads (value? depth) m.2 v.2) members values) :
    Reads (value? (depth + 1)) (object members) (.object values) := by
  intro rest _
  have hmembers : List.Forall₂ (Reads (memberOf? (value? depth))) (members.map memberText)
      values := by
    rw [List.forall₂_map_left_iff]
    refine h.imp ?_
    rintro ⟨name, text⟩ ⟨name', v⟩ ⟨rfl, hv⟩
    exact reads_member name hv
  have hclosing : ∀ cs, memberOf? (value? depth) ('\x7d' :: cs) = none := fun _ => rfl
  have hvalues := bracketed?_of_reads (by decide) (by decide) hclosing hmembers rest
  rw [toList_object_append, value?, hvalues]
  rfl

/-- A text that is read for a value is that value as a whole. -/
theorem read?_of_reads {text : String} {v : Value} (h : Reads (value? depthLimit) text v) :
    read? text = some v := by
  have hall := h [] (by simp)
  rw [List.append_nil] at hall
  rw [read?, hall]

end MonkeyTokens.Json
