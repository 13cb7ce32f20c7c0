import Mathlib.Algebra.Group.Nat.Defs
import Mathlib.Data.List.Induction
import MonkeyTokens.Position

/-!
Where the characters of a text stand.

`place before` is the position of the character that follows the text `before`. Below
the size of a word it is the position that a reader counts: `lineOf` is one more than
the line feeds in `before`, and `columnOf` one more than the characters after the last
of them. Such positions grow with the text before them (`Position.Counts.lt`), so that
a place tells how much of a text stands before it.
-/

namespace MonkeyTokens

/-- The position of the character that follows the text `before`. -/
def place (before : List Char) : Position := Position.start.afterAll before

@[simp] theorem place_nil : place [] = Position.start := rfl

theorem place_append (a b : List Char) : place (a ++ b) = (place a).afterAll b :=
  List.foldl_append ..

@[simp] theorem place_append_singleton (a : List Char) (c : Char) :
    place (a ++ [c]) = (place a).after c := place_append a [c]

theorem after_of_ne {p : Position} {c : Char} (h : c ≠ '\n') :
    p.after c = ⟨p.line, p.column + 1⟩ := if_neg h

theorem before_after {p : Position} {c : Char} (h : c ≠ '\n') : (p.after c).before = p := by
  rw [after_of_ne h, Position.before, UInt32.add_sub_cancel]

/-- The last character of a run within a line stands just before the place after it. -/
theorem before_place_append {before run : List Char} (hne : run ≠ [])
    (hline : ∀ c ∈ run, c ≠ '\n') :
    (place (before ++ run)).before = place (before ++ run.dropLast) := by
  have hlast := hline _ (List.getLast_mem hne)
  conv => lhs; rw [← List.dropLast_concat_getLast hne, ← List.append_assoc]
  rw [place_append_singleton, before_after hlast]

/-! ### Lines and columns counted in the text -/

/-- The line of the character that follows `before`. -/
def lineOf (before : List Char) : Nat := 1 + before.count '\n'

/-- The column of the character that follows `before`. -/
def columnOf (before : List Char) : Nat := 1 + (before.reverse.takeWhile (· ≠ '\n')).length

@[simp] theorem lineOf_append_singleton (a : List Char) (c : Char) :
    lineOf (a ++ [c]) = if c = '\n' then lineOf a + 1 else lineOf a := by
  by_cases hc : c = '\n' <;> simp [lineOf, hc, List.count_append, Nat.add_assoc]

@[simp] theorem columnOf_append_singleton (a : List Char) (c : Char) :
    columnOf (a ++ [c]) = if c = '\n' then 1 else columnOf a + 1 := by
  by_cases hc : c = '\n' <;> simp [columnOf, hc, Nat.add_comm]

theorem lineOf_le (a : List Char) : lineOf a ≤ a.length + 1 := by
  rw [lineOf, Nat.add_comm]
  exact Nat.succ_le_succ List.count_le_length

theorem columnOf_le (a : List Char) : columnOf a ≤ a.length + 1 := by
  have := (List.takeWhile_sublist (· ≠ '\n') (l := a.reverse)).length_le
  rw [List.length_reverse] at this
  rw [columnOf]
  omega

/-- The position is what a reader counts for the character that follows `before`. -/
structure Position.Counts (p : Position) (before : List Char) : Prop where
  line : p.line.toNat = lineOf before
  column : p.column.toNat = columnOf before

instance (p : Position) (before : List Char) : Decidable (p.Counts before) :=
  decidable_of_iff (p.line.toNat = lineOf before ∧ p.column.toNat = columnOf before)
    ⟨fun h => ⟨h.1, h.2⟩, fun h => ⟨h.line, h.column⟩⟩

/-- A place is what a reader counts, as long as the counts fit into a word. -/
theorem counts_place {a : List Char} (h : a.length < 2 ^ 32 - 1) : (place a).Counts a := by
  induction a using List.reverseRecOn with
  | nil => exact ⟨rfl, rfl⟩
  | append_singleton a c ih =>
    rw [List.length_append, List.length_singleton] at h
    obtain ⟨hline, hcolumn⟩ := ih (by omega)
    have := lineOf_le a
    have := columnOf_le a
    by_cases hc : c = '\n'
    · constructor
      · rw [place_append_singleton, lineOf_append_singleton, Position.after, if_pos hc, if_pos hc,
          UInt32.toNat_add, hline]
        exact Nat.mod_eq_of_lt (by simp only [UInt32.reduceToNat]; omega)
      · rw [place_append_singleton, columnOf_append_singleton, Position.after, if_pos hc, if_pos hc]
        rfl
    · constructor
      · rw [place_append_singleton, lineOf_append_singleton, after_of_ne hc, if_neg hc]
        exact hline
      · rw [place_append_singleton, columnOf_append_singleton, after_of_ne hc, if_neg hc,
          UInt32.toNat_add, hcolumn]
        exact Nat.mod_eq_of_lt (by simp only [UInt32.reduceToNat]; omega)

/-! ### The order of places -/

theorem Position.lt_iff {p q : Position} :
    p < q ↔ p.line < q.line ∨ p.line = q.line ∧ p.column < q.column := by
  change (compare p.line q.line).then (compare p.column q.column) = .lt ↔ _
  rw [Ordering.then_eq_lt, Std.compare_eq_lt, Std.compare_eq_lt, Std.compare_eq_iff_eq]

theorem lineOf_append (a b : List Char) : lineOf (a ++ b) = lineOf a + b.count '\n' := by
  rw [lineOf, List.count_append, ← Nat.add_assoc, ← lineOf]

theorem columnOf_append {a b : List Char} (h : ∀ c ∈ b, c ≠ '\n') :
    columnOf (a ++ b) = columnOf a + b.length := by
  have hb : ∀ c ∈ b.reverse, decide (c ≠ '\n') = true := by simpa using h
  rw [columnOf, List.reverse_append, List.takeWhile_append_of_pos hb, List.length_append,
    List.length_reverse, columnOf]
  omega

/-- Behind a run within a line a character stands on the same line, as many columns further. -/
theorem Position.Counts.along {p q : Position} {a b : List Char} (hp : p.Counts a)
    (hq : q.Counts (a ++ b)) (hb : ∀ c ∈ b, c ≠ '\n') :
    q.line = p.line ∧ q.column.toNat = p.column.toNat + b.length := by
  have hnone : b.count '\n' = 0 := List.count_eq_zero.mpr fun hmem => hb _ hmem rfl
  constructor
  · rw [← UInt32.toNat_inj, hq.line, hp.line, lineOf_append, hnone, Nat.add_zero]
  · rw [hq.column, hp.column, columnOf_append hb]

/-- A character stands after all the characters before it. -/
theorem Position.Counts.lt {p q : Position} {a b : List Char} (hp : p.Counts a)
    (hq : q.Counts (a ++ b)) (hb : b ≠ []) : p < q := by
  rw [Position.lt_iff, UInt32.lt_iff_toNat_lt, UInt32.lt_iff_toNat_lt, ← UInt32.toNat_inj,
    hp.line, hp.column, hq.line, hq.column, lineOf_append]
  have hpos := List.length_pos_iff.mpr hb
  by_cases hline : '\n' ∈ b
  · have := List.count_pos_iff.mpr hline
    omega
  · have hne : ∀ c ∈ b, c ≠ '\n' := by
      rintro c hc rfl
      exact hline hc
    rw [List.count_eq_zero.mpr hline, columnOf_append hne]
    omega

theorem Position.lt_irrefl (p : Position) : ¬ p < p := by
  rw [Position.lt_iff]
  rintro (h | ⟨-, h⟩)
  · exact UInt32.lt_irrefl _ h
  · exact UInt32.lt_irrefl _ h

/-- The place after a text tells it from the texts that it begins with. -/
theorem place_append_ne {a b : List Char} (hb : b ≠ [])
    (hlen : (a ++ b).length < 2 ^ 32 - 1) : place a ≠ place (a ++ b) := by
  intro heq
  have ha : a.length < 2 ^ 32 - 1 := by
    rw [List.length_append] at hlen
    omega
  have hlt := (counts_place ha).lt (counts_place hlen) hb
  rw [← heq] at hlt
  exact Position.lt_irrefl _ hlt

end MonkeyTokens
