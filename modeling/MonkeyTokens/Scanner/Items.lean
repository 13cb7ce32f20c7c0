import MonkeyTokens.Scanner.Basic

/-!
All the items of a source.

`Scanner.rest` returns the items that a scanner still has to return: the tokens up
to the end of the text, or up to the first error and that error. `tokenize` is the
whole of a text at once, and fails where the scan does.
-/

namespace MonkeyTokens

namespace Scanner

/-- Adds the items that are still to come to those `taken`. -/
def drain (taken : Array Item) (s : Scanner) : Array Item × Scanner :=
  match _ : s.next? with
  | (none, s') => (taken, s')
  | (some item, s') => drain (taken.push item) s'
termination_by s.pending
decreasing_by
  rename_i hnext
  exact pending_next?_lt hnext

/-- The items that are still to come, and the scanner after the last of them. -/
def rest (s : Scanner) : List Item × Scanner :=
  match s.drain #[] with
  | (items, s') => (items.toList, s')

/-- The items that are still to come. -/
def items (s : Scanner) : List Item := s.rest.1

theorem drain_eq (taken : Array Item) (s : Scanner) :
    s.drain taken = ((taken.toList ++ s.rest.1).toArray, s.rest.2) := by
  suffices h : ∀ taken : Array Item,
      s.drain taken = ((taken.toList ++ (s.drain #[]).1.toList).toArray, (s.drain #[]).2) from
    h taken
  induction hn : s.pending using Nat.strongRecOn generalizing s with
  | ind n ih =>
    intro taken
    unfold drain
    split
    · simp
    · rename_i item s' hnext
      have hlt := pending_next?_lt hnext
      rw [ih s'.pending (hn ▸ hlt) s' rfl (taken.push item),
        ih s'.pending (hn ▸ hlt) s' rfl (#[].push item)]
      simp

/-- The items of a scanner, one call at a time. -/
theorem rest_eq (s : Scanner) : s.rest = match s.next? with
    | (none, s') => ([], s')
    | (some item, s') => (item :: s'.rest.1, s'.rest.2) := by
  have hdrain : s.drain #[] = match s.next? with
      | (none, s') => (#[], s')
      | (some item, s') => drain #[item] s' := by
    rw [drain]
    split <;> rename_i hnext <;> simp [hnext]
  rw [rest, hdrain]
  cases hnext : s.next? with
  | mk item s' => cases item <;> simp [drain_eq]

end Scanner

/-- The tokens of a text, up to and including the end of it, or the first error. -/
def tokenize (source : String) : Except ScanError (List Token) :=
  (Scanner.ofString source).items.mapM id

end MonkeyTokens
