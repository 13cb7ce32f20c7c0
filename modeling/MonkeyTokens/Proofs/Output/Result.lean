import MonkeyTokens.Dump
import MonkeyTokens.Proofs.Lexing.Seams

/-!
What a scan comes to.

Every scan ends. It returns tokens and then either the token at the end of the text, which
is the only one of its kind, or one error. `Scanner.Finishes` says so of the tokens and the
error among its items, and these two are all that the items hold (`items_eq_result`).
-/

namespace MonkeyTokens

open ByteStream Lexing

/-- A scan without an error ends in the end of the text, one with an error ends there. In
both, what comes before is tokens of something in the text. -/
inductive Scanner.Finishes : List Token → Option ScanError → Prop where
  | clean {ts : List Token} {p : Position} (h : ∀ t ∈ ts, t.isEndOfFile = false) :
      Finishes (ts ++ [.endOfFile p]) none
  | failed {ts : List Token} {e : ScanError} (h : ∀ t ∈ ts, t.isEndOfFile = false) :
      Finishes ts (some e)

namespace Scanner

/-- The items of a scan of these tokens, with this error behind them. -/
def itemsFor (ts : List Token) (failure : Option ScanError) : List Item :=
  ts.map .ok ++ failure.toList.map .error

section

variable (ts : List Token) (failure : Option ScanError)

@[simp] theorem tokensOf_itemsFor : tokensOf (itemsFor ts failure) = ts := by
  have herror : tokensOf (failure.toList.map .error) = [] := by cases failure <;> rfl
  induction ts with
  | nil => exact herror
  | cons t ts ih => exact congrArg (t :: ·) ih

@[simp] theorem errorOf?_itemsFor : errorOf? (itemsFor ts failure) = failure := by
  induction ts with
  | nil => cases failure <;> rfl
  | cons t ts ih => exact ih

end

theorem exists_items (source : ByteStream) :
    ∃ ts failure, Finishes ts failure ∧ (ofStream source).items = itemsFor ts failure := by
  obtain ⟨cs, ending, hsupply⟩ := exists_supplies source.answers
  obtain ⟨ps, stop, hlexes⟩ := exists_lexes cs
  have hitems := items_ofStream hsupply hlexes
  have hkept := isEndOfFile_kept hlexes ending
  rcases lastItem_cases (textOf ps) ending stop with ⟨p, hlast⟩ | ⟨e, hlast⟩
  · refine ⟨_ ++ [.endOfFile p], none, .clean hkept, ?_⟩
    rw [hitems, hlast]
    simp [itemsFor]
  · refine ⟨_, some e, .failed hkept, ?_⟩
    rw [hitems, hlast]
    rfl

/-- **The result of a scan.** The items of a source are its tokens, and behind them the
error if there is one. -/
theorem items_eq_result (source : ByteStream) :
    let items := (ofStream source).items
    Finishes (tokensOf items) (errorOf? items) ∧
      items = itemsFor (tokensOf items) (errorOf? items) := by
  intro items
  obtain ⟨ts, failure, hfinishes, hitems⟩ := exists_items source
  have heq : items = itemsFor ts failure := hitems
  rw [heq, tokensOf_itemsFor, errorOf?_itemsFor]
  exact ⟨hfinishes, rfl⟩

end Scanner

end MonkeyTokens
