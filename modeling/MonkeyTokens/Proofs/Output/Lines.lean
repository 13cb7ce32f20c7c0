import MonkeyTokens.Dump
import MonkeyTokens.Proofs.Text.Characters

/-!
Lines of the outputs.

A displayed token, a token or an error as a JSON object and the JSON document of a whole
text are single lines, whatever they hold. A displayed error is one too, unless the source
describes its fault in several (`ScanError.oneLine_toString`). `Dump.HasLines` states that
a text is made of just these lines.
-/

namespace MonkeyTokens

open Text

/-! ### Displayed tokens and errors -/

@[simp] theorem Position.clear_toString (p : Position) : Clear p.toString := by
  simp +decide [Position.toString, clear_repr]

@[simp] theorem Span.clear_toString (s : Span) : Clear s.toString := by
  simp +decide [Span.toString]

theorem Token.Kind.clear_name (k : Token.Kind) : Clear k.name := by
  cases k with
  | mark m => cases m <;> decide
  | keyword k => cases k <;> decide
  | _ => decide

/-- Whichever characters are written by number, a displayed token has no control character. -/
theorem Token.clear_displayed (hidden : Char → Bool) (t : Token) : Clear (t.displayed hidden) := by
  have hliteral := clear_quoted (show isControl '\x22' = false by decide) hidden t.literal.toList
  simp +decide [Token.displayed, Token.Kind.clear_name, hliteral]

namespace ScanError

theorem isControl_toUpper_digitChar (d : Nat) : isControl (Nat.digitChar d).toUpper = false :=
  digitChar_induction (P := fun c => isControl c.toUpper = false) (by decide) (by decide) d

theorem clear_bytesText (bytes : List UInt8) : Clear (bytesText bytes) := by
  have hbytes : Clear (", ".intercalate (bytes.map fun b => String.ofList (byteText b))) := by
    refine ConsistsOf.intercalate (by decide) ?_
    intro text htext
    obtain ⟨b, -, rfl⟩ := List.mem_map.mp htext
    apply consistsOf_ofList.mpr
    simp [byteText, isControl_toUpper_digitChar]
  simp +decide [bytesText, hbytes]

theorem clear_kind (e : ScanError) : Clear e.kind := by
  obtain ⟨cause, p⟩ := e
  rcases cause with (f | bytes) | letter <;> simp +decide [kind, Cause.kind]

/-- The words of an error have no control character, but for those of a fault. -/
theorem oneLine_message {e : ScanError}
    (h : ∀ f, e.cause = .unreadable (.fault f) → OneLine f.message) : OneLine e.message := by
  obtain ⟨cause, p⟩ := e
  rcases cause with (f | bytes) | letter
  · exact consistsOf_append.mpr ⟨by decide, h f rfl⟩
  · exact consistsOf_append.mpr ⟨by decide, (clear_bytesText bytes).oneLine⟩
  · have hletter : Clear (quoteChar letter) := clear_quoted (by decide) _ _
    exact consistsOf_append.mpr ⟨by decide, hletter.oneLine⟩

theorem oneLine_toString {e : ScanError}
    (h : ∀ f, e.cause = .unreadable (.fault f) → OneLine f.message) : OneLine e.toString := by
  have hposition : OneLine e.position.toString := e.position.clear_toString.oneLine
  rw [toString_eq]
  simp +decide [e.clear_kind.oneLine, hposition, oneLine_message h]

end ScanError

/-! ### JSON values -/

namespace Dump

open Json (Plain)

theorem plain_position (p : Position) : Plain (position p) := by
  apply Json.plain_object
  simp [Json.plain_number]

theorem plain_token (t : Token) : Plain (token t) := by
  apply Json.plain_object
  simp [Json.plain_string, plain_position]

theorem plain_error (e : ScanError) : Plain (error e) := by
  apply Json.plain_object
  simp [Json.plain_string, plain_position]

theorem plain_document (ts : List Token) : Plain (document ts) := by
  have htokens : Plain (Json.array (ts.map token)) := by
    apply Json.plain_array
    simp [plain_token]
  apply Json.plain_object
  simp [Json.plain_string, htokens]

/-! ### Texts made of lines -/

/-- A text is made of these lines, each with a line feed behind it and none inside. -/
structure HasLines (text : String) (ls : List String) : Prop where
  text_eq : text = lines ls
  oneLine : ∀ l ∈ ls, OneLine l

end Dump

end MonkeyTokens
