import MonkeyTokens.Proofs.Lexing.MaximalMunch
import MonkeyTokens.Proofs.Output.Lines
import MonkeyTokens.Proofs.Output.Result

/-!
What each format writes.

The three formats go through the items of a scan in three ways. What they write is given
here by the tokens of the scan and its error: the lines of each output and the exit code,
which is the same for all (`Format.write_itemsFor`).
-/

namespace MonkeyTokens

open Scanner (itemsFor)

/-- The exit code of a scan that ends in this error, or in none. -/
def exitCode (failure : Option ScanError) : UInt8 := if failure.isSome then 2 else 0

namespace Dump

theorem lines_cons (text : String) (texts : List String) :
    lines (text :: texts) = text ++ "\n" ++ lines texts := by
  rw [lines, List.map_cons, String.join_cons]
  rfl

@[simp] theorem lines_nil : lines [] = "" := String.join_nil

theorem lines_singleton (text : String) : lines [text] = text ++ "\n" := by
  rw [lines_cons, lines_nil, String.append_empty]

/-- A text made of lines splits into just these at its line feeds, with nothing behind the
last one. -/
theorem HasLines.splitOn_eq {text : String} {ls : List String} (h : HasLines text ls) :
    text.toList.splitOn '\n' = ls.map String.toList ++ [[]] := by
  obtain ⟨rfl, hlines⟩ := h
  induction ls with
  | nil => rw [lines_nil]; rfl
  | cons l ls ih =>
    obtain ⟨hl, hls⟩ := List.forall_mem_cons.mp hlines
    have hsplit : (lines (l :: ls)).toList = l.toList ++ '\n' :: (lines ls).toList := by
      simp [lines_cons]
    have hnone : '\n' ∉ l.toList := fun hmem => by
      simpa using Text.consistsOf_iff.mp hl '\n' hmem
    rw [hsplit, List.splitOn_append_cons_self_of_not_mem hnone, ih hls]
    rfl

/-- Things that are written the same are read back as the same. -/
theorem eq_of_read {α β γ : Type} {write : α → β} {read : β → Option γ} {value : α → γ}
    (h : ∀ a, read (write a) = some (value a)) {a a' : α} (heq : write a = write a') :
    value a = value a' := by
  have ha := h a
  rwa [heq, h, Option.some_inj, eq_comm] at ha

/-- What is read back one by one is read back as a list. -/
theorem mapM_map_eq_some {α β γ : Type} {f : β → Option γ} {g : α → β} {k : α → γ} {xs : List α}
    (h : ∀ x ∈ xs, f (g x) = some (k x)) : (xs.map g).mapM f = some (xs.map k) := by
  induction xs with
  | nil => rfl
  | cons x xs ih =>
    obtain ⟨hx, hxs⟩ := List.forall_mem_cons.mp h
    rw [List.map_cons, List.mapM_cons, hx, ih hxs]
    rfl

namespace Format

theorem ofName?_eq_none_iff {name : String} :
    ofName? name = none ↔ name ∉ ["text", "json", "jsonl"] := by
  unfold ofName?
  split <;> simp_all

/-- The lines of the result of a scan. One JSON document holds the same tokens as the lines
of JSON, and no token beside an error. -/
def standardLines : Format → List Token → Option ScanError → List String
  | .text, ts, _ => ts.map Token.toString
  | .json, ts, none =>
    ["\x7b\"type\":\"tokens\",\"tokens\":[" ++ ",".intercalate (ts.map token) ++ "]\x7d"]
  | .json, _, some e => [error e]
  | .jsonLines, ts, failure => ts.map token ++ failure.toList.map error

/-- The lines that a format leaves to the diagnostic output. -/
def diagnosticLines : Format → Option ScanError → List String
  | .text, failure => failure.toList.map ScanError.toString
  | .json, _ => []
  | .jsonLines, _ => []

end Format

theorem writeText_itemsFor (written : String) (ts : List Token) (failure : Option ScanError) :
    writeText written (itemsFor ts failure) =
      ⟨exitCode failure, written ++ lines (ts.map Token.toString),
        lines (failure.toList.map ScanError.toString)⟩ := by
  induction ts generalizing written with
  | nil =>
    cases failure with
    | none => simp [itemsFor, writeText, exitCode]
    | some e => simp [itemsFor, writeText, exitCode, lines_singleton]
  | cons t ts ih =>
    have hstep : writeText written (itemsFor (t :: ts) failure) =
        writeText (written ++ t.toString ++ "\n") (itemsFor ts failure) := rfl
    rw [hstep, ih, List.map_cons, lines_cons]
    simp only [String.append_assoc]

theorem writeJsonLines_itemsFor (written : String) (ts : List Token)
    (failure : Option ScanError) : writeJsonLines written (itemsFor ts failure) =
      ⟨exitCode failure, written ++ lines (ts.map token ++ failure.toList.map error), ""⟩ := by
  induction ts generalizing written with
  | nil =>
    cases failure with
    | none => simp [itemsFor, writeJsonLines, exitCode]
    | some e => simp [itemsFor, writeJsonLines, exitCode, lines_singleton, String.append_assoc]
  | cons t ts ih =>
    have hstep : writeJsonLines written (itemsFor (t :: ts) failure) =
        writeJsonLines (written ++ token t ++ "\n") (itemsFor ts failure) := rfl
    rw [hstep, ih, List.map_cons, List.cons_append, lines_cons]
    simp only [String.append_assoc]

theorem mapM_itemsFor (ts : List Token) (failure : Option ScanError) :
    (itemsFor ts failure).mapM id = match failure with
      | none => .ok ts
      | some e => .error e := by
  cases failure with
  | none =>
    rw [itemsFor, ← mapM_id_ok]
    simp
  | some e => exact mapM_id_error ts e

theorem document_eq (ts : List Token) : document ts =
    "\x7b\"type\":\"tokens\",\"tokens\":[" ++ ",".intercalate (ts.map token) ++ "]\x7d" := by
  have hopening : "\x7b\"type\":\"tokens\",\"tokens\":[" =
      "\x7b" ++ (Json.string "type" ++ ":" ++ Json.string "tokens") ++ ","
        ++ (Json.string "tokens" ++ ":") ++ "[" := by decide +kernel
  have hclosing : "]\x7d" = "]" ++ "\x7d" := by decide +kernel
  rw [hopening, hclosing]
  simp only [document, Json.object, Json.array, List.map_cons, List.map_nil,
    String.intercalate_cons_cons, String.intercalate_singleton, String.append_assoc]

theorem writeJson_itemsFor (ts : List Token) (failure : Option ScanError) :
    writeJson (itemsFor ts failure) =
      ⟨exitCode failure, lines (Format.json.standardLines ts failure), ""⟩ := by
  rw [writeJson, json, mapM_itemsFor]
  cases failure with
  | none =>
    rw [Format.standardLines, lines_singleton, ← document_eq]
    rfl
  | some e =>
    rw [Format.standardLines, lines_singleton]
    rfl

/-- **What a format writes** of a scan: the lines of both outputs, and the exit code. -/
theorem Format.write_itemsFor (f : Format) (ts : List Token) (failure : Option ScanError) :
    f.write (itemsFor ts failure) = ⟨exitCode failure, lines (f.standardLines ts failure),
      lines (f.diagnosticLines failure)⟩ := by
  cases f with
  | text =>
    rw [write, writeText_itemsFor, String.empty_append]
    rfl
  | json =>
    rw [write, writeJson_itemsFor]
    rfl
  | jsonLines =>
    rw [write, writeJsonLines_itemsFor, String.empty_append]
    rfl

/-- What a format writes as the result are single lines. -/
theorem Format.oneLine_of_mem_standardLines (f : Format) (ts : List Token)
    (failure : Option ScanError) : ∀ l ∈ f.standardLines ts failure, Text.OneLine l := by
  cases f with
  | text =>
    rintro l hl
    obtain ⟨t, -, rfl⟩ := List.mem_map.mp hl
    exact (t.clear_displayed Text.isUnprintable).oneLine
  | json =>
    cases failure with
    | none =>
      rw [standardLines, ← document_eq, List.forall_mem_singleton]
      exact (plain_document ts).oneLine
    | some e =>
      rw [standardLines, List.forall_mem_singleton]
      exact (plain_error e).oneLine
  | jsonLines =>
    rw [standardLines, List.forall_mem_append]
    constructor
    · intro l hl
      obtain ⟨t, -, rfl⟩ := List.mem_map.mp hl
      exact (plain_token t).oneLine
    · intro l hl
      obtain ⟨e, -, rfl⟩ := List.mem_map.mp hl
      exact (plain_error e).oneLine

end Dump

end MonkeyTokens
