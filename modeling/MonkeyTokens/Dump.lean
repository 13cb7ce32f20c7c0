import MonkeyTokens.Scanner.Items
import MonkeyTokens.Text.Json

/-!
Scans written out.

A scan is written in one of three formats: a line for each token; one JSON
document, which holds either all the tokens or the error; or a line of JSON for
each item. What is meant for a reader at a terminal and is no part of the result,
the error of the line format, goes to the diagnostic output. Each format writes the
items in a way of its own and ends with an exit code of its own, 0 or, at an error, 2.
-/

namespace MonkeyTokens

/-- What a run of the program comes to: its exit code and what it wrote. -/
structure Outcome where
  code : UInt8
  standard : String
  diagnostic : String
deriving DecidableEq, Repr

namespace Scanner

/-- The tokens among the items of a scan. -/
def tokensOf (items : List Item) : List Token := items.filterMap Except.toOption

/-- The error that ended a scan, if one did. -/
def errorOf? (items : List Item) : Option ScanError :=
  items.findSome? fun
    | .ok _ => none
    | .error e => some e

end Scanner

namespace Dump

open Scanner (Item tokensOf errorOf?)

/-! ### JSON values -/

/-- A position as a JSON object. -/
def position (p : Position) : String :=
  Json.object [("line", Json.number p.line.toNat), ("column", Json.number p.column.toNat)]

/-- A token as a JSON object. -/
def token (t : Token) : String :=
  Json.object [("kind", Json.string t.kind.name), ("literal", Json.string t.literal),
    ("start", position t.span.first), ("end", position t.span.last)]

/-- The tokens of a text as a JSON document. -/
def document (ts : List Token) : String :=
  Json.object [("type", Json.string "tokens"), ("tokens", Json.array (ts.map token))]

/-- An error as a JSON object. -/
def error (e : ScanError) : String :=
  Json.object [("type", Json.string "error"), ("kind", Json.string e.kind),
    ("message", Json.string e.message), ("location", position e.position)]

/-! ### Formats -/

/-- Ends each text with a line feed. -/
def lines (texts : List String) : String := String.join (texts.map (· ++ "\n"))

/-- Writes a line for each token behind what is `written`. An error is no part of the
result. -/
def writeText (written : String) : List Item → Outcome
  | [] => ⟨0, written, ""⟩
  | .ok t :: items => writeText (written ++ t.toString ++ "\n") items
  | .error e :: _ => ⟨2, written, e.toString ++ "\n"⟩

/-- The document of all the tokens, or the error if there is one. -/
def json (items : List Item) : String :=
  match items.mapM id with
  | .ok ts => document ts
  | .error e => error e

/-- Writes one document. -/
def writeJson (items : List Item) : Outcome :=
  ⟨if (items.mapM id).isOk then 0 else 2, json items ++ "\n", ""⟩

/-- Writes a line of JSON for each item behind what is `written`. -/
def writeJsonLines (written : String) : List Item → Outcome
  | [] => ⟨0, written, ""⟩
  | .ok t :: items => writeJsonLines (written ++ token t ++ "\n") items
  | .error e :: _ => ⟨2, written ++ error e ++ "\n", ""⟩

/-- The lines of JSON of a scan. -/
def jsonLines (items : List Item) : String := (writeJsonLines "" items).standard

/-- A format in which a scan is written out. -/
inductive Format where
  | text | json | jsonLines
deriving DecidableEq, Repr

namespace Format

/-- The name that a format is asked for by. -/
def name : Format → String
  | .text => "text"
  | .json => "json"
  | .jsonLines => "jsonl"

/-- The format of this name. -/
def ofName? : String → Option Format
  | "text" => some .text
  | "json" => some .json
  | "jsonl" => some .jsonLines
  | _ => none

@[simp] theorem ofName?_name (f : Format) : ofName? f.name = some f := by
  cases f <;> rfl

/-- Writes a scan in a format. -/
def write (f : Format) (items : List Item) : Outcome :=
  match f with
  | .text => writeText "" items
  | .json => writeJson items
  | .jsonLines => writeJsonLines "" items

end Format

end Dump

end MonkeyTokens
