import MonkeyTokens.Proofs.Output.Formats
import MonkeyTokens.Proofs.Text.JsonReader

/-!
What is written as JSON can be recovered.

A JSON object that is written of a position, a token or an error is read for a value, and
from the members of this value the position, the token, and the kind, message and position of
the error are taken again. So the document of any tokens and the lines of JSON of any items
hold all of them, in their order; no two lists of tokens are written the same. A record, which
is what one item is written as, holds no line feed, so the lines of the text are the records.
The main statement is `json_recoverable`.
-/

namespace MonkeyTokens

open Json (Value Reads value? reads_number reads_string reads_object reads_array)

open Scanner (Item itemsFor)

/-! ### Values that are written -/

/-- The value of a position. -/
def Position.json (p : Position) : Value :=
  .object [("line", .number p.line.toNat), ("column", .number p.column.toNat)]

/-- The value of a token. -/
def Token.json (t : Token) : Value :=
  .object [("kind", .string t.kind.name), ("literal", .string t.literal),
    ("start", t.span.first.json), ("end", t.span.last.json)]

/-- The value of an error. -/
def ScanError.json (e : ScanError) : Value :=
  .object [("type", .string "error"), ("kind", .string e.kind), ("message", .string e.message),
    ("location", e.position.json)]

/-- The value of a document. -/
def Token.documentJson (ts : List Token) : Value :=
  .object [("type", .string "tokens"), ("tokens", .array (ts.map Token.json))]

/-- The value of an item. -/
def Scanner.Item.json : Item → Value
  | .ok t => t.json
  | .error e => e.json

/-! ### Texts that are written -/

namespace Dump

/-- What one item is written as. -/
def record : Item → String
  | .ok t => token t
  | .error e => error e

/-- Writes the record of each item behind what is `written`, whether or not an error is
among them. -/
def writeRecords (written : String) : List Item → String
  | [] => written
  | item :: items => writeRecords (written ++ record item ++ "\n") items

/-! ### Values that are read -/

/-- What an error is shown as. -/
structure Report where
  kind : String
  message : String
  position : Position
deriving DecidableEq, Repr

/-- The report of an error. -/
def Report.ofError (e : ScanError) : Report := ⟨e.kind, e.message, e.position⟩

/-- What an item is shown as. -/
inductive Record where
  | token (t : Token)
  | report (r : Report)
deriving DecidableEq, Repr

/-- The record of an item. -/
def Record.ofItem : Item → Record
  | .ok t => .token t
  | .error e => .report (.ofError e)

/-- The word of 32 bits that a value is. -/
def word? (v : Value) : Option UInt32 := do
  let n ← v.number?
  if n < 2 ^ 32 then some (.ofNat n) else none

/-- The position that a value stands for. -/
def position? (v : Value) : Option Position := do
  return ⟨← word? (← v.member? "line"), ← word? (← v.member? "column")⟩

/-- The token that a value stands for. -/
def token? (v : Value) : Option Token := do
  let kind ← Token.Kind.ofName? (← (← v.member? "kind").string?)
  let literal ← (← v.member? "literal").string?
  return ⟨kind, literal, ← position? (← v.member? "start"), ← position? (← v.member? "end")⟩

/-- Whether a value is an object of this type. -/
def hasType (type : String) (v : Value) : Bool :=
  (v.member? "type").bind Value.string? == some type

/-- The report that a value of an error stands for. -/
def report? (v : Value) : Option Report := do
  return ⟨← (← v.member? "kind").string?, ← (← v.member? "message").string?,
    ← position? (← v.member? "location")⟩

/-- The record that a value stands for. -/
def record? (v : Value) : Option Record :=
  if hasType "error" v then (report? v).map .report else (token? v).map .token

/-- The tokens that a value stands for. -/
def tokens? (v : Value) : Option (List Token) := do
  if hasType "tokens" v then (← (← v.member? "tokens").array?).mapM token? else none

/-- Reads a document back. -/
def readDocument? (text : String) : Option (List Token) := (Json.read? text).bind tokens?

/-- Reads a record back. -/
def readRecord? (line : String) : Option Record := (Json.read? line).bind record?

/-- Reads records back, each from a line of its own. -/
def readRecords? (text : String) : Option (List Record) :=
  (text.toList.splitOn '\n').dropLast.mapM fun line => readRecord? (String.ofList line)

/-! ### Values recovered -/

theorem word?_toNat (w : UInt32) : word? (.number w.toNat) = some w := by
  simp [word?, Value.number?, w.toNat_lt]

theorem position?_json (p : Position) : position? p.json = some p := by
  simp [position?, Position.json, Value.member?, List.lookup_cons, word?_toNat]

theorem token?_json (t : Token) : token? t.json = some t := by
  simp [token?, Token.json, Value.member?, List.lookup_cons, Value.string?, position?_json]

theorem report?_json (e : ScanError) : report? e.json = some (.ofError e) := by
  simp [report?, ScanError.json, Value.member?, List.lookup_cons, Value.string?, position?_json,
    Report.ofError]

theorem tokens?_json (ts : List Token) : tokens? (Token.documentJson ts) = some ts := by
  have hall := mapM_map_eq_some (k := id) fun t (_ : t ∈ ts) => token?_json t
  rw [List.map_id] at hall
  simpa [tokens?, hasType, Token.documentJson, Value.member?, List.lookup_cons, Value.string?,
    Value.array?] using hall

theorem record?_json (item : Item) : record? item.json = some (.ofItem item) := by
  cases item with
  | ok t =>
    have htype : hasType "error" t.json = false := by
      simp [hasType, Token.json, Value.member?, List.lookup_cons]
    simp [Scanner.Item.json, record?, htype, token?_json, Record.ofItem]
  | error e =>
    have htype : hasType "error" e.json = true := by
      simp [hasType, ScanError.json, Value.member?, Value.string?]
    simp [Scanner.Item.json, record?, htype, report?_json, Record.ofItem]

/-! ### Texts read -/

theorem reads_position (depth : Nat) (p : Position) :
    Reads (value? (depth + 2)) (position p) p.json :=
  reads_object (.cons ⟨rfl, reads_number _ _⟩ (.cons ⟨rfl, reads_number _ _⟩ .nil))

theorem reads_token (depth : Nat) (t : Token) : Reads (value? (depth + 3)) (token t) t.json :=
  reads_object (.cons ⟨rfl, reads_string _ _⟩ (.cons ⟨rfl, reads_string _ _⟩
    (.cons ⟨rfl, reads_position _ _⟩ (.cons ⟨rfl, reads_position _ _⟩ .nil))))

theorem reads_error (depth : Nat) (e : ScanError) : Reads (value? (depth + 3)) (error e) e.json :=
  reads_object (.cons ⟨rfl, reads_string _ _⟩ (.cons ⟨rfl, reads_string _ _⟩
    (.cons ⟨rfl, reads_string _ _⟩ (.cons ⟨rfl, reads_position _ _⟩ .nil))))

theorem reads_document (depth : Nat) (ts : List Token) :
    Reads (value? (depth + 5)) (document ts) (Token.documentJson ts) := by
  have htokens : List.Forall₂ (Reads (value? (depth + 3))) (ts.map token) (ts.map Token.json) := by
    rw [List.forall₂_map_left_iff, List.forall₂_map_right_iff]
    exact List.forall₂_same.mpr fun t _ => reads_token depth t
  exact reads_object (.cons ⟨rfl, reads_string _ _⟩ (.cons ⟨rfl, reads_array htokens⟩ .nil))

theorem read?_document (ts : List Token) :
    Json.read? (document ts) = some (Token.documentJson ts) :=
  Json.read?_of_reads (reads_document 123 ts)

theorem read?_record (item : Item) : Json.read? (record item) = some item.json := by
  cases item with
  | ok t => exact Json.read?_of_reads (reads_token 125 t)
  | error e => exact Json.read?_of_reads (reads_error 125 e)

theorem readDocument?_document (ts : List Token) : readDocument? (document ts) = some ts := by
  rw [readDocument?, read?_document, Option.bind_some, tokens?_json]

theorem readRecord?_record (item : Item) : readRecord? (record item) = some (.ofItem item) := by
  rw [readRecord?, read?_record, Option.bind_some, record?_json]

/-! ### Records on lines of their own -/

theorem plain_record (item : Item) : Json.Plain (record item) := by
  cases item with
  | ok t => exact plain_token t
  | error e => exact plain_error e

theorem writeRecords_eq (written : String) (items : List Item) :
    writeRecords written items = written ++ lines (items.map record) := by
  induction items generalizing written with
  | nil => simp [writeRecords]
  | cons item items ih =>
    rw [writeRecords, ih, List.map_cons, lines_cons]
    simp only [String.append_assoc]

theorem hasLines_records (items : List Item) :
    HasLines (writeRecords "" items) (items.map record) where
  text_eq := by rw [writeRecords_eq, String.empty_append]
  oneLine := by
    intro l hl
    obtain ⟨item, -, rfl⟩ := List.mem_map.mp hl
    exact (plain_record item).oneLine

theorem readRecords?_records (items : List Item) :
    readRecords? (writeRecords "" items) = some (items.map Record.ofItem) := by
  rw [readRecords?, (hasLines_records items).splitOn_eq, List.dropLast_concat, List.map_map]
  refine mapM_map_eq_some ?_
  intro item _
  rw [Function.comp_apply, String.ofList_toList, readRecord?_record]

/-- The lines of JSON of a scan are the records of its items. -/
theorem jsonLines_itemsFor (ts : List Token) (failure : Option ScanError) :
    jsonLines (itemsFor ts failure) = writeRecords "" (itemsFor ts failure) := by
  have hrecords : (itemsFor ts failure).map record =
      ts.map token ++ failure.toList.map error := by
    rw [itemsFor, List.map_append, List.map_map, List.map_map]
    rfl
  rw [jsonLines, writeJsonLines_itemsFor, writeRecords_eq, hrecords]

theorem document_injective : Function.Injective document :=
  fun _ _ => eq_of_read readDocument?_document

theorem ofItem_eq_of_records {items items' : List Item}
    (h : writeRecords "" items = writeRecords "" items') :
    items.map Record.ofItem = items'.map Record.ofItem := eq_of_read readRecords?_records h

theorem ofItem_eq_of_record {item item' : Item} (h : record item = record item') :
    Record.ofItem item = .ofItem item' := eq_of_read readRecord?_record h

theorem records_injective :
    Function.Injective fun ts : List Token => writeRecords "" (ts.map .ok) := by
  intro ts ts' h
  have hitems := ofItem_eq_of_records h
  rw [List.map_map, List.map_map] at hitems
  have hinjective : Function.Injective (Record.ofItem ∘ (.ok : Token → Item)) := fun _ _ h =>
    Record.token.inj h
  exact List.map_injective_iff.mpr hinjective hitems

/-- **What is written as JSON can be recovered.** The document of any tokens, with whichever
kinds, texts and positions, is read back for these tokens, and no two lists of tokens have the
same document. The records of any items, tokens and errors in whichever order, are read back
from the lines of their text for the tokens and for the kind, message and position of the
errors; the text splits at its line feeds into just these records, one for each item, and each
is a JSON object as a whole. So no two lists of tokens have the same records, an error has the
record of no error that is shown differently, and of no token. No document and no record has a
character below the space. The lines of JSON of a scan are the records of its items. -/
theorem json_recoverable :
    (∀ ts, readDocument? (document ts) = some ts ∧ Json.Plain (document ts)) ∧
      Function.Injective document ∧
      (∀ items, readRecords? (writeRecords "" items) = some (items.map Record.ofItem) ∧
        (writeRecords "" items).toList.splitOn '\n' =
          items.map (fun item => (record item).toList) ++ [[]]) ∧
      (∀ item, Json.Plain (record item) ∧
        ∃ members, Json.read? (record item) = some (.object members)) ∧
      Function.Injective (fun ts : List Token => writeRecords "" (ts.map .ok)) ∧
      (∀ e e', error e = error e' →
        e.kind = e'.kind ∧ e.message = e'.message ∧ e.position = e'.position) ∧
      (∀ e t, error e ≠ token t) ∧
      ∀ source, let items := (Scanner.ofStream source).items
        jsonLines items = writeRecords "" items := by
  refine ⟨fun ts => ⟨readDocument?_document ts, plain_document ts⟩, document_injective,
    fun items => ⟨readRecords?_records items, ?_⟩, fun item => ⟨plain_record item, ?_⟩,
    records_injective, fun e e' h => ?_, fun e t h => ?_, fun source => ?_⟩
  · rw [(hasLines_records items).splitOn_eq, List.map_map]
    rfl
  · cases item with
    | ok t => exact ⟨_, read?_record (.ok t)⟩
    | error e => exact ⟨_, read?_record (.error e)⟩
  · have hreport : Record.ofItem (.error e) = .ofItem (.error e') := ofItem_eq_of_record h
    simpa [Record.ofItem, Report.ofError] using hreport
  · have hrecord : Record.ofItem (.error e) = .ofItem (.ok t) := ofItem_eq_of_record h
    cases hrecord
  · obtain ⟨-, hitems⟩ := Scanner.items_eq_result source
    intro items
    rw [show items = _ from hitems]
    exact jsonLines_itemsFor _ _

end Dump

end MonkeyTokens
