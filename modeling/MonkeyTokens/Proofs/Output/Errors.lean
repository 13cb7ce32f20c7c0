import MonkeyTokens.Proofs.Output.Displayed
import MonkeyTokens.Proofs.Output.Recovery

/-!
What a displayed error tells.

The line of an error is its kind, its position and its message, and it is read back in these
parts: the head up to the message takes its fields one by one (`ScanError.takes_head`), and the
message is read by the kind that the head names (`ScanError.whole_message`). What comes back of
the cause is its `Detail`: the malformed bytes and the letter after a zero as they are, and of a
fault its words, whatever they are. So two errors are displayed the same exactly if they agree
in these and stand in the same position (`ScanError.toString_eq_iff`). The main statement is
`ScanError.error_recoverable`.
-/

namespace MonkeyTokens

open Text

namespace ScanError

/-! ### Details -/

/-- What the message of an error tells of its cause. -/
inductive Detail where
  /-- A fault is told by its words alone. -/
  | fault (words : String)
  | malformed (bytes : List UInt8)
  | unknownRadix (letter : Char)
deriving DecidableEq, Repr

/-- The detail of a cause. -/
def Cause.detail : Cause → Detail
  | .unreadable (.fault f) => .fault f.message
  | .unreadable (.malformed bytes) => .malformed bytes
  | .unknownRadix letter => .unknownRadix letter

/-! ### Fields -/

/-- Takes a byte in two hexadecimal digits. -/
def byte : Reader UInt8
  | high :: low :: rest => do return (.ofNat (← numberOf? 16 [high, low]), rest)
  | _ => none

/-- Takes a character between apostrophes. -/
def letter : Reader Char :=
  (quoted? '\x27').filterMap fun cs =>
    match cs with
    | [c] => some c
    | _ => none

/-- Takes the message of an error of this kind. -/
def Detail.reader : String → Reader Detail
  | "IOFailure" => do
    word "failed to read character: ".toList
    return .fault (String.ofList (← remainder))
  | "EncodingError" => do
    word "invalid UTF-8 sequence ".toList
    exactly '['
    return .malformed (← separatedUpTo byte ", ".toList ']')
  | "LexError" => do
    word "unrecognized integer prefix ".toList
    return .unknownRadix (← letter)
  | _ => fun _ => none

/-- Takes a position between the word before it and the message behind it. -/
def placed : Reader Position := do
  word "at ".toList
  let position ← Position.reader ':'
  exactly ' '
  return position

/-- Takes what stands before the message: the kind and the position. -/
def head : Reader (String × Position) := do
  let kind ← upTo ' '
  return (String.ofList kind, ← placed)

/-- Reads the line of an error. -/
def readLine? (line : String) : Option (Detail × Position) :=
  (head line.toList).bind fun ((kind, position), message) =>
    (whole? (Detail.reader kind) message).map (·, position)

theorem hexDigit?_toUpper_digitChar {d : Nat} (h : d < 16) :
    Json.hexDigit? (Nat.digitChar d).toUpper = some d := by
  revert d
  decide

theorem takes_byte (b : UInt8) : Takes byte (byteText b) b := by
  have hhigh : b.toNat / 16 < 16 := Nat.div_lt_of_lt_mul b.toNat_lt
  have hlow : b.toNat % 16 < 16 := Nat.mod_lt _ (by decide)
  have hnumber : numberOf? 16 (byteText b) = some b.toNat := by
    simp [numberOf?, byteText, hexDigit?_toUpper_digitChar, hhigh, hlow, Nat.div_add_mod]
  intro rest
  rw [byteText] at hnumber ⊢
  simp [byte, hnumber]

theorem takes_bytes (bytes : List UInt8) :
    Takes (separatedUpTo byte ", ".toList ']')
      (", ".toList.intercalate (bytes.map byteText) ++ [']']) bytes := by
  have hdigit : ∀ d, (Nat.digitChar d).toUpper ≠ ']' :=
    digitChar_induction (P := fun c => c.toUpper ≠ ']') (by decide) (by decide)
  refine takes_separatedUpTo takes_byte ⟨',', _, rfl, by decide⟩ ?_ bytes
  intro b
  exact ⟨_, _, rfl, hdigit _⟩

theorem takes_letter (c : Char) : Takes letter (quoteChar c).toList c := by
  rw [quoteChar, String.toList_ofList]
  exact (takes_quoted (.inr rfl) isUnprintable [c]).filterMap rfl

/-! ### Lines of errors -/

theorem toList_bytesText (bytes : List UInt8) : (bytesText bytes).toList =
    ['['] ++ (", ".toList.intercalate (bytes.map byteText) ++ [']']) := by
  have hbytes : (bytes.map fun b => String.ofList (byteText b)).map String.toList =
      bytes.map byteText := by
    rw [List.map_map]
    exact List.map_congr_left fun b _ => String.toList_ofList
  rw [bytesText, String.toList_append, String.toList_append, String.toList_intercalate, hbytes,
    List.append_assoc]
  rfl

/-- A message is read for the detail of its cause, by the kind of the cause. -/
theorem whole_message (c : Cause) :
    whole? (Detail.reader c.kind) c.message.toList = some c.detail := by
  rcases c with (f | bytes) | c
  · have htext : (Cause.unreadable (.fault f)).message.toList =
        "failed to read character: ".toList ++ f.message.toList := String.toList_append
    -- The words of a fault may be any text, so they are taken to the end of the line.
    rw [htext, Cause.kind, Detail.reader, (takes_word _).whole_bind, whole?_remainder,
      String.ofList_toList, Cause.detail]
  · have htext : (Cause.unreadable (.malformed bytes)).message.toList =
        "invalid UTF-8 sequence ".toList ++ (bytesText bytes).toList := String.toList_append
    rw [htext, toList_bytesText]
    exact ((takes_word _).bind ((takes_exactly _).bind
      ((takes_bytes bytes).map Detail.malformed))).whole
  · have htext : (Cause.unknownRadix c).message.toList =
        "unrecognized integer prefix ".toList ++ (quoteChar c).toList := String.toList_append
    rw [htext]
    exact ((takes_word _).bind ((takes_letter c).map Detail.unknownRadix)).whole

theorem takes_placed (p : Position) :
    Takes placed ("at ".toList ++ (p.toString.toList ++ [':'] ++ [' '])) p := by
  have hcolon : ∀ d, Nat.digitChar d ≠ ':' := digitChar_ne (by decide) (by decide)
  have hposition := (p.takes_toString hcolon).bind (f := fun q => do exactly ' '; return q)
    ((takes_exactly ' ').map fun _ => p)
  exact (takes_word "at ".toList).bind hposition

theorem takes_head (e : ScanError) :
    Takes head (e.kind ++ " at " ++ e.position.toString ++ ": ").toList (e.kind, e.position) := by
  have hspace : ' ' ∉ e.kind.toList := by
    unfold kind Cause.kind
    split <;> decide
  have htext : (e.kind ++ " at " ++ e.position.toString ++ ": ").toList = e.kind.toList ++ [' '] ++
      ("at ".toList ++ (e.position.toString.toList ++ [':'] ++ [' '])) := by
    simp
  have hall : Takes head _ _ := (takes_upTo hspace).bind
    (f := fun kind => do return (String.ofList kind, ← placed))
    ((takes_placed e.position).map (String.ofList e.kind.toList, ·))
  rwa [← htext, String.ofList_toList] at hall

/-- The line of an error is read back for the detail and the position. -/
theorem readLine?_toString (e : ScanError) :
    readLine? e.toString = some (e.cause.detail, e.position) := by
  have hhead := e.takes_head e.message.toList
  have hmessage : whole? (Detail.reader e.kind) e.message.toList = some e.cause.detail :=
    whole_message e.cause
  rw [← String.toList_append, ← e.toString_eq] at hhead
  rw [readLine?, hhead, Option.bind_some]
  simp only [hmessage, Option.map_some]

/-- The detail of a cause is all that its kind and its message depend on. -/
theorem Cause.same_text {c c' : Cause} (h : c.detail = c'.detail) :
    c.kind = c'.kind ∧ c.message = c'.message := by
  rcases c with (f | bytes) | letter <;> rcases c' with (f' | bytes') | letter'
  -- Causes with different constructors have different details.
  all_goals
    simp only [detail, reduceCtorEq, Detail.fault.injEq, Detail.malformed.injEq,
      Detail.unknownRadix.injEq] at h
  · exact ⟨rfl, congrArg ("failed to read character: " ++ ·) h⟩
  · exact ⟨rfl, congrArg (message ∘ .unreadable ∘ .malformed) h⟩
  · exact ⟨rfl, congrArg (message ∘ .unknownRadix) h⟩

/-- Errors are displayed the same exactly if they have the same detail and position. -/
theorem toString_eq_iff {e e' : ScanError} :
    e.toString = e'.toString ↔ e.cause.detail = e'.cause.detail ∧ e.position = e'.position := by
  constructor
  · intro h
    exact Prod.mk.inj (Dump.eq_of_read readLine?_toString h)
  · rintro ⟨hdetail, hposition⟩
    obtain ⟨hkind, hmessage⟩ := Cause.same_text hdetail
    rw [toString_eq, toString_eq, kind, kind, message, message, hkind, hmessage, hposition]

/-- **What a displayed error tells can be recovered.** The line of an error is its kind, its
line and column and its message, the JSON object of it has just these as its members, and the
line is read back for the position and the detail of the cause. So two errors of malformed bytes
are displayed the same exactly if the bytes are the same, however many there are, and two errors
of a letter after a zero exactly if the letters are the same, both in the same position. Of two
faults no more than the words have to agree. Errors of different kinds are never displayed the
same. -/
theorem error_recoverable :
    (∀ e : ScanError,
      e.toString = e.kind ++ " at " ++ Nat.repr e.position.line.toNat ++ ":"
        ++ Nat.repr e.position.column.toNat ++ ": " ++ e.message ∧
      Json.read? (Dump.error e) = some (.object [("type", .string "error"),
        ("kind", .string e.kind), ("message", .string e.message),
        ("location", .object [("line", .number e.position.line.toNat),
          ("column", .number e.position.column.toNat)])]) ∧
      readLine? e.toString = some (e.cause.detail, e.position)) ∧
    (∀ bytes bytes' p p', (ScanError.mk (.unreadable (.malformed bytes)) p).toString =
      (ScanError.mk (.unreadable (.malformed bytes')) p').toString ↔ bytes = bytes' ∧ p = p') ∧
    (∀ letter letter' p p', (ScanError.mk (.unknownRadix letter) p).toString =
      (ScanError.mk (.unknownRadix letter') p').toString ↔ letter = letter' ∧ p = p') ∧
    (∀ f f' p p', (ScanError.mk (.unreadable (.fault f)) p).toString =
      (ScanError.mk (.unreadable (.fault f')) p').toString ↔ f.message = f'.message ∧ p = p') ∧
    ∀ f bytes letter p q r, [(ScanError.mk (.unreadable (.fault f)) p).toString,
      (ScanError.mk (.unreadable (.malformed bytes)) q).toString,
      (ScanError.mk (.unknownRadix letter) r).toString].Nodup := by
  refine ⟨?_, ?_, ?_, ?_, ?_⟩
  · intro e
    refine ⟨?_, Dump.read?_record (.error e), readLine?_toString e⟩
    rw [toString_eq, Position.toString]
    simp only [String.append_assoc]
  · intro bytes bytes' p p'
    rw [toString_eq_iff]
    simp only [Cause.detail, Detail.malformed.injEq]
  · intro letter letter' p p'
    rw [toString_eq_iff]
    simp only [Cause.detail, Detail.unknownRadix.injEq]
  · intro f f' p p'
    rw [toString_eq_iff]
    simp only [Cause.detail, Detail.fault.injEq]
  · intro f bytes letter p q r
    simp [toString_eq_iff, Cause.detail]

end ScanError

end MonkeyTokens
