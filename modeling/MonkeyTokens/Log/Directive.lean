import MonkeyTokens.Log.Event
import MonkeyTokens.Log.Value
import MonkeyTokens.Text.Alphanumeric
import MonkeyTokens.Text.Blank

/-!
Directives for a log.

A directive has the form `target[span{field=value}]=level`, of which every part may be
missing. It speaks about the events whose target begins with its target, that hold its
field, and that lie in a span of that name or in a span whose field has that value. A
scan opens no span, so the directives with a span or a value are read, but speak about
none of its events. A directive without a level admits every level.

A level is written by its name in any case, or as its rank in digits; rank zero, `off`,
admits nothing. A directive that is nothing but a word is a level if it can be.

The places of its parts are counted in bytes from the first character that is not blank,
but looked up in the whole text. Blanks in front of a directive thus move all its parts to
the left. A part that would then begin or end inside a character is no text, and where one
is asked for, the reading breaks down: it neither gives a directive nor refuses the text.
-/

namespace MonkeyTokens.Log

/-- Why the reading of a text gives nothing. -/
inductive Defect where
  /-- The text is refused. -/
  | unreadable
  /-- The reading breaks down. -/
  | breakdown
deriving DecidableEq, Repr

/-- A part of a filter: it admits the events that it speaks about up to a rank. -/
structure Directive where
  /-- What the target of an event has to begin with. -/
  target : String := ""
  /-- The span that an event has to lie in. -/
  span : Option String := none
  /-- What an event has to hold. -/
  field : Option String := none
  /-- The value that the field of a span has to have. -/
  value : Option String := none
  /-- The greatest rank that is admitted, zero for none. -/
  limit : Nat := Level.trace.rank
deriving DecidableEq, Repr

namespace Directive

/-- The number that a word of digits stands for, with or without a plus sign. -/
def numberOf? (word : String) : Option Nat :=
  match word.toList with
  | '+' :: cs | cs =>
    if cs.all Char.isDigit && !cs.isEmpty then some (Nat.ofDigitChars 10 cs 0) else none

/-- The rank that a level is written for. -/
def limitOf? (word : String) : Option Nat :=
  match word.toLower with
  | "off" => some 0
  | "error" => some Level.error.rank
  | "warn" => some Level.warn.rank
  | "info" => some Level.info.rank
  | "debug" => some Level.debug.rank
  | "trace" => some Level.trace.rank
  | _ => (numberOf? word).filter (· ≤ Level.trace.rank)

/-- Whether a directive with a target may begin with `c`. -/
def isInitial (c : Char) : Bool := Text.isAlphanumeric c || c == '_' || c == '-' || c == ':'

/-- How many bytes some characters take. -/
def size : List Char → Nat
  | [] => 0
  | c :: cs => c.utf8Size + size cs

/-- Cuts some characters behind a number of bytes. -/
def cut : Nat → List Char → Except Defect (List Char × List Char)
  | 0, cs => .ok ([], cs)
  | _ + 1, [] => .error .breakdown
  | n + 1, c :: cs =>
    if c.utf8Size ≤ n + 1 then do
      let (front, back) ← cut (n + 1 - c.utf8Size) cs
      return (c :: front, back)
    else .error .breakdown

/-- The place where `rest` begins, which is an end of the text. Blanks in front of the text do
not count. -/
def place (text rest : List Char) : Nat := size (text.dropWhile Text.isBlank) - size rest

/-- The text from where `rest` begins. -/
def partFrom (text rest : List Char) : Except Defect String := do
  let (_, part) ← cut (place text rest) text
  return String.ofList part

/-- The part of the text from where `rest` begins to where `after` begins. -/
def part (text rest after : List Char) : Except Defect String := do
  let (_, back) ← cut (place text rest) text
  let (part, _) ← cut (place text after - place text rest) back
  return String.ofList part

/-- Reads what follows an equals sign: a level, or nothing for every level. -/
def withLevel (d : Directive) (text rest : List Char) : Except Defect Directive := do
  let word ← partFrom text rest
  if word = "" then return d
  else
    match limitOf? word with
    | some limit => return { d with limit := limit }
    | none => throw .unreadable

/-- Reads what is written between braces: a field, and perhaps a value after an equals
sign. Whatever follows a second equals sign is passed over. -/
def withField (d : Directive) (text : String) : Except Defect Directive :=
  match text.splitOn "=" with
  | name :: value :: _ =>
    if Value.isReadable value then .ok { d with field := some name, value := some value }
    else .error .unreadable
  | _ => if text = "" then .error .unreadable else .ok { d with field := some text }

/-- Reads what follows a closing bracket. -/
def afterSpan (d : Directive) (text : List Char) : List Char → Except Defect Directive
  | '=' :: rest => d.withLevel text rest
  | rest => if rest.all Text.isBlank then .ok d else .error .unreadable

/-- Reads what follows the brace that opens a field, in a span of the given name. -/
def afterBrace (d : Directive) (text : List Char) (name : String) (inner : List Char) :
    Except Defect Directive :=
  match inner.dropWhile (· != '\x7d') with
  | [] => .error .unreadable
  | brace :: rest => do
    let d ← d.withField (← part text inner (brace :: rest))
    match rest with
    | ']' :: rest => afterSpan { d with span := if name = "" then none else some name } text rest
    | _ => throw .unreadable

/-- Reads what follows an opening bracket. -/
def withSpan (d : Directive) (text cs : List Char) : Except Defect Directive :=
  match cs.dropWhile fun c => c != ']' && c != '\x7b' with
  | [] => .error .unreadable
  | mark :: rest => do
    let name ← part text cs (mark :: rest)
    if mark = ']' then afterSpan { d with span := some name } text rest
    else d.afterBrace text name rest

/-- Reads what follows the target, which `cs` begins with. -/
def afterTarget (text cs : List Char) : List Char → Except Defect Directive
  | [] =>
    match limitOf? (String.ofList text) with
    | some limit => .ok { limit := limit }
    | none => .ok { target := String.ofList text }
  | mark :: rest => do
    let target ← part text cs (mark :: rest)
    if mark = '=' then withLevel { target := target } text rest
    else withSpan { target := target } text rest

/-- Reads a directive. -/
def parse (text : String) : Except Defect Directive :=
  let text := text.toList
  match text.dropWhile Text.isBlank with
  | [] => .error .unreadable
  | '[' :: rest => withSpan {} text rest
  | c :: cs =>
    if isInitial c then
      afterTarget text (c :: cs) ((c :: cs).dropWhile fun c => c != '=' && c != '[')
    else .error .unreadable

/-- Whether the directive speaks about an event. -/
def fits (d : Directive) (e : Event) : Bool :=
  d.target.toList.isPrefixOf Event.target.toList && d.field.all e.fields.contains
    && d.span.isNone && d.value.isNone

/-- Compares how closely directives speak about an event that both speak about. -/
def closeness (a b : Directive) : Ordering :=
  (compare a.target.length b.target.length).then
    (compare (a.field.getD "") (b.field.getD ""))

end Directive

end MonkeyTokens.Log
