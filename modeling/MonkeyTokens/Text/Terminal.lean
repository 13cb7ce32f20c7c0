/-!
Text as a terminal shows it, without what only steers the terminal.

A control character steers a terminal alone or begins a sequence. An escape character
begins one, also in the middle of another, and the characters after it tell the form of
the sequence and where it ends. `Terminal.visible` drops the control characters and the
sequences, an unfinished one up to the end of the text.

Tab, line feed, form feed and carriage return are blanks and stay, except in the strings
that some sequences hold. In other sequences such a blank is an interruption: what
follows it stays too, up to the next control character, and then the sequence goes on. A
character beyond ASCII that stays puts an end to an interrupted sequence.
-/

namespace MonkeyTokens.Text.Terminal

/-! ### Sequences -/

/-- Where a text has come to. -/
inductive Mode where
  /-- Outside of every sequence. -/
  | ground
  /-- After an escape character. -/
  | escape
  /-- After an escape character and some intermediate characters. -/
  | escapeIntermediate
  /-- In a control sequence, which a final character ends. -/
  | control
  /-- At the head of a device control string. -/
  | device
  /-- In the parameters at the head of a device control string. -/
  | deviceParameter
  /-- After the parameters at the head of a device control string. -/
  | deviceIntermediate
  /-- In a string, which the byte `9C` ends, also as a part of a character. -/
  | string
  /-- In a command to the operating system, which a bell ends. -/
  | command
deriving DecidableEq, Repr

/-- Whether `c` may stand between the beginning and the end of a sequence of any form. -/
def isIntermediate (c : Char) : Bool := ' ' ≤ c && c ≤ '/'

/-- Whether `c` is a parameter that belongs to every device. -/
def isParameter (c : Char) : Bool := '0' ≤ c && c ≤ ';'

/-- Whether `c` is a parameter that belongs to the devices of one maker. -/
def isPrivate (c : Char) : Bool := '<' ≤ c && c ≤ '?'

/-- Whether `c` ends a control sequence. -/
def isFinal (c : Char) : Bool := '@' ≤ c && c ≤ '~'

/-- Whether the byte `9C` is a part of `c` in UTF-8. -/
def holdsTerminator (c : Char) : Bool := (String.utf8EncodeChar c).contains 0x9C

/-- Where a text has come to after `c`. Cancel and substitute end every sequence, and what
has no meaning in a sequence leaves it as it is. -/
def Mode.next (mode : Mode) (c : Char) : Mode :=
  if c = '\x1b' then .escape
  else if c = '\x18' ∨ c = '\x1a' then .ground
  else
    match mode with
    | .ground => .ground
    | .escape =>
      if c = '[' then .control
      else if c = ']' then .command
      else if c = 'P' then .device
      else if c = 'X' ∨ c = '^' ∨ c = '_' then .string
      else if isIntermediate c then .escapeIntermediate
      else if isParameter c || isPrivate c || isFinal c then .ground
      else .escape
    | .escapeIntermediate =>
      if isParameter c || isPrivate c || isFinal c then .ground else .escapeIntermediate
    | .control => if isFinal c then .ground else .control
    | .device =>
      if isFinal c then .string
      else if isIntermediate c then .deviceIntermediate
      else if isParameter c || isPrivate c then .deviceParameter
      else .device
    | .deviceParameter =>
      if isFinal c || isPrivate c then .string
      else if isIntermediate c then .deviceIntermediate
      else .deviceParameter
    | .deviceIntermediate =>
      if isFinal c || isParameter c || isPrivate c then .string else .deviceIntermediate
    | .string => if 0x80 ≤ c.toNat && holdsTerminator c then .ground else .string
    | .command => if c = '\x07' then .ground else .command

/-! ### What stays -/

/-- Whether `c` is a control character that stays as a blank. -/
def isBlankControl (c : Char) : Bool := c == '\t' || c == '\n' || c == '\x0c' || c == '\r'

/-- Whether `c` stays. -/
def Mode.keeps (mode : Mode) (c : Char) : Bool :=
  match mode with
  | .ground => isBlankControl c || (' ' ≤ c && c != '\x7f')
  | .escape | .escapeIntermediate | .control => isBlankControl c
  | _ => false

/-- Where a text has come to, and whether the sequence there is interrupted. -/
structure State where
  mode : Mode := .ground
  interrupted : Bool := false
deriving DecidableEq, Repr, Inhabited

namespace State

/-- Whether `c` stays. -/
def keeps (s : State) (c : Char) : Bool :=
  if s.interrupted then Mode.ground.keeps c else s.mode.keeps c

/-- The state after `c`. -/
def next (s : State) (c : Char) : State :=
  if s.keeps c then if c.toNat < 0x80 then { s with interrupted := true } else {}
  else { mode := s.mode.next c }

/-- The characters that stay. -/
def kept : State → List Char → List Char
  | _, [] => []
  | s, c :: cs => if s.keeps c then c :: (s.next c).kept cs else (s.next c).kept cs

end State

/-- The part of a text that is shown. -/
def visible (text : String) : String := String.ofList (({} : State).kept text.toList)

end MonkeyTokens.Text.Terminal
