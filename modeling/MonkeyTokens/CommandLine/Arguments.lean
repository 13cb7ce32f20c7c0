import MonkeyTokens.Text.Terminal

/-!
The arguments of the command line.

A `Request` is what the arguments ask for. `Request.ofArguments` reads them from left
to right. A flag stands alone; an option holds a value, which may follow its letter
or its name directly or be the next argument, provided that one is no option
itself; any other argument names the file to read, and there is at most one. After
a lone `--` every argument names a file. A lone hyphen is an ordinary value.

An option that still waits for its value, and a value that has just been given, are
settled when the next flag, option or file is met, or at the end. Only then is it
found that the value is missing, or that the option was settled before.
-/

namespace MonkeyTokens.CommandLine

/-! ### Requests -/

/-- An argument that stands alone. -/
inductive Flag where
  | verbose | help | version
deriving DecidableEq, Repr

/-- An argument that holds a value. -/
inductive Slot where
  | eval | output | file
deriving DecidableEq, Repr

/-- How a flag is shown in an error. -/
def Flag.usage : Flag → String
  | .verbose => "--verbose"
  | .help => "--help"
  | .version => "--version"

/-- How an argument that holds a value is shown in an error. -/
def Slot.usage : Slot → String
  | .eval => "--eval <EVAL>"
  | .output => "--output <FORMAT>"
  | .file => "[FILE]"

/-- What the arguments ask for. -/
structure Request where
  eval : Option String := none
  output : Option String := none
  file : Option String := none
  verbose : Bool := false
  help : Bool := false
  version : Bool := false
deriving DecidableEq, Repr, Inhabited

namespace Request

/-- The value that was given for a slot. -/
def value? (r : Request) : Slot → Option String
  | .eval => r.eval
  | .output => r.output
  | .file => r.file

/-- Gives a slot its value. -/
def fill (r : Request) (value : String) : Slot → Request
  | .eval => { r with eval := some value }
  | .output => { r with output := some value }
  | .file => { r with file := some value }

/-- Whether a flag is raised. -/
def raised (r : Request) : Flag → Bool
  | .verbose => r.verbose
  | .help => r.help
  | .version => r.version

/-- Raises a flag. -/
def raise (r : Request) : Flag → Request
  | .verbose => { r with verbose := true }
  | .help => { r with help := true }
  | .version => { r with version := true }

end Request

/-- Why arguments make no request. -/
inductive UsageError where
  /-- An option that does not exist, or a second file. -/
  | unexpectedArgument (argument : String)
  /-- A value for a flag. -/
  | unexpectedValue (value : String) (flag : Flag)
  | missingValue (slot : Slot)
  | repeatedFlag (flag : Flag)
  | repeatedSlot (slot : Slot)
deriving DecidableEq, Repr

/-- The first line of a text, without the line feed that ends it and a carriage return
in front of that. -/
def firstLine (text : String) : String :=
  let line := text.toList.takeWhile (· != '\n')
  if text.contains '\n' && line.getLast? == some '\r' then String.ofList line.dropLast
  else String.ofList line

/-- The error in words. Of what was given, only the part that a terminal shows is
repeated. -/
def UsageError.text : UsageError → String
  | .unexpectedArgument a =>
    "error: unexpected argument '" ++ Text.Terminal.visible a ++ "' found"
  | .unexpectedValue v f =>
    "error: unexpected value '" ++ Text.Terminal.visible v ++ "' for '" ++ f.usage
      ++ "' found; no more were expected"
  | .missingValue s => "error: a value is required for '" ++ s.usage ++ "' but none was supplied"
  | .repeatedFlag f => "error: the argument '" ++ f.usage ++ "' cannot be used multiple times"
  | .repeatedSlot s => "error: the argument '" ++ s.usage ++ "' cannot be used multiple times"

/-- The beginning of the report of an error: its first line, which ends early where what is
repeated has a line feed. The hints and the forms of a call that stand on the lines behind it
are left out. -/
def UsageError.message (e : UsageError) : String := firstLine e.text

/-! ### Words -/

/-- What an option names. -/
inductive Switch where
  | flag (f : Flag)
  | slot (s : Slot)
deriving DecidableEq, Repr

/-- What a letter after a hyphen names. -/
def Switch.ofLetter? : Char → Option Switch
  | 'e' => some (.slot .eval)
  | 'o' => some (.slot .output)
  | 'd' => some (.flag .verbose)
  | 'h' => some (.flag .help)
  | 'v' => some (.flag .version)
  | _ => none

/-- What a name after two hyphens names. -/
def Switch.ofName? : String → Option Switch
  | "eval" => some (.slot .eval)
  | "output" => some (.slot .output)
  | "verbose" => some (.flag .verbose)
  | "help" => some (.flag .help)
  | "version" => some (.flag .version)
  | _ => none

/-- An argument by its form. -/
inductive Word where
  /-- Two hyphens alone. -/
  | separator
  /-- A name after two hyphens, and what follows the first equals sign. -/
  | long (name : String) (value : Option String)
  /-- Letters after one hyphen. -/
  | letters (cs : List Char)
  | plain (text : String)
deriving DecidableEq, Repr

/-- The form of an argument. -/
def Word.ofString (text : String) : Word :=
  match text.toList with
  | ['-', '-'] => .separator
  | '-' :: '-' :: cs =>
    let name := String.ofList (cs.takeWhile (· != '='))
    match cs.dropWhile (· != '=') with
    | [] => .long name none
    | _ :: value => .long name (some (String.ofList value))
  | '-' :: c :: cs => .letters (c :: cs)
  | _ => .plain text

/-! ### Reading -/

/-- The state of reading: what has been settled, what has not, and whether a lone
`--` has been met. -/
structure Reading where
  request : Request := {}
  /-- The slot that is not settled yet, with its value if that is there. -/
  unsettled : Option (Slot × Option String) := none
  filesOnly : Bool := false
deriving DecidableEq, Repr, Inhabited

namespace Reading

/-- Settles what is not settled yet. The name of a file must not be empty. -/
def settle (r : Reading) : Except UsageError Reading :=
  match r.unsettled with
  | none => .ok r
  | some (slot, none) => .error (.missingValue slot)
  | some (slot, some value) =>
    if (r.request.value? slot).isSome then .error (.repeatedSlot slot)
    else if slot = .file ∧ value = "" then .error (.missingValue slot)
    else .ok { r with request := r.request.fill value slot, unsettled := none }

/-- Raises a flag. -/
def raise (f : Flag) (r : Reading) : Except UsageError Reading := do
  let r ← r.settle
  if r.request.raised f then .error (.repeatedFlag f)
  else return { r with request := r.request.raise f }

/-- Names a slot that waits for its value. -/
def await (slot : Slot) (r : Reading) : Except UsageError Reading := do
  return { ← r.settle with unsettled := some (slot, none) }

/-- Names a slot and gives its value along with it. -/
def assign (slot : Slot) (value : String) (r : Reading) : Except UsageError Reading := do
  settle { ← r.settle with unsettled := some (slot, some value) }

/-- Reads letters after one hyphen. A slot takes the letters that are left for its
value, without an equals sign in front. -/
def letters : List Char → Reading → Except UsageError Reading
  | [], r => .ok r
  | c :: cs, r =>
    match Switch.ofLetter? c with
    | none => .error (.unexpectedArgument ("-" ++ c.toString))
    | some (.flag f) => do letters cs (← r.raise f)
    | some (.slot slot) =>
      match cs with
      | [] => r.await slot
      | '=' :: value => r.assign slot (String.ofList value)
      | value => r.assign slot (String.ofList value)

/-- Reads a name after two hyphens. -/
def long (name : String) (value : Option String) (r : Reading) : Except UsageError Reading :=
  match Switch.ofName? name, value with
  | none, _ => .error (.unexpectedArgument ("--" ++ name))
  | some (.flag f), none => r.raise f
  | some (.flag f), some value => .error (.unexpectedValue value f)
  | some (.slot slot), none => r.await slot
  | some (.slot slot), some value => r.assign slot value

/-- Whether a file has been named. -/
def hasFile (r : Reading) : Bool :=
  r.request.file.isSome || r.unsettled.any (·.1 == .file)

/-- Reads the name of a file. -/
def file (text : String) (r : Reading) : Except UsageError Reading :=
  if r.hasFile then .error (.unexpectedArgument text)
  else do return { ← r.settle with unsettled := some (.file, some text) }

/-- Reads one argument. -/
def read (r : Reading) (text : String) : Except UsageError Reading :=
  if r.filesOnly then r.file text
  else
    match Word.ofString text with
    | .separator => .ok { r with filesOnly := true }
    | .long name value => r.long name value
    | .letters cs => letters cs r
    | .plain text =>
      match r.unsettled with
      | some (slot, none) => .ok { r with unsettled := some (slot, some text) }
      | _ => r.file text

end Reading

/-- What the arguments ask for. -/
def Request.ofArguments (arguments : List String) : Except UsageError Request := do
  let r ← arguments.foldlM Reading.read {}
  return (← r.settle).request

end MonkeyTokens.CommandLine
