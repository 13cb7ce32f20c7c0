import MonkeyTokens.CommandLine.Outcome

/-!
The program.

All that a run comes to is decided by `CommandLine.run`. This module reads the source
that the request needs, and no other, and writes the outcome. A source is read as a whole
before the scan begins; what it delivered before a fault is kept.
-/

namespace MonkeyTokens

/-- The number of an error of the system and its wording. -/
def systemError? : IO.Error → Option (UInt32 × String)
  | .alreadyExists _ code text | .otherError code text | .resourceBusy code text
  | .resourceVanished code text | .unsupportedOperation code text | .hardwareFault code text
  | .unsatisfiedConstraints code text | .illegalOperation code text | .protocolError code text
  | .timeExpired code text | .interrupted _ code text | .noFileOrDirectory _ code text
  | .invalidArgument _ code text | .permissionDenied _ code text
  | .resourceExhausted _ code text | .inappropriateType _ code text
  | .noSuchThing _ code text => some (code, text)
  | .unexpectedEof | .userError _ => none

/-- The kind of fault that the number of an error of the system stands for. -/
def faultKind : UInt32 → Fault.Kind
  | 2 => .notFound
  | 4 => .interrupted
  | 11 => .wouldBlock
  | 20 => .notDirectory
  | 21 => .isDirectory
  | 32 => .brokenPipe
  | 36 => .nameTooLong
  | 110 => .timedOut
  | _ => .other

/-- The fault that an error stands for. One of the system keeps its wording and its number. -/
def faultOf (e : IO.Error) : Fault :=
  match systemError? e with
  | some (code, text) => ⟨faultKind code, text ++ " (os error " ++ toString code ++ ")"⟩
  | none => ⟨.other, toString e⟩

/-- Everything that is read after what was `taken`, up to the end or to the first fault that is
not retried. -/
partial def delivered (read : IO ByteArray) (taken : ByteArray) : IO ByteStream := do
  match ← read.toBaseIO with
  | .ok bytes =>
    if bytes.isEmpty then return [.bytes taken.toList] else delivered read (taken ++ bytes)
  | .error e =>
    let fault := faultOf e
    if fault.isRetried then delivered read taken
    else return [.bytes taken.toList, .fault fault 1]

/-- How many bytes are read at once. -/
def chunk : USize := 65536

/-- What opening the file of a name gives. -/
def opened (name : String) : IO (Except Fault ByteStream) := do
  try
    let file ← IO.FS.Handle.mk name .read
    return .ok (← delivered (file.read chunk) .empty)
  catch e =>
    return .error (faultOf e)

/-- The standard input of the program. A terminal is not read. -/
def standardInput : IO CommandLine.StandardInput := do
  let input ← IO.getStdin
  if ← input.isTty then return .terminal
  else return .stream (← delivered (input.read chunk) .empty)

/-- The surroundings of a run of these arguments, as far as the run needs them. -/
def surroundings (arguments : List String) : IO CommandLine.Surroundings := do
  let closed : CommandLine.Surroundings :=
    ⟨.stream [], fun _ => .error (.ofKind .notFound), ← IO.getEnv "MONKEY_LOG"⟩
  match CommandLine.Request.ofArguments arguments with
  | .error _ => return closed
  | .ok r =>
    match r.need with
    | .nothing => return closed
    | .standardInput => return { closed with standardInput := ← standardInput }
    | .file name =>
      let found ← opened name
      return { closed with openFile := fun _ => found }

end MonkeyTokens

/-- Runs the program. -/
def main (arguments : List String) : IO UInt32 := do
  let outcome := MonkeyTokens.CommandLine.run arguments (← MonkeyTokens.surroundings arguments)
  IO.print outcome.standard
  IO.eprint outcome.diagnostic
  return outcome.code.toUInt32
