import MonkeyTokens.CommandLine.Arguments
import MonkeyTokens.Dump
import MonkeyTokens.Log.Filter

/-!
What a run of the program comes to.

A run reads its arguments, then looks for a request for help or for the version,
then reads the log filter of its environment, then looks for the format, then for the
source, and only then scans. Each of these can end it: a usage error with code 2, help and
version with code 0, a filter whose reading breaks down with code 101, an unknown format
and a source that is not there with code 1. A scan ends the run with code 0 or, if it
ends in an error, 2. `run` gives the exit code and the text of both outputs as a
function of the arguments and of what surrounds the run.

Both outputs are taken to accept all that is written. A run whose standard output fails
is not described, nor is what a breakdown itself reports.
-/

namespace MonkeyTokens.CommandLine

/-- The standard input of a run. -/
inductive StandardInput where
  /-- A terminal, from which no source is read. -/
  | terminal
  /-- Anything else, by what it delivers. -/
  | stream (stream : ByteStream)
deriving DecidableEq, Repr

instance : Coe ByteStream StandardInput := ⟨.stream⟩

/-- What surrounds a run. -/
structure Surroundings where
  standardInput : StandardInput
  /-- What opening the file of a name gives. -/
  openFile : String → Except Fault ByteStream
  /-- The log filter that the environment asks for. -/
  logFilter : Option String

/-- The version of the program. -/
def version : String := "0.1.0"

/-- The answer to a request for help. -/
def helpText : String :=
  Dump.lines [
    "monkey CLI " ++ version,
    "",
    "USAGE:",
    "    monkey-cli <FILE>               Tokenize a file",
    "    monkey-cli -e <CODE>            Tokenize inline source",
    "    monkey-cli -o <FORMAT>          Output format (text, json, jsonl)",
    "    monkey-cli -h                   Show this help",
    "    cat file | monkey-cli           Read from stdin",
    "",
    "OPTIONS:",
    "    -e, --eval <CODE>       Tokenize inline source",
    "    -o, --output <FORMAT>   Output format: text (default), json, jsonl",
    "    -d, --verbose           Log scanner diagnostics to stderr",
    "    -h, --help              Show this help message",
    "    -v, --version           Display version information",
    "",
    "ENVIRONMENT:",
    "    MONKEY_LOG              Log filter, e.g. monkey_lang=trace"]

/-- The answer to a request for the version. -/
def versionText : String := "monkey " ++ version ++ "\n"

/-- Why a run ends before it scans. -/
inductive Refusal where
  | unknownFormat (name : String)
  | unreadableFile (name : String) (f : Fault)
  | noInput
deriving DecidableEq, Repr

/-- The refusal in words. -/
def Refusal.message : Refusal → String
  | .unknownFormat name =>
    "Invalid output format: '" ++ name ++ "'. Use: text, json, jsonl"
  | .unreadableFile name f =>
    "Error reading file " ++ Text.quoteString name ++ ": " ++ f.message
  | .noInput =>
    "No input provided. Use: monkey-cli <FILE>, monkey-cli -e <CODE>, or pipe to stdin"

namespace Request

/-- The format that is asked for, text if none is. -/
def format (r : Request) : Except Refusal Dump.Format :=
  match r.output with
  | none => .ok .text
  | some name =>
    match Dump.Format.ofName? name with
    | some f => .ok f
    | none => .error (.unknownFormat name)

/-- The source that is asked for: inline code before a file, and a file before the
standard input, unless that is a terminal. -/
def source (r : Request) (s : Surroundings) : Except Refusal ByteStream :=
  match r.eval, r.file with
  | some code, _ => .ok [.bytes (Utf8.encode code.toList)]
  | none, some name =>
    match s.openFile name with
    | .ok stream => .ok stream
    | .error f => .error (.unreadableFile name f)
  | none, none =>
    match s.standardInput with
    | .stream stream => .ok stream
    | .terminal => .error .noInput

/-- What a request needs from outside. -/
inductive Need where
  | nothing
  | standardInput
  | file (name : String)
deriving DecidableEq, Repr

/-- What a request reads, which is nothing where it ends before it opens a source. -/
def need (r : Request) : Need :=
  if r.help || r.version || !r.format.toBool then .nothing
  else
    match r.eval, r.file with
    | some _, _ => .nothing
    | none, some name => .file name
    | none, none => .standardInput

/-- The log filter that applies, unless the reading of it breaks down: a verbose run has its
own, and a filter that is refused is as good as none. -/
def logFilter (r : Request) (s : Surroundings) : Option Log.Filter :=
  if r.verbose then some .verbose else Log.Filter.ofText? s.logFilter

end Request

/-- Scans a source and writes the result in a format, with the events of the log that
the filter shows before what the format itself reports. -/
def scan (format : Dump.Format) (filter : Log.Filter) (source : ByteStream) : Outcome :=
  match (Scanner.ofStream source).rest with
  | (items, final) =>
    let written := format.write items
    { written with
      diagnostic := Dump.lines (filter.lines final.log.toList) ++ written.diagnostic }

/-- The outcome of a run that breaks down before it has written anything. What is reported of
the breakdown is left out. -/
def breakdown : Outcome := ⟨101, "", ""⟩

/-- Carries out a request. -/
def perform (r : Request) (s : Surroundings) : Outcome :=
  if r.help then ⟨0, helpText, ""⟩
  else if r.version then ⟨0, versionText, ""⟩
  else
    match r.logFilter s with
    | none => breakdown
    | some filter =>
      match (do return (← r.format, ← r.source s) : Except Refusal _) with
      | .error refusal => ⟨1, "", refusal.message ++ "\n"⟩
      | .ok (format, source) => scan format filter source

/-- The whole run of the program. Of the report of a usage error there is only the beginning,
and so no line feed behind it. -/
def run (arguments : List String) (s : Surroundings) : Outcome :=
  match Request.ofArguments arguments with
  | .error e => ⟨2, "", e.message⟩
  | .ok r => perform r s

end MonkeyTokens.CommandLine
