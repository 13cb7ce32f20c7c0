import MonkeyTokens.Proofs.CommandLine.Selection
import MonkeyTokens.Proofs.Log.Settings

/-!
What a run logs.

The log of a scan is an account of it: that it begins, each token that it returns, and the
error that it ends in, in this order and with nothing else. A run shows of this account what
its setting admits, and the account and the setting have no part in the result of the run and
its exit code. The main statement is `logging_mirrors_scan`.
-/

namespace MonkeyTokens

open Dump (Format)
open Scanner (eventOf eventsOf tokensOf errorOf? Finishes itemsFor)

namespace Log

/-! ### Accounts -/

/-- A line of a log, with its level. -/
structure Entry where
  level : Level
  line : String
deriving DecidableEq, Repr

namespace Entry

/-- The entry of an event. -/
def ofEvent (e : Event) : Entry := ⟨e.level, e.line⟩

/-- That a scan begins. -/
def beginning : Entry := ⟨.trace, "TRACE monkey_lang::lexer: priming scanner"⟩

/-- That a token is returned. -/
def ofToken (t : Token) : Entry :=
  ⟨.trace, "TRACE monkey_lang::lexer: token kind=" ++ t.kind.name ++ " literal=" ++ t.literal
    ++ " span=" ++ t.span.toString⟩

/-- That a scan ends in an error: of what could not be read, the kind and the message of the
error, and of a letter that names no radix, this letter. -/
def ofError (e : ScanError) : Entry :=
  ⟨.debug, match e.cause with
    | .unreadable _ => "DEBUG monkey_lang::lexer: lexer error: " ++ e.message ++ " kind=\""
        ++ e.kind ++ "\" position=" ++ e.position.toString
    | .unknownRadix letter =>
      "DEBUG monkey_lang::lexer: lexer error: unrecognized integer prefix prefix="
        ++ letter.toString ++ " position=" ++ e.position.toString⟩

/-- Where the words of an event begin with `lead`, its line begins with its severity, its origin
and these words, and goes on like its words. -/
theorem line_eq {e : Event} {opening : String} (level : Level) (lead : String)
    (parts : List String) (hlevel : e.level = level) (htext : e.text = parts.foldl (· ++ ·) lead)
    (hopening : opening = level.name ++ " " ++ Event.target ++ ": " ++ lead) :
    e.line = parts.foldl (· ++ ·) opening := by
  rw [hopening, List.foldl_assoc, ← htext, ← hlevel]
  rfl

theorem ofEvent_priming : ofEvent .priming = beginning := by decide +kernel

theorem ofEvent_token (t : Token) : ofEvent (.token t) = ofToken t :=
  congrArg (mk .trace) <| line_eq .trace "token kind="
    [t.kind.name, " literal=", t.literal, " span=", t.span.toString] rfl rfl (by decide +kernel)

theorem ofEvent_failure (e : ScanError) : ofEvent (.failure e) = ofError e := by
  obtain ⟨cause, p⟩ := e
  cases cause with
  | unreadable error =>
    let e : ScanError := ⟨.unreadable error, p⟩
    exact congrArg (mk .debug) <| line_eq .debug "lexer error: "
      [e.message, " kind=\"", e.kind, "\" position=", p.toString] rfl rfl (by decide +kernel)
  | unknownRadix letter =>
    exact congrArg (mk .debug) <| line_eq .debug
      "lexer error: unrecognized integer prefix prefix="
      [letter.toString, " position=", p.toString] rfl rfl (by decide +kernel)

end Entry

/-- What is logged of a scan that returns these tokens and ends in this error, if in any. -/
def account (ts : List Token) (failure : Option ScanError) : List Entry :=
  .beginning :: ts.map .ofToken ++ failure.toList.map .ofError

theorem account_eq (ts : List Token) (failure : Option ScanError) :
    (eventsOf (itemsFor ts failure)).map Entry.ofEvent = account ts failure := by
  have htokens : (Entry.ofEvent ∘ eventOf) ∘ .ok = Entry.ofToken := funext Entry.ofEvent_token
  have herror : (Entry.ofEvent ∘ eventOf) ∘ .error = Entry.ofError := funext Entry.ofEvent_failure
  rw [eventsOf, itemsFor, List.map_cons, List.map_append, List.map_append, List.map_map,
    List.map_map, List.map_map, List.map_map, htokens, herror, Entry.ofEvent_priming]
  rfl

/-- The log of a whole scan is an account of its tokens and its error. -/
theorem log_eq_account (source : ByteStream) :
    let scanner := Scanner.ofStream source
    scanner.rest.2.log.toList.map Entry.ofEvent =
      account (tokensOf scanner.items) (errorOf? scanner.items) := by
  intro scanner
  rw [Scanner.log_ofStream, (Scanner.items_eq_result source).2, account_eq]
  simp

/-- The lines of an account whose levels a setting admits. -/
def Setting.lines (w : Setting) (entries : List Entry) : List String :=
  (entries.filter (w.admits ·.level)).map Entry.line

theorem Filter.lines_eq {f : Filter} {w : Setting} (h : ∀ e, f.shows e = w.admits e.level)
    (log : List Event) : f.lines log = w.lines (log.map Entry.ofEvent) := by
  have hshows : f.shows = (w.admits ·.level) ∘ Entry.ofEvent := funext h
  rw [lines, Setting.lines, List.filter_map, List.map_map, hshows]
  rfl

end Log

namespace CommandLine

open Log (Setting)

/-! ### Runs that log -/

/-- The setting that applies to a request, where the surroundings give another. -/
def Request.setting (r : Request) (given : Setting) : Setting :=
  if r.verbose then .ofLevel (some .debug) else given

theorem Request.logFilter_of_setting (r : Request) {s : Surroundings} {w : Setting}
    (h : s.logFilter = w.text) : r.logFilter s = some (r.setting w).filter := by
  cases hverbose : r.verbose with
  | true =>
    rw [logFilter, setting, hverbose, if_pos rfl, if_pos rfl]
    rfl
  | false =>
    rw [logFilter, setting, hverbose, if_neg Bool.false_ne_true, if_neg Bool.false_ne_true, h]
    exact w.ofText?_text

/-- Which filter applies to the log has no part in which source a request comes to scan, and in
which format. -/
theorem Request.Scans.relogged {r : Request} {s : Surroundings} {f : Format}
    {filter filter' : Log.Filter} {source : ByteStream} {verbose : Bool}
    {logFilter : Option String} (h : r.Scans s f filter source)
    (hfilter : { r with verbose := verbose }.logFilter { s with logFilter := logFilter } =
      some filter') :
    { r with verbose := verbose }.Scans { s with logFilter := logFilter } f filter' source := by
  obtain ⟨hbegins, hasks, hselects⟩ := h
  refine ⟨⟨hbegins.help, hbegins.version, hfilter⟩, hasks.congr rfl, ?_⟩
  cases hselects with
  | eval heval => exact .eval heval
  | file heval hfile hopen => exact .file heval hfile hopen
  | standardInput heval hfile hinput => exact .standardInput heval hfile hinput

section

variable {arguments arguments' : List String} {r : Request} {s : Surroundings} {f : Format}
  {filter filter' : Log.Filter} {source : ByteStream}

/-- The outcome of a run that scans, by the tokens and the error of its source. -/
theorem run_of_scans (hr : Request.ofArguments arguments = .ok r)
    (hscans : r.Scans s f filter source) :
    let items := (Scanner.ofStream source).items
    let failure := errorOf? items
    run arguments s =
      ⟨exitCode failure, Dump.lines (f.standardLines (tokensOf items) failure),
        Dump.lines (filter.lines (eventsOf items)) ++ Dump.lines (f.diagnosticLines failure)⟩ := by
  intro items failure
  rw [run_of_ofArguments hr s, perform_of_leadsTo (.scan hscans), scan_eq]

/-- Runs that differ in nothing but the filters that apply to their logs have the same exit code
and the same result. -/
theorem run_relogged {verbose : Bool} {logFilter : Option String}
    (hr : Request.ofArguments arguments = .ok r) (hscans : r.Scans s f filter source)
    (hr' : Request.ofArguments arguments' = .ok { r with verbose := verbose })
    (hfilter : { r with verbose := verbose }.logFilter { s with logFilter := logFilter } =
      some filter') :
    let o := run arguments' { s with logFilter := logFilter }
    o.code = (run arguments s).code ∧ o.standard = (run arguments s).standard := by
  intro o
  have ho : o = _ := run_of_scans hr' (hscans.relogged hfilter)
  rw [ho, run_of_scans hr hscans]
  exact ⟨rfl, rfl⟩

/-- **The log mirrors the scan and does not disturb it.** What is logged of a scan is that it
begins, each token that it returns with the end of the text among them, and, if it ends in an
error, this error behind all tokens. The result of a run and its exit code are given by the
tokens and the error, so they are the same for all requests and surroundings that differ in
nothing but the log: for every setting, and for every other text that is read as a filter or
refused. The diagnostic output holds the lines of the account that the setting admits, and in
the line format the displayed error behind them. A verbose run does not depend on what the
surroundings ask for. -/
theorem logging_mirrors_scan (hr : Request.ofArguments arguments = .ok r)
    (hscans : r.Scans s f filter source) :
    let scanner := Scanner.ofStream source
    let ts := tokensOf scanner.items
    let failure := errorOf? scanner.items
    Finishes ts failure ∧
      scanner.rest.2.log.toList.map Log.Entry.ofEvent = Log.account ts failure ∧
      (run arguments s).code = (if failure.isSome then 2 else 0) ∧
      (run arguments s).standard = Dump.lines (f.standardLines ts failure) ∧
      (∀ arguments' verbose logFilter,
        Request.ofArguments arguments' = .ok { r with verbose := verbose } →
        (∃ w : Setting, logFilter = w.text) ∨
          (∀ text, logFilter = some text → Log.Answers (Log.Filter.parse text)) →
        let o := run arguments' { s with logFilter := logFilter }
        o.code = (run arguments s).code ∧ o.standard = (run arguments s).standard) ∧
      (∀ w : Setting, s.logFilter = w.text → (run arguments s).diagnostic =
        Dump.lines ((r.setting w).lines (Log.account ts failure)) ++
          Dump.lines (if f = .text then failure.toList.map ScanError.toString else [])) ∧
      (r.verbose = true → ∀ logFilter,
        run arguments { s with logFilter := logFilter } = run arguments s) := by
  intro scanner ts failure
  have haccount := Log.log_eq_account source
  have hrun := run_of_scans hr hscans
  refine ⟨(Scanner.items_eq_result source).1, haccount, ?_, ?_, ?_, ?_, ?_⟩
  · rw [hrun]
    rfl
  · rw [hrun]
  · intro arguments' verbose logFilter hr' hfilter
    rcases hfilter with ⟨w, hw⟩ | hanswers
    · exact run_relogged hr hscans hr' (Request.logFilter_of_setting _ hw)
    · obtain ⟨filter', hfilter'⟩ := { r with verbose := verbose }.exists_logFilter
        (s := { s with logFilter := logFilter }) hanswers
      exact run_relogged hr hscans hr' hfilter'
  · intro w hw
    have hdisplayed : f.diagnosticLines failure =
        if f = .text then failure.toList.map ScanError.toString else [] := by
      cases f <;> rfl
    have hfilter : filter = (r.setting w).filter :=
      Option.some.inj (hscans.begins.filter.symm.trans (r.logFilter_of_setting hw))
    rw [hrun, ← hdisplayed, ← haccount, Scanner.log_ofStream, hfilter,
      Log.Filter.lines_eq (r.setting w).shows_filter]
  · intro hverbose logFilter
    have hfilter : r.logFilter { s with logFilter := logFilter } = some filter := by
      rw [← hscans.begins.filter, Request.logFilter, Request.logFilter, hverbose, if_pos rfl,
        if_pos rfl]
    rw [run_of_scans hr (hscans.relogged hfilter), hrun]

end

/-- A mark and a zero with a letter behind it, logged as a whole by the name of the program's
outermost module. -/
theorem logging_mirrors_scan_letter :
    let r : Request := ⟨some "=0q", none, none, false, false, false⟩
    let path : Log.ModulePath := ⟨"monkey_lang", by decide, by decide⟩
    let w : Setting := .ofModule path (some .trace)
    let s : Surroundings :=
      ⟨.terminal, fun _ => .error (.ofKind .notFound), some "monkey_lang=trace"⟩
    let source : ByteStream := [.bytes (Utf8.encode "=0q".toList)]
    Request.ofArguments ["-e", "=0q"] = .ok r ∧ r.Scans s .text w.filter source ∧
      s.logFilter = w.text ∧
      (run ["-e", "=0q"] s).diagnostic = Dump.lines [
        "TRACE monkey_lang::lexer: priming scanner",
        "TRACE monkey_lang::lexer: token kind=ASSIGN literal== span=1:1-1:1",
        "DEBUG monkey_lang::lexer: lexer error: unrecognized integer prefix prefix=q position=1:3",
        "LexError at 1:3: unrecognized integer prefix 'q'"] := by
  intro r path w s source
  have hr : Request.ofArguments ["-e", "=0q"] = .ok r := by decide +kernel
  have hw : s.logFilter = w.text := by decide +kernel
  have hscans : r.Scans s .text w.filter source :=
    ⟨⟨rfl, rfl, r.logFilter_of_setting hw⟩, .unnamed rfl, .eval rfl⟩
  have hitems : (Scanner.ofStream source).items =
      [.ok (.ofChar (.mark .assign) '=' ⟨1, 1⟩), .error ⟨.unknownRadix 'q', ⟨1, 3⟩⟩] := by
    decide +kernel
  obtain ⟨-, -, -, -, -, hdiagnostic, -⟩ := logging_mirrors_scan hr hscans
  refine ⟨hr, hscans, hw, ?_⟩
  rw [hdiagnostic w hw, hitems]
  decide +kernel

end CommandLine

end MonkeyTokens
