import MonkeyTokens.Proofs.CommandLine.Requests

/-!
Runs in the three formats.

A run that scans shows the scan of its source, whichever format it writes: the same tokens
in the same order, the same error behind them, and the same exit code. `Shows` states what
such a run has written, and `formats_agree` that it has.
-/

namespace MonkeyTokens.CommandLine

open Dump (Format)
open Text (OneLine)

/-- The outcome of a run in a format that shows these tokens and this error, with the lines
of its log before what the format leaves to the diagnostic output. -/
structure Shows (f : Format) (ts : List Token) (failure : Option ScanError)
    (log : List String) (o : Outcome) : Prop where
  code : o.code = if failure.isSome then 2 else 0
  standard : Dump.HasLines o.standard (f.standardLines ts failure)
  diagnostic : o.diagnostic = Dump.lines log ++ Dump.lines (f.diagnosticLines failure)

theorem shows_scan (f : Format) (filter : Log.Filter) (source : ByteStream) :
    let items := (Scanner.ofStream source).items
    Shows f (Scanner.tokensOf items) (Scanner.errorOf? items)
      (filter.lines (Scanner.eventsOf items)) (scan f filter source) := by
  intro items
  rw [scan_eq]
  exact ⟨rfl, ⟨rfl, f.oneLine_of_mem_standardLines _ _⟩, rfl⟩

/-- **The formats show the same scan.** A scan returns tokens and then the end of the text, or
else an error, which is displayed by its kind, its position and its message. Every run that
scans the source shows these tokens and this error in its format, and its exit code tells
whether there is one. -/
theorem formats_agree (source : ByteStream) :
    let items := (Scanner.ofStream source).items
    let ts := Scanner.tokensOf items
    let failure := Scanner.errorOf? items
    items = ts.map .ok ++ failure.toList.map .error ∧
      Scanner.Finishes ts failure ∧
      (∀ e, failure = some e →
        e.toString = e.kind ++ " at " ++ e.position.toString ++ ": " ++ e.message ∧
        ((∀ fault, e.cause = .unreadable (.fault fault) → OneLine fault.message) →
          OneLine e.toString)) ∧
      ∀ arguments r s f filter, Request.ofArguments arguments = .ok r →
        r.Scans s f filter source →
        Shows f ts failure (filter.lines (Scanner.eventsOf items)) (run arguments s) := by
  intro items ts failure
  obtain ⟨hfinishes, hitems⟩ := Scanner.items_eq_result source
  refine ⟨hitems, hfinishes, ?_, ?_⟩
  · intro e _
    exact ⟨e.toString_eq, ScanError.oneLine_toString⟩
  · intro arguments r s f filter hr hscans
    rw [run_of_ofArguments hr s, perform_of_leadsTo (.scan hscans)]
    exact shows_scan f filter source

/-- A mark and a zero with a letter behind it, written as lines of JSON. -/
theorem formats_agree_letter :
    let t : Token := .ofChar (.mark .assign) '=' ⟨1, 1⟩
    let e : ScanError := ⟨.unknownRadix 'q', ⟨1, 3⟩⟩
    let r : Request := ⟨some "=0q", some "jsonl", none, true, false, false⟩
    let s : Surroundings := ⟨.terminal, fun _ => .error (.ofKind .notFound), none⟩
    let log := ["DEBUG monkey_lang::lexer: lexer error: unrecognized integer prefix prefix=q "
      ++ "position=1:3"]
    Request.ofArguments ["-d", "-o", "jsonl", "-e", "=0q"] = .ok r ∧
      r.Scans s .jsonLines .verbose [.bytes (Utf8.encode "=0q".toList)] ∧
      Shows .jsonLines [t] (some e) log (run ["-d", "-o", "jsonl", "-e", "=0q"] s) := by
  intro t e r s log
  have hr : Request.ofArguments ["-d", "-o", "jsonl", "-e", "=0q"] = .ok r := by decide +kernel
  have hscans : r.Scans s .jsonLines .verbose [.bytes (Utf8.encode "=0q".toList)] :=
    ⟨⟨rfl, rfl, rfl⟩, .named rfl, .eval rfl⟩
  have hitems : (Scanner.ofStream [.bytes (Utf8.encode "=0q".toList)]).items =
      [.ok t, .error e] := by decide +kernel
  have hlog : Log.Filter.verbose.lines (Scanner.eventsOf [.ok t, .error e]) = log := by
    decide +kernel
  obtain ⟨-, -, -, hshows⟩ := formats_agree [.bytes (Utf8.encode "=0q".toList)]
  have h := hshows _ r s .jsonLines .verbose hr hscans
  rw [hitems, hlog] at h
  exact ⟨hr, hscans, h⟩

end MonkeyTokens.CommandLine
