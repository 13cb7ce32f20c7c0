import MonkeyTokens.Log.Directive

/-!
Filters on a log.

A filter is a list of directives separated by commas. An event is shown if the directive
that speaks about it most closely admits its level: the one with the longest target,
among those one with a field before one without, and the last of several that say the
same.
-/

namespace MonkeyTokens.Log

/-- What is shown of a log. -/
abbrev Filter := List Directive

namespace Filter

/-- Reads a filter. Empty parts between commas are passed over, and the first part that gives
no directive decides why the filter gives nothing. -/
def parse (text : String) : Except Defect Filter :=
  ((text.splitOn ",").filter (!·.isEmpty)).mapM Directive.parse

/-- The filter that is used where no readable one is given. -/
def standard : Filter := [{ limit := Level.warn.rank }]

/-- The filter of a verbose run. -/
def verbose : Filter := [{ limit := Level.debug.rank }]

/-- The filter that a text asks for, if any is given: the standard one where none is given or
the text is refused, and none where the reading breaks down. -/
def ofText? (text : Option String) : Option Filter :=
  match text.map parse with
  | none | some (.error .unreadable) => some standard
  | some (.ok filter) => some filter
  | some (.error .breakdown) => none

/-- The better of two directives for the same event, the second one if both are equally
close. -/
def better (best : Option Directive) (d : Directive) : Option Directive :=
  match best with
  | none => some d
  | some b => if (b.closeness d).isLE then some d else some b

/-- The directive that decides about an event. -/
def deciding? (f : Filter) (e : Event) : Option Directive :=
  (f.filter (·.fits e)).foldl better none

/-- Whether an event is shown. -/
def shows (f : Filter) (e : Event) : Bool :=
  (f.deciding? e).any (e.level.rank ≤ ·.limit)

/-- The lines of the events that are shown. -/
def lines (f : Filter) (log : List Event) : List String := (log.filter f.shows).map Event.line

end Filter

end MonkeyTokens.Log
