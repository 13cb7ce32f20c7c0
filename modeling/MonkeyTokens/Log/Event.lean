import MonkeyTokens.ScanError
import MonkeyTokens.Token.Basic

/-!
What a scan reports about itself.

A scan reports that it begins, each token that it returns, and the error that
ends it. An `Event` knows its severity, the fields that it holds and the line it is
written as, without the time at which it happened. What happened in words is a field
too, the message.
-/

namespace MonkeyTokens.Log

/-- The severity of an event, from the most to the least severe. -/
inductive Level where
  | error | warn | info | debug | trace
deriving DecidableEq, Repr

namespace Level

/-- Less severe levels have higher ranks. Rank zero is left for silence. -/
def rank : Level → Nat
  | .error => 1
  | .warn => 2
  | .info => 3
  | .debug => 4
  | .trace => 5

/-- The name of the level. -/
def name : Level → String
  | .error => "ERROR"
  | .warn => "WARN"
  | .info => "INFO"
  | .debug => "DEBUG"
  | .trace => "TRACE"

end Level

/-- Something that a scan reports. -/
inductive Event where
  /-- The first character is about to be read. -/
  | priming
  /-- A token is returned. -/
  | token (t : Token)
  /-- The scan ends in an error. -/
  | failure (e : ScanError)
deriving DecidableEq, Repr

namespace Event

/-- The part of the program that all the events come from. -/
def target : String := "monkey_lang::lexer"

/-- The severity of an event. -/
def level : Event → Level
  | .priming => .trace
  | .token _ => .trace
  | .failure _ => .debug

/-- The names of what an event holds. -/
def fields : Event → List String
  | .priming => ["message"]
  | .token _ => ["message", "kind", "literal", "span"]
  | .failure e =>
    match e.cause with
    | .unreadable _ => ["message", "kind", "position"]
    | .unknownRadix _ => ["message", "prefix", "position"]

/-- What happened, in words and named values. The text of a token is written as
it is, the letter of an unknown radix too. -/
def text : Event → String
  | .priming => "priming scanner"
  | .token t => "token kind=" ++ t.kind.name ++ " literal=" ++ t.literal
      ++ " span=" ++ t.span.toString
  | .failure e =>
    match e.cause with
    | .unreadable _ => "lexer error: " ++ e.message ++ " kind=\"" ++ e.kind
        ++ "\" position=" ++ e.position.toString
    | .unknownRadix letter => "lexer error: unrecognized integer prefix prefix="
        ++ letter.toString ++ " position=" ++ e.position.toString

/-- The line of an event: severity, origin and text. -/
def line (e : Event) : String := e.level.name ++ " " ++ target ++ ": " ++ e.text

end Event

end MonkeyTokens.Log
