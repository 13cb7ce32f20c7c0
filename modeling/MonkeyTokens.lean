import MonkeyTokens.CommandLine.Directory
import MonkeyTokens.Main
import MonkeyTokens.Samples
import MonkeyTokens.Proofs.Stream.Answers
import MonkeyTokens.Proofs.Stream.WellFormed
import MonkeyTokens.Proofs.Stream.Decoding
import MonkeyTokens.Proofs.Stream.Reading
import MonkeyTokens.Proofs.Lexing.Place
import MonkeyTokens.Proofs.Stream.Supply
import MonkeyTokens.Proofs.Lexing.Grammar
import MonkeyTokens.Proofs.Lexing.Pieces
import MonkeyTokens.Proofs.Lexing.Landing
import MonkeyTokens.Proofs.Lexing.Located
import MonkeyTokens.Proofs.Lexing.Scan
import MonkeyTokens.Proofs.Lexing.MaximalMunch
import MonkeyTokens.Proofs.Lexing.Spans
import MonkeyTokens.Proofs.Lexing.Continuation
import MonkeyTokens.Proofs.Calls.Sequence
import MonkeyTokens.Proofs.Calls.Course
import MonkeyTokens.Proofs.Calls.Absorbing
import MonkeyTokens.Proofs.Calls.Standing
import MonkeyTokens.Proofs.Calls.Agreement
import MonkeyTokens.Proofs.Calls.Delivery
import MonkeyTokens.Proofs.Lexing.Respacing
import MonkeyTokens.Proofs.Lexing.LineBreaks
import MonkeyTokens.Proofs.Calls.Logged
import MonkeyTokens.Proofs.Text.Characters
import MonkeyTokens.Proofs.Output.Result
import MonkeyTokens.Proofs.Output.Lines
import MonkeyTokens.Proofs.Output.Formats
import MonkeyTokens.Proofs.CommandLine.Requests
import MonkeyTokens.Proofs.CommandLine.Selection
import MonkeyTokens.Proofs.CommandLine.Formats
import MonkeyTokens.Proofs.Stream.Lookahead
import MonkeyTokens.Proofs.Stream.Conservation
import MonkeyTokens.Proofs.Text.JsonReader
import MonkeyTokens.Proofs.Output.Recovery
import MonkeyTokens.Proofs.Log.Settings
import MonkeyTokens.Proofs.CommandLine.Logging
import MonkeyTokens.Proofs.Calls.Progress
import MonkeyTokens.Proofs.Lexing.Checked
import MonkeyTokens.Proofs.Calls.Arithmetic
import MonkeyTokens.Proofs.Lexing.Foreign
import MonkeyTokens.Proofs.Text.Reader
import MonkeyTokens.Proofs.Output.Displayed
import MonkeyTokens.Proofs.Lexing.Copies
import MonkeyTokens.Proofs.Output.Errors
