import SelectQuery.Main
import SelectQuery.Statement.RoundTrip
import SelectQuery.Proofs.Reading.Continuation
import SelectQuery.Proofs.RoundTrip.Reread
import SelectQuery.Proofs.Reading.Automaton
import SelectQuery.Proofs.Scan.Written
import SelectQuery.Proofs.Scan.Lexeme
import SelectQuery.Proofs.Scan.LetterCase
import SelectQuery.Proofs.Reading.Unread
import SelectQuery.Proofs.Reading.Spacing
import SelectQuery.Proofs.Reading.Clauses
import SelectQuery.Proofs.Reading.Log
import SelectQuery.Proofs.Reading.LetterCase
import SelectQuery.Proofs.Reading.Condition
import SelectQuery.Proofs.RoundTrip.Verbatim
import SelectQuery.Proofs.RoundTrip.Parts
import SelectQuery.Proofs.CommandLine.Rerun
import SelectQuery.Proofs.CommandLine.LastSpace
import SelectQuery.Proofs.Reading.BlankPairs
import SelectQuery.Proofs.Reading.Message
import SelectQuery.Proofs.Json.Lossless
import SelectQuery.Proofs.Scan.Requests
import SelectQuery.Proofs.Text.Spelling
