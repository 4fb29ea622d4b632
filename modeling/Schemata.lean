import Schemata.Main
import Schemata.Proofs.Agreement
import Schemata.Proofs.History
import Schemata.Proofs.Replay
import Schemata.Proofs.Neat
import Schemata.Proofs.Nested
import Schemata.Proofs.RoundTrip
import Schemata.Proofs.Coherence
import Schemata.Proofs.Tally
import Schemata.Proofs.Calls
import Schemata.Proofs.Constraints
import Schemata.Proofs.Order
import Schemata.Proofs.Readiness
import Schemata.Proofs.Loading
import Schemata.Proofs.ReaderShape
import Schemata.Proofs.Registers
import Schemata.Proofs.Streaming
import Schemata.Proofs.ReadCharacters
import Schemata.Proofs.ValidateCommand
import Schemata.Proofs.Rearrangement
import Schemata.Proofs.SortedUnion
import Schemata.Proofs.Layout
import Schemata.Proofs.PartDecoding
import Schemata.Proofs.Renaming
import Schemata.Proofs.StatementDecoding
import Schemata.Proofs.Unambiguity
import Schemata.Proofs.Joins
import Schemata.Proofs.KeyDeclaration
import Schemata.Proofs.ColumnDefinition
import Schemata.Proofs.CommentReading
import Schemata.Proofs.StatementShape
import Schemata.Proofs.CasedScripts
import Schemata.Proofs.CamelCase
import Schemata.Proofs.Quoting
import Schemata.Proofs.KeyCoverage
import Schemata.Proofs.ChangeText
import Schemata.Proofs.Arrival
import Schemata.Proofs.Restoring
import Schemata.Proofs.TypeArguments
import Schemata.Proofs.TypeImage
import Schemata.Proofs.FieldSplitting
import Schemata.Proofs.QuotedTableName
import Schemata.Proofs.LineEndings
import Schemata.Proofs.CommandRuns
