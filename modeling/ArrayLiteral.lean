import ArrayLiteral.Datum
import ArrayLiteral.Entries.Update
import ArrayLiteral.Literal.Sink
import ArrayLiteral.Main
import ArrayLiteral.Proofs.Collation.Ignored
import ArrayLiteral.Proofs.CommandLine.Effects
import ArrayLiteral.Proofs.Datum.Visit
import ArrayLiteral.Proofs.Entries.Collect
import ArrayLiteral.Proofs.Entries.History
import ArrayLiteral.Proofs.Entries.Weight
import ArrayLiteral.Proofs.Json.RoundTrip
import ArrayLiteral.Proofs.Literal.Agreement
import ArrayLiteral.Proofs.Literal.Alike
import ArrayLiteral.Proofs.Literal.Array
import ArrayLiteral.Proofs.Literal.Block
import ArrayLiteral.Proofs.Literal.Built
import ArrayLiteral.Proofs.Literal.Canonical
import ArrayLiteral.Proofs.Literal.Commas
import ArrayLiteral.Proofs.Literal.Delimited
import ArrayLiteral.Proofs.Literal.Elements
import ArrayLiteral.Proofs.Literal.FixedPoint
import ArrayLiteral.Proofs.Literal.Legible
import ArrayLiteral.Proofs.Literal.Meaning
import ArrayLiteral.Proofs.Literal.Nesting
import ArrayLiteral.Proofs.Literal.Outline
import ArrayLiteral.Proofs.Literal.Pieces
import ArrayLiteral.Proofs.Literal.Quoted
import ArrayLiteral.Proofs.Literal.Refusal
import ArrayLiteral.Proofs.Literal.RoundTrip
import ArrayLiteral.Proofs.Literal.Scalar
import ArrayLiteral.Proofs.Literal.Swallow
import ArrayLiteral.Proofs.Literal.WellFormed
import ArrayLiteral.Proofs.Literal.WholeDecimal
import ArrayLiteral.Proofs.Number.Origin
import ArrayLiteral.Proofs.Number.RoundTrip
import ArrayLiteral.Proofs.Session
import ArrayLiteral.Proofs.Value.Equality
import ArrayLiteral.Proofs.Value.Everywhere
import ArrayLiteral.Proofs.Value.Reordered
import ArrayLiteral.Proofs.Value.Sorted
import ArrayLiteral.Proofs.Walker.Offset
import ArrayLiteral.Proofs.Walker.Scanner
import ArrayLiteral.Value.Equality
