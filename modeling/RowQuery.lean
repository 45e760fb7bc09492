import RowQuery.Main
import RowQuery.Proofs.Builtin.Rounding
import RowQuery.Proofs.Filter.Grammar
import RowQuery.Proofs.Filter.Quotation
import RowQuery.Proofs.Json.RoundTrip
import RowQuery.Proofs.Lambda.Culprit
import RowQuery.Proofs.Lambda.RoundTrip
import RowQuery.Proofs.Lambda.Sentence
import RowQuery.Proofs.PushDown.Nesting
import RowQuery.Proofs.PushDown.Refusal
import RowQuery.Proofs.PushDown.Shape
import RowQuery.Proofs.Query.Any
import RowQuery.Proofs.Query.Arrangement
import RowQuery.Proofs.Query.Distinct
import RowQuery.Proofs.Query.Extreme
import RowQuery.Proofs.Query.Index
import RowQuery.Proofs.Query.Progress
import RowQuery.Proofs.Query.Requests
import RowQuery.Proofs.Query.Service
import RowQuery.Proofs.Query.Total
