import StreamPolicy.Main
import StreamPolicy.Expression.AlwaysTrue
import StreamPolicy.Proofs.Expression.Reading
import StreamPolicy.Proofs.Store
import StreamPolicy.Proofs.Service.Run
import StreamPolicy.Proofs.Expression.Nesting
import StreamPolicy.Proofs.Expression.Parsing
import StreamPolicy.Proofs.Expression.Bounded
import StreamPolicy.Proofs.Expression.Depth
import StreamPolicy.Proofs.Expression.Mentions
import StreamPolicy.Proofs.Detection
import StreamPolicy.Proofs.Expression.Lexing
import StreamPolicy.Proofs.Expression.Matching
import StreamPolicy.Proofs.Expression.Splitting
import StreamPolicy.Proofs.Expression.Walking
import StreamPolicy.Proofs.Expression.Rereading
import StreamPolicy.Proofs.Expression.Placing
import StreamPolicy.Proofs.Expression.Written
import StreamPolicy.Proofs.Expression.RoundTrip
import StreamPolicy.Proofs.Attempt
import StreamPolicy.Proofs.Service.Change
import StreamPolicy.Proofs.Service.Refusal
import StreamPolicy.Proofs.Service.Reordering
import StreamPolicy.Proofs.Service.Valid
import StreamPolicy.Proofs.Builtin
import StreamPolicy.Proofs.Service.Loading
import StreamPolicy.Proofs.Service.System
import StreamPolicy.Proofs.Service.Admission
import StreamPolicy.Proofs.Lint
import StreamPolicy.Proofs.Service.UserRules
import StreamPolicy.Proofs.Data.Digits
import StreamPolicy.Proofs.Data.Timestamp
import StreamPolicy.Proofs.Data.Coding
import StreamPolicy.Proofs.Rule.Record
import StreamPolicy.Proofs.Toml.Exchange
import StreamPolicy.Proofs.Saving
import StreamPolicy.Proofs.Updating
import StreamPolicy.Proofs.FileOrder
import StreamPolicy.Proofs.Reloading
import StreamPolicy.Proofs.Report
import StreamPolicy.Proofs.Warnings
import StreamPolicy.Proofs.Editing
import StreamPolicy.Proofs.Influence
import StreamPolicy.Proofs.Relaying
import StreamPolicy.Proofs.Relayed
import StreamPolicy.Proofs.CacheHistory
import StreamPolicy.Proofs.Service.Caching
import StreamPolicy.Proofs.Expression.Capturing
import StreamPolicy.Proofs.Findings
import StreamPolicy.Proofs.Request.Building
import StreamPolicy.Proofs.Request.Trimming
import StreamPolicy.Proofs.Clients
import StreamPolicy.Proofs.Alike
import StreamPolicy.Proofs.Pointing
import StreamPolicy.Proofs.Writing
