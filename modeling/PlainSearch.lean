import PlainSearch.Request.Target
import PlainSearch.Request.Statement
import PlainSearch.Schema.Inference
import PlainSearch.Validation.Models
import PlainSearch.Search
import PlainSearch.Settings
import PlainSearch.CommandLine.Call
import PlainSearch.Main
import PlainSearch.Proofs.Request.Phrase
import PlainSearch.Proofs.Request.Slot
import PlainSearch.Proofs.Request.Operator
import PlainSearch.Proofs.Request.Expression
import PlainSearch.Proofs.Request.Clause
import PlainSearch.Proofs.Request.Marker
import PlainSearch.Proofs.Sql.Literal
import PlainSearch.Proofs.Request.Plan
import PlainSearch.Proofs.Request.Statement
import PlainSearch.Proofs.Sql.Like
import PlainSearch.Proofs.Store
import PlainSearch.Proofs.Sql.Enclosed
import PlainSearch.Proofs.Sql.Identifier
import PlainSearch.Proofs.Database.Change
import PlainSearch.Proofs.Schema.Entry
import PlainSearch.Proofs.Schema.Discovery
import PlainSearch.Proofs.Schema.Companion
import PlainSearch.Proofs.Request.Reference
import PlainSearch.Proofs.Request.Target
import PlainSearch.Proofs.CommandLine.Agreement
import PlainSearch.Proofs.CommandLine.Ending
import PlainSearch.Proofs.Number.Double
import PlainSearch.Proofs.Number.Shortest
import PlainSearch.Proofs.CommandLine.Document
import PlainSearch.Proofs.Request.Ends
import PlainSearch.Proofs.Request.Filter
import PlainSearch.Proofs.Request.Proximity
import PlainSearch.Proofs.Schema.Inference
import PlainSearch.Proofs.Request.Word
import PlainSearch.Proofs.Request.Exchange
import PlainSearch.Proofs.Request.Place
import PlainSearch.Proofs.Request.Numeral
import PlainSearch.Proofs.Request.Value
import PlainSearch.Proofs.Request.Margin
import PlainSearch.Proofs.Request.Layout
import PlainSearch.Proofs.Request.Selection
import PlainSearch.Proofs.Request.Limit
import PlainSearch.Proofs.Request.Empty
import PlainSearch.Proofs.CommandLine.BarePath
import PlainSearch.Proofs.Location.Connection
import PlainSearch.Proofs.CommandLine.Holding
import PlainSearch.Proofs.Validation.Model
import PlainSearch.Proofs.CommandLine.Environment
