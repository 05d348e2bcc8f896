import RecordAccess.Embedded
import RecordAccess.Embedded.Location
import RecordAccess.Inspect
import RecordAccess.Main
import RecordAccess.Navigation
import RecordAccess.Proofs.Sql.Lexer
import RecordAccess.Proofs.Sql.Statement
import RecordAccess.Proofs.Sql.Joins
import RecordAccess.Proofs.Sql.Scope
import RecordAccess.Proofs.Access
import RecordAccess.Proofs.Database.Connection
import RecordAccess.Proofs.Database.Memo
import RecordAccess.Proofs.Database.Extension
import RecordAccess.Proofs.RecordSet.Fetching
import RecordAccess.Proofs.Use.Basic
import RecordAccess.Proofs.Use.Composition
import RecordAccess.Proofs.Use.Extension
import RecordAccess.Proofs.RecordSet.Coherence
import RecordAccess.Proofs.Database.Serving
import RecordAccess.Proofs.RecordSet.Listing
import RecordAccess.Proofs.Database.Statements
import RecordAccess.Proofs.Record.Running
import RecordAccess.Proofs.Record.Relations
import RecordAccess.Proofs.Record.Hydration
import RecordAccess.Proofs.Record.Overlay
import RecordAccess.Proofs.Json.Canonical
import RecordAccess.Proofs.TableSchema.Recalled
import RecordAccess.Proofs.Database.SharedCache
import RecordAccess.Proofs.Database.SchemaCatalog
import RecordAccess.Proofs.Database.TableList
import RecordAccess.Proofs.Use.Connecting
import RecordAccess.Proofs.RecordSet.Sending
import RecordAccess.Proofs.CommandLine.Filtering
import RecordAccess.Proofs.Number.Exact
import RecordAccess.Proofs.Column.Admission
import RecordAccess.Proofs.Sql.JoinOrder
import RecordAccess.Proofs.Use.WriteHandle
import RecordAccess.Proofs.Number.Rounding
import RecordAccess.Proofs.Value.Equality
import RecordAccess.Proofs.Column.Literal
import RecordAccess.Proofs.Text.LetterCase
import RecordAccess.Proofs.Column.TypeToken
import RecordAccess.Proofs.Column.Respelling
import RecordAccess.Proofs.Column.Conversion
import RecordAccess.Proofs.CommandLine.FilterKey
import RecordAccess.Proofs.Json.Tokens
import RecordAccess.Proofs.Json.Layout
import RecordAccess.Proofs.Json.Written
import RecordAccess.Proofs.Json.Reading
import RecordAccess.Proofs.Use.Reached
import RecordAccess.Proofs.RecordSet.Interrupted
import RecordAccess.Proofs.RecordSet.Failing
import RecordAccess.Proofs.Export.Separated
import RecordAccess.Proofs.RecordSet.Limit
import RecordAccess.Proofs.CommandLine.Limit
import RecordAccess.Proofs.Record.ForeignKey
import RecordAccess.Proofs.Text.Lowered
import RecordAccess.Proofs.Record.Collection
import RecordAccess.Proofs.Record.Staging
import RecordAccess.Proofs.Record.Identity
import RecordAccess.Proofs.Number.Power
import RecordAccess.Proofs.Column.Range
import RecordAccess.Proofs.Text.FilePath
import RecordAccess.Proofs.Config.Target
import RecordAccess.Proofs.Config.Server
