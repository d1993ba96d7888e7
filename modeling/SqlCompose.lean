import SqlCompose.Backend.ConnectionString
import SqlCompose.Backend.InternetAddress
import SqlCompose.Backend.Message
import SqlCompose.Backend.Pool
import SqlCompose.Backend.Wire
import SqlCompose.Calendar.Date
import SqlCompose.Calendar.Duration
import SqlCompose.Calendar.Reading
import SqlCompose.Calendar.Timestamp
import SqlCompose.Clause
import SqlCompose.Config
import SqlCompose.Dialect
import SqlCompose.Entity
import SqlCompose.EntityType
import SqlCompose.Error
import SqlCompose.Fragment
import SqlCompose.Json.Basic
import SqlCompose.Json.Printer
import SqlCompose.Json.Reader
import SqlCompose.Number.Binary64
import SqlCompose.Number.Layout
import SqlCompose.Number.Power
import SqlCompose.Number.Reading
import SqlCompose.Number.Shortest
import SqlCompose.Query.Basic
import SqlCompose.Query.Call
import SqlCompose.Query.Render
import SqlCompose.Relation.Flatten
import SqlCompose.Relation.Join
import SqlCompose.Row
import SqlCompose.Run.Conversation
import SqlCompose.Run.Destination
import SqlCompose.Run.Error
import SqlCompose.Run.Race
import SqlCompose.Run.Relations
import SqlCompose.Run.Scan
import SqlCompose.Run.Script
import SqlCompose.Run.Session
import SqlCompose.Schema
import SqlCompose.Select.Basic
import SqlCompose.Select.Clauses
import SqlCompose.Template
import SqlCompose.Text.Alphanumeric
import SqlCompose.Text.Blank
import SqlCompose.Text.Cut
import SqlCompose.Text.Hex
import SqlCompose.Text.LetterCase
import SqlCompose.Text.Printable
import SqlCompose.Text.Quoted
import SqlCompose.Text.SnakeCase
import SqlCompose.Text.Span
import SqlCompose.Uuid
import SqlCompose.Value.Basic
import SqlCompose.Value.Decode
import SqlCompose.Value.Inspect
import SqlCompose.Value.Key
import SqlCompose.Value.Literal
import SqlCompose.Value.Map
import SqlCompose.Values
import SqlCompose.Proofs.FirstError
import SqlCompose.Proofs.Mirror
import SqlCompose.Proofs.Modes
import SqlCompose.Proofs.Counting
import SqlCompose.Proofs.DepthLimit
import SqlCompose.Proofs.ClauseErrors
import SqlCompose.Proofs.Responses
import SqlCompose.Proofs.Attaching
import SqlCompose.Proofs.Loading
import SqlCompose.Proofs.Precedence
import SqlCompose.Proofs.Places
import SqlCompose.Proofs.DeletedRows
import SqlCompose.Proofs.CountForm
import SqlCompose.Proofs.Aliases
import SqlCompose.Proofs.RequestedPaths
import SqlCompose.Proofs.RequestedNodes
import SqlCompose.Proofs.WithoutData
import SqlCompose.Proofs.ShapeOnly
import SqlCompose.Proofs.Comments
import SqlCompose.Proofs.CommentSeams
import SqlCompose.Proofs.CompositeKeys
import SqlCompose.Proofs.Digits
import SqlCompose.Proofs.Calendar
import SqlCompose.Proofs.TextReaders
import SqlCompose.Proofs.TimestampText
import SqlCompose.Proofs.KeySpelling
import SqlCompose.Proofs.ColumnItems
import SqlCompose.Proofs.KeyColumns
import SqlCompose.Proofs.Refusals
import SqlCompose.Proofs.Replay
import SqlCompose.Proofs.ScanOrder
import SqlCompose.Proofs.AliasSeams
import SqlCompose.Proofs.NestedRows
import SqlCompose.Proofs.Chains
import SqlCompose.Proofs.SharedNodes
import SqlCompose.Proofs.Groups
import SqlCompose.Proofs.KeyConditions
import SqlCompose.Proofs.Parts
import SqlCompose.Proofs.SideBySide
import SqlCompose.Proofs.TupleSizes
import SqlCompose.Proofs.TemplateTexts
import SqlCompose.Proofs.QuotedText
import SqlCompose.Proofs.QuotedNames
import SqlCompose.Proofs.DynamicRows
import SqlCompose.Proofs.SortItems
import SqlCompose.Proofs.Rerooting
import SqlCompose.Proofs.FeatureUse
import SqlCompose.Proofs.FlattenedLists
import SqlCompose.Proofs.RepeatedColumns
import SqlCompose.Proofs.SharedColumns
import SqlCompose.Proofs.ColumnLists
import SqlCompose.Proofs.Overrides
import SqlCompose.Proofs.IntegerTexts
import SqlCompose.Proofs.IntegerCasts
import SqlCompose.Proofs.WrittenTimestamps
import SqlCompose.Proofs.CallOrder
import SqlCompose.Proofs.LoggedText
