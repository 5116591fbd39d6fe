import SheetIntake.Backend.Exchange
import SheetIntake.Backend.Message
import SheetIntake.Batch.Course
import SheetIntake.Batch.Result
import SheetIntake.Batch.Run
import SheetIntake.Batch.Serial
import SheetIntake.Calendar.Date
import SheetIntake.Calendar.Notation
import SheetIntake.Coercion
import SheetIntake.Delimited.Decode
import SheetIntake.Delimited.Reader
import SheetIntake.Delimited.Sniff
import SheetIntake.Delimited.Writer
import SheetIntake.Field
import SheetIntake.Header
import SheetIntake.Http.Body
import SheetIntake.Http.Form
import SheetIntake.Http.HeaderLine
import SheetIntake.Http.Message
import SheetIntake.Http.Route
import SheetIntake.ImportError
import SheetIntake.Json.Node
import SheetIntake.Json.Number
import SheetIntake.Json.Shape
import SheetIntake.Json.Value
import SheetIntake.Lookup
import SheetIntake.Mapping
import SheetIntake.Number.Binary64
import SheetIntake.Number.Layout
import SheetIntake.Number.Numeral
import SheetIntake.Number.Shortest
import SheetIntake.Payload.Basic
import SheetIntake.Payload.Build
import SheetIntake.Payload.Registry
import SheetIntake.Proofs.Batch.Course
import SheetIntake.Proofs.Batch.Dispatch
import SheetIntake.Proofs.Batch.Punctual
import SheetIntake.Proofs.Batch.Rows
import SheetIntake.Proofs.Batch.Ticks
import SheetIntake.Proofs.Batch.Waiting
import SheetIntake.Proofs.Delimited.Characters
import SheetIntake.Proofs.Delimited.HeaderLine
import SheetIntake.Proofs.Delimited.RoundTrip
import SheetIntake.Proofs.Delimited.Sniffing
import SheetIntake.Proofs.Delimited.Totality
import SheetIntake.Proofs.Delimited.Written
import SheetIntake.Proofs.Mapping
import SheetIntake.Proofs.Mapping.Edits
import SheetIntake.Proofs.Mapping.Keys
import SheetIntake.Proofs.Payload.Object
import SheetIntake.Proofs.Payload.Registry
import SheetIntake.Proofs.Service.Attendance
import SheetIntake.Proofs.Service.Cancellation
import SheetIntake.Proofs.Service.Counting
import SheetIntake.Proofs.Service.Deletion
import SheetIntake.Proofs.Service.ExactlyOnce
import SheetIntake.Proofs.Service.Expiry
import SheetIntake.Proofs.Service.Ledger
import SheetIntake.Proofs.Service.Moves
import SheetIntake.Proofs.Service.Numbers
import SheetIntake.Proofs.Service.Origins
import SheetIntake.Proofs.Service.Soundness
import SheetIntake.Proofs.Service.TakingBack
import SheetIntake.Proofs.Service.Views
import SheetIntake.Proofs.Session.Choosing
import SheetIntake.Proofs.Session.Consistent
import SheetIntake.Proofs.Session.Editing
import SheetIntake.Proofs.Session.Failure
import SheetIntake.Proofs.Session.FullRows
import SheetIntake.Proofs.Session.Outcomes
import SheetIntake.Proofs.Session.RoundTrip
import SheetIntake.Proofs.Session.Transitions
import SheetIntake.Proofs.Table.Contents
import SheetIntake.Proofs.Table.Naming
import SheetIntake.Proofs.Table.WellFormed
import SheetIntake.Proofs.Text.Trim
import SheetIntake.Proofs.Text.Utf8
import SheetIntake.Proofs.Upload.Agreement
import SheetIntake.Proofs.Upload.Reading
import SheetIntake.Service.Error
import SheetIntake.Service.Request
import SheetIntake.Service.Schedule
import SheetIntake.Service.State
import SheetIntake.Service.Step
import SheetIntake.Session
import SheetIntake.Session.Action
import SheetIntake.Settings
import SheetIntake.Table.Basic
import SheetIntake.Table.Naming
import SheetIntake.Table.TextMap
import SheetIntake.Text.Blank
import SheetIntake.Text.Case
import SheetIntake.Text.CaseTable
import SheetIntake.Text.Charset
import SheetIntake.Text.Charset.Big5Index
import SheetIntake.Text.Charset.Gb18030
import SheetIntake.Text.Charset.Gb18030Index
import SheetIntake.Text.Charset.Japanese
import SheetIntake.Text.Charset.JapaneseIndex
import SheetIntake.Text.Charset.KoreanIndex
import SheetIntake.Text.Charset.Pairs
import SheetIntake.Text.Charset.SingleByte
import SheetIntake.Text.Charset.Wide
import SheetIntake.Text.MediaType
import SheetIntake.Text.Occurrence
import SheetIntake.Text.Utf8
import SheetIntake.Upload.Content
import SheetIntake.Upload.Format
import SheetIntake.Uuid
import SheetIntake.Workbook.Basic
import SheetIntake.Workbook.Cell
import SheetIntake.Workbook.Stored
import SheetIntake.Proofs.Mapping.FirstClaim
import SheetIntake.Proofs.Mapping.LastEdit
import SheetIntake.Proofs.Payload.OwnColumn
import SheetIntake.Proofs.Payload.References
import SheetIntake.Proofs.Number.Digits
import SheetIntake.Proofs.Calendar.Spelling
import SheetIntake.Proofs.Calendar.Documented
import SheetIntake.Proofs.Calendar.DayNumber
import SheetIntake.Proofs.Calendar.Agreement
import SheetIntake.Proofs.Calendar.LeftAlone
import SheetIntake.Proofs.Number.Doubles
import SheetIntake.Proofs.Number.Rounding
import SheetIntake.Proofs.Number.Decimals
import SheetIntake.Proofs.Number.Grammar
import SheetIntake.Proofs.Number.Integers
import SheetIntake.Proofs.Number.PlainNumerals
import SheetIntake.Proofs.Workbook.WholeNumbers
import SheetIntake.Proofs.Batch.Shortening
import SheetIntake.Proofs.Backend.Message
import SheetIntake.Proofs.Table.Suffixes
import SheetIntake.Proofs.Mapping.NormalForm
import SheetIntake.Proofs.Mapping.Unnamed
import SheetIntake.Proofs.Session.Unnamed
