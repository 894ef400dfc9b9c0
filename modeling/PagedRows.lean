import PagedRows.Binary
import PagedRows.Binary.Format
import PagedRows.Cell
import PagedRows.Cell.FloatText
import PagedRows.Cell.Json
import PagedRows.Cell.Views
import PagedRows.CommandLine
import PagedRows.CommandLine.Complaint
import PagedRows.CommandLine.Help
import PagedRows.CommandLine.Number
import PagedRows.CommandLine.Settings
import PagedRows.CommandLine.Token
import PagedRows.Cursor
import PagedRows.Cursor.Drain
import PagedRows.Decimal
import PagedRows.Decimal.Layout
import PagedRows.Decimal.Shortest
import PagedRows.Fault
import PagedRows.Fault.Report
import PagedRows.Json
import PagedRows.Json.Printer
import PagedRows.Json.Reader
import PagedRows.Main
import PagedRows.Numeral
import PagedRows.Numeral.Decimal
import PagedRows.Numeral.Hexadecimal
import PagedRows.Paging
import PagedRows.Position
import PagedRows.Power
import PagedRows.Program
import PagedRows.RowLines
import PagedRows.Session
import PagedRows.Session.Step
import PagedRows.Text.Blank
import PagedRows.Text.Integer
import PagedRows.Text.Lines
import PagedRows.Text.Printable
import PagedRows.Text.Trim
import PagedRows.Window
import PagedRows.Window.Access
import PagedRows.Window.Census
import PagedRows.Window.Fill
import PagedRows.Window.Getter
import PagedRows.Window.Rendering
import PagedRows.Proofs.Advance
import PagedRows.Proofs.Changes
import PagedRows.Proofs.Filling
import PagedRows.Proofs.History
import PagedRows.Proofs.LastPut
import PagedRows.Proofs.Listing
import PagedRows.Proofs.PageLoop
import PagedRows.Proofs.Rectangular
import PagedRows.Proofs.RowText
import PagedRows.Proofs.Lifetime
import PagedRows.Proofs.Walk
import PagedRows.Proofs.Refusal
import PagedRows.Proofs.Rounding
import PagedRows.Proofs.WrittenDecimal
import PagedRows.Proofs.JsonTokens
import PagedRows.Proofs.JsonText
import PagedRows.Proofs.ReadValues
import PagedRows.Proofs.PrintedLines
import PagedRows.Proofs.CellText
import PagedRows.Proofs.RoundTrip
import PagedRows.Proofs.Disposal
import PagedRows.Proofs.RaggedRows
import PagedRows.Proofs.Interruption
import PagedRows.Proofs.Census
import PagedRows.Proofs.CellCount
import PagedRows.Proofs.Description
import PagedRows.Proofs.SettingsRange
import PagedRows.Proofs.Agreement
import PagedRows.Proofs.FirstCause
import PagedRows.Proofs.Magnitudes
import PagedRows.Proofs.Nearest
import PagedRows.Proofs.Transparency
import PagedRows.Proofs.TextEnds
import PagedRows.Proofs.Grammar
import PagedRows.Proofs.Spelling
import PagedRows.Proofs.Mantissa
import PagedRows.Proofs.Scaling
import PagedRows.Proofs.Significance
import PagedRows.Proofs.HexadecimalValue
import PagedRows.Proofs.NumberText
import PagedRows.Proofs.Getters
import PagedRows.Proofs.CellValues
import PagedRows.Proofs.CellRoundTrip
import PagedRows.Proofs.Accessors
import PagedRows.Proofs.LineByLine
import PagedRows.Proofs.Draining
import PagedRows.Proofs.CensusTotals
import PagedRows.Proofs.Guards
import PagedRows.Proofs.PageLoads
import PagedRows.Proofs.FloatForm
import PagedRows.Proofs.DigitValue
import PagedRows.Proofs.DigitWords
import PagedRows.Proofs.SignificantBits
import PagedRows.Proofs.Thresholds
