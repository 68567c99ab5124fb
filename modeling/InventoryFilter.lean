import InventoryFilter.Binary64.Basic
import InventoryFilter.Binary64.Fixed
import InventoryFilter.Binary64.Rounding
import InventoryFilter.Binary64.Shortest
import InventoryFilter.Columns.Basic
import InventoryFilter.Columns.Reader
import InventoryFilter.CommandLine.Arguments
import InventoryFilter.CommandLine.Report
import InventoryFilter.Compile
import InventoryFilter.Decimal.Basic
import InventoryFilter.Decimal.Layout
import InventoryFilter.Event
import InventoryFilter.Expr.Basic
import InventoryFilter.Expr.Data
import InventoryFilter.Expr.Display
import InventoryFilter.Expr.Operator
import InventoryFilter.Expr.Outline
import InventoryFilter.Expr.Parser
import InventoryFilter.Expr.Sql
import InventoryFilter.Json.Basic
import InventoryFilter.Json.Printer
import InventoryFilter.Json.Reader
import InventoryFilter.Main
import InventoryFilter.Pattern.Basic
import InventoryFilter.Pattern.Bracketed
import InventoryFilter.Pattern.Encoding
import InventoryFilter.Pattern.Escape
import InventoryFilter.Pattern.Fault
import InventoryFilter.Pattern.Group
import InventoryFilter.Pattern.Nesting
import InventoryFilter.Pattern.Property
import InventoryFilter.Pattern.PropertyNames
import InventoryFilter.Pattern.Reader
import InventoryFilter.Pattern.Refusal
import InventoryFilter.Pattern.Repetition
import InventoryFilter.Pattern.Size
import InventoryFilter.Pattern.Spacing
import InventoryFilter.Pattern.Standard
import InventoryFilter.Pattern.Tree
import InventoryFilter.Proofs.Amounts
import InventoryFilter.Proofs.AsciiLetters
import InventoryFilter.Proofs.Barriers
import InventoryFilter.Proofs.Borders
import InventoryFilter.Proofs.Carets
import InventoryFilter.Proofs.ColumnInserts
import InventoryFilter.Proofs.ColumnOrder
import InventoryFilter.Proofs.CommandItems
import InventoryFilter.Proofs.Complaints
import InventoryFilter.Proofs.Composition
import InventoryFilter.Proofs.Cursor
import InventoryFilter.Proofs.ExprData
import InventoryFilter.Proofs.Fronts
import InventoryFilter.Proofs.Grammar
import InventoryFilter.Proofs.JsonText
import InventoryFilter.Proofs.Leaves
import InventoryFilter.Proofs.Leftovers
import InventoryFilter.Proofs.LetterCase
import InventoryFilter.Proofs.Likeness
import InventoryFilter.Proofs.Megabytes
import InventoryFilter.Proofs.NearestNumber
import InventoryFilter.Proofs.NumberText
import InventoryFilter.Proofs.Options
import InventoryFilter.Proofs.Parsing
import InventoryFilter.Proofs.PatternText
import InventoryFilter.Proofs.Placement
import InventoryFilter.Proofs.Precedence
import InventoryFilter.Proofs.QuantityGrammar
import InventoryFilter.Proofs.QuantityTokens
import InventoryFilter.Proofs.ReadBack
import InventoryFilter.Proofs.Readers
import InventoryFilter.Proofs.Recasing
import InventoryFilter.Proofs.Reporting
import InventoryFilter.Proofs.Rereading
import InventoryFilter.Proofs.RoundTrip
import InventoryFilter.Proofs.Scanning
import InventoryFilter.Proofs.Separators
import InventoryFilter.Proofs.SqlDistinct
import InventoryFilter.Proofs.SqlGrammar
import InventoryFilter.Proofs.SqlMeaning
import InventoryFilter.Proofs.SqlQuoting
import InventoryFilter.Proofs.SqlScanning
import InventoryFilter.Proofs.Streaming
import InventoryFilter.Proofs.TokenGrammar
import InventoryFilter.Proofs.TwoPlaces
import InventoryFilter.Proofs.Viability
import InventoryFilter.Quantity.Basic
import InventoryFilter.Quantity.Reader
import InventoryFilter.Quantity.StorageUnit
import InventoryFilter.Rejection
import InventoryFilter.Text.Alphabetic
import InventoryFilter.Text.AsciiCase
import InventoryFilter.Text.Blank
import InventoryFilter.Text.CaseIgnorable
import InventoryFilter.Text.Cased
import InventoryFilter.Text.CodeRange
import InventoryFilter.Text.GraphemeExtend
import InventoryFilter.Text.Lowercase
import InventoryFilter.Text.Measure
import InventoryFilter.Text.Numeric
import InventoryFilter.Text.Pad
import InventoryFilter.Text.Quoted
import InventoryFilter.Text.Unprintable
import InventoryFilter.Token.Basic
import InventoryFilter.Token.Kind
import InventoryFilter.Token.Lexeme
import InventoryFilter.Token.Scanner
