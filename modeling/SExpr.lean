import SExpr.Text
import SExpr.Text.Ranges
import SExpr.Text.Blank
import SExpr.Text.Decimal
import SExpr.Text.Letter
import SExpr.Text.Printable
import SExpr.Text.CharClass
import SExpr.Text.Numeral
import SExpr.Text.Quoted
import SExpr.Token
import SExpr.Config
import SExpr.ReadError
import SExpr.Balance
import SExpr.Session
import SExpr.Scanner
import SExpr.Token.OfText
import SExpr.Access
import SExpr.Tree
import SExpr.Value
import SExpr.Value.Layout
import SExpr.Document
import SExpr.Token.Integer
import SExpr.Cursor
import SExpr.Reading
import SExpr.Datum
import SExpr.Text.Spelled
import SExpr.CommandLine.Options
import SExpr.CommandLine.Arguments
import SExpr.CommandLine.Run
import SExpr.Main
import SExpr.Proofs.Session
import SExpr.Proofs.CharClass
import SExpr.Proofs.Scanned
import SExpr.Proofs.Pieces
import SExpr.Proofs.Cover
import SExpr.Proofs.Moves
import SExpr.Proofs.Numeral
import SExpr.Proofs.Tree
import SExpr.Proofs.Grammar
import SExpr.Proofs.Balance
import SExpr.Proofs.Spacing
import SExpr.Proofs.Written
import SExpr.Proofs.RoundTrip
import SExpr.Proofs.Level
import SExpr.Proofs.Blame
import SExpr.Proofs.Outcome
import SExpr.Proofs.Successive
import SExpr.Proofs.Refusal
import SExpr.Proofs.Retokenized
import SExpr.Proofs.Leniency
import SExpr.Proofs.LeadingZeros
import SExpr.Proofs.Spelled
import SExpr.Proofs.Arguments
import SExpr.Proofs.Diagnostic
import SExpr.Proofs.Accounts
import SExpr.Proofs.Faithful
import SExpr.Proofs.Listing
import SExpr.Proofs.Locality
import SExpr.Proofs.Culprit
import SExpr.Proofs.Document
import SExpr.Proofs.Escape
import SExpr.Proofs.Printed
import SExpr.Proofs.Report
import SExpr.Proofs.Joined
import SExpr.Proofs.Enclosed
import SExpr.Proofs.Peak
import SExpr.Proofs.Threshold
