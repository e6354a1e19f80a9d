import FieldPredicate.Token.Scan
import FieldPredicate.Error.Message
import FieldPredicate.Numeral.Literal
import FieldPredicate.Expr
import FieldPredicate.Expr.Read
import FieldPredicate.Decimal.Binary
import FieldPredicate.Decimal.Shortest
import FieldPredicate.Value
import FieldPredicate.Value.Contents
import FieldPredicate.Value.Render
import FieldPredicate.Eval
import FieldPredicate.Check
import FieldPredicate.Host
import FieldPredicate.Host.Type
import FieldPredicate.CommandLine
import FieldPredicate.Main
import FieldPredicate.Expr.Grammar
import FieldPredicate.Expr.Names
import FieldPredicate.Expr.Streamed
import FieldPredicate.Token.Lookahead
import FieldPredicate.Token.Lexical
import FieldPredicate.Value.Identity
import FieldPredicate.Regex
import FieldPredicate.Regex.Read
import FieldPredicate.Text.Terminal
import FieldPredicate.Proofs.Expr.Reading
import FieldPredicate.Proofs.Expr.Acceptance
import FieldPredicate.Proofs.Expr.EarliestError
import FieldPredicate.Proofs.Numeral.DigitRun
import FieldPredicate.Proofs.Token.LongestMatch
import FieldPredicate.Proofs.Expr.RoundTrip
import FieldPredicate.Proofs.SymbolTable.LastBinding
import FieldPredicate.Proofs.Numeral.LiteralValue
import FieldPredicate.Proofs.Check.FailFast
import FieldPredicate.Proofs.Eval.OperatorKinds
import FieldPredicate.Proofs.Eval.KindDirected
import FieldPredicate.Proofs.Check.FieldNames
import FieldPredicate.Proofs.Eval.FirstFailure
import FieldPredicate.Proofs.Token.Layout
import FieldPredicate.Proofs.Eval.Substitution
import FieldPredicate.Proofs.Eval.Payloads
import FieldPredicate.Proofs.Token.Spacing
import FieldPredicate.Proofs.Expr.Limit
import FieldPredicate.Proofs.Predicate.Conjunction
import FieldPredicate.Proofs.Check.StructureValue
import FieldPredicate.Proofs.Eval.Renaming
import FieldPredicate.Proofs.Value.Sharing
import FieldPredicate.Proofs.Host.Numbering
import FieldPredicate.Proofs.Check.Identities
import FieldPredicate.Proofs.Expr.OperatorPaths
import FieldPredicate.Proofs.SymbolTable.BindingOrder
import FieldPredicate.Proofs.Check.FieldOrder
import FieldPredicate.Proofs.Predicate.LexicalFaults
import FieldPredicate.Proofs.Predicate.Stages
import FieldPredicate.Proofs.Eval.ExactArithmetic
import FieldPredicate.Proofs.Expr.Lookahead
import FieldPredicate.Proofs.Expr.EndOfTokens
import FieldPredicate.CommandLine.Grammar
import FieldPredicate.Proofs.CommandLine.OneArgument
import FieldPredicate.Proofs.CommandLine.Acceptance
import FieldPredicate.Proofs.CommandLine.RequestOutcome
import FieldPredicate.Proofs.CommandLine.LibraryAgreement
import FieldPredicate.Store
import FieldPredicate.Proofs.Eval.BitArithmetic
import FieldPredicate.Proofs.Eval.EqualityLaws
import FieldPredicate.Proofs.Text.TextOrder
import FieldPredicate.Proofs.Eval.OrderingLaws
import FieldPredicate.Proofs.Value.SharedContents
import FieldPredicate.Proofs.Host.StoredData
import FieldPredicate.Proofs.Eval.Dispatch
import FieldPredicate.Proofs.Eval.Members
import FieldPredicate.Proofs.Numeral.DecimalText
import FieldPredicate.Proofs.Predicate.ScalarText
import FieldPredicate.Proofs.Host.Lossless
import FieldPredicate.Proofs.Eval.Counterparts
import FieldPredicate.Proofs.SymbolTable.History
import FieldPredicate.Numeral.ByteScan
import FieldPredicate.Proofs.Numeral.ByteScan
import FieldPredicate.Proofs.Host.UniqueText
