import StatementView.Text.Basic
import StatementView.Text.Ranges
import StatementView.Text.Blank
import StatementView.Text.Category
import StatementView.Text.Folding
import StatementView.Text.Hex
import StatementView.Text.Utf8
import StatementView.Decimal.Digits
import StatementView.Decimal.Shortest
import StatementView.Decimal.Numeral
import StatementView.Json.Printer
import StatementView.Value.Literal
import StatementView.Value.Json
import StatementView.Value.Calendar
import StatementView.Binding.Json
import StatementView.Placeholder.Substitution
import StatementView.Summary.Basic
import StatementView.Markup.Backend
import StatementView.Markup.Layout
import StatementView.Profile
import StatementView.Main
import StatementView.Proofs.Placeholder.Positional
import StatementView.Proofs.Summary.Reconstruction
import StatementView.Proofs.Summary.Length
import StatementView.Proofs.Markup.Containment
import StatementView.Proofs.Markup.Fragments
import StatementView.Proofs.Markup.Wrapper
import StatementView.Proofs.Statement.Detection
import StatementView.Proofs.Clause.Casing
import StatementView.Proofs.Summary.Casing
import StatementView.Proofs.Binding.Insertion
import StatementView.Proofs.Placeholder.Order
import StatementView.Proofs.Summary.Shape
import StatementView.Proofs.Summary.LineBreaks
import StatementView.Proofs.Combination.Walk
import StatementView.Proofs.Command.Batches
import StatementView.Proofs.Command.Spelling
import StatementView.Proofs.Clause.Dropping
import StatementView.Proofs.Value.Bytes
import StatementView.Proofs.Value.Grouping
import StatementView.Proofs.Value.Integers
import StatementView.Proofs.Binding.Naming
import StatementView.Proofs.Binding.Numbered
import StatementView.Proofs.Markup.Stray
import StatementView.Proofs.Markup.Foreign
