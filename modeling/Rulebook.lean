import Rulebook.CommandLine
import Rulebook.Main
import Rulebook.Rule.Stored
import Rulebook.Proofs.Token.Balance
import Rulebook.Proofs.Tree.Grammar
import Rulebook.Proofs.Token.Spelling
import Rulebook.Proofs.Tree.Shape
import Rulebook.Proofs.Tree.Printing
import Rulebook.Proofs.Evaluation
import Rulebook.Proofs.Compiler
import Rulebook.Proofs.Store.Operation
import Rulebook.Proofs.Store.Catalogue
import Rulebook.Proofs.Store.Refinement
import Rulebook.Proofs.Token.Cutting
import Rulebook.Proofs.Number.Rounding
import Rulebook.Proofs.Number.Shortest
import Rulebook.Proofs.Number.Whole
import Rulebook.Proofs.Json.Numeral
import Rulebook.Proofs.Number.Plain
import Rulebook.Proofs.Json.Scalar
import Rulebook.Proofs.Operand.Word
import Rulebook.Proofs.Operand.Literal
import Rulebook.Proofs.Json.Block
import Rulebook.Proofs.Tree.Reprinting
import Rulebook.Proofs.Number.JsonText
import Rulebook.Proofs.Json.Rereading
import Rulebook.Proofs.Json.Indented
import Rulebook.Proofs.Report
import Rulebook.Proofs.Tree.Stored
import Rulebook.Proofs.Number.Exact
import Rulebook.Proofs.Rule.Stored
import Rulebook.Proofs.Rule.Condition
import Rulebook.Proofs.Rule.RequiredFields
import Rulebook.Proofs.Trace
import Rulebook.Proofs.Rule.Composition
import Rulebook.Proofs.Token.Unmatched
import Rulebook.Proofs.Tree.Parentheses
import Rulebook.Proofs.Token.Partner
import Rulebook.Proofs.Tree.Redundancy
import Rulebook.Proofs.Store.Batch
import Rulebook.Proofs.Store.Versions
import Rulebook.Proofs.CommandLine
import Rulebook.Proofs.Number.Nearest
import Rulebook.Proofs.Number.Numeral
import Rulebook.Proofs.Text.Units
import Rulebook.Proofs.Value.Comparison
import Rulebook.Proofs.Value.NumericText
import Rulebook.Proofs.Tree.Modes
import Rulebook.Proofs.Rule.Names
import Rulebook.Proofs.Tree.Regrouping
import Rulebook.Proofs.Tree.Nesting
import Rulebook.Proofs.Tree.Mirror
import Rulebook.Proofs.MissingNames
import Rulebook.Proofs.Store.Reordering
import Rulebook.Proofs.Value.Transitivity
import Rulebook.Proofs.Operand.Classification
import Rulebook.Proofs.Token.Search
import Rulebook.Proofs.Text.Quoted
import Rulebook.Proofs.Number.Text
import Rulebook.Proofs.Value.Description
import Rulebook.Proofs.Settings.Place
import Rulebook.Proofs.Settings.Layers
import Rulebook.Proofs.Settings.Conversion
import Rulebook.Proofs.Toml.Distinct
import Rulebook.Proofs.Settings.Variables
import Rulebook.Proofs.Settings.Loading
