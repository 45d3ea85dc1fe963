import FilterQuery.Filter.Printer
import FilterQuery.Graph.Search
import FilterQuery.Main
import FilterQuery.Proofs.Compiler.Attributes
import FilterQuery.Proofs.Compiler.Binding
import FilterQuery.Proofs.Compiler.Existence
import FilterQuery.Proofs.Compiler.Period
import FilterQuery.Proofs.Compiler.Redundancy
import FilterQuery.Proofs.Filter.Leniency
import FilterQuery.Proofs.Graph.SchemaQueries
import FilterQuery.Proofs.Graph.Search
import FilterQuery.Proofs.Reference.Stability
import FilterQuery.Session.Command
import FilterQuery.Text.Literal
import FilterQuery.Text.Pattern
import FilterQuery.Text.Quotation
import FilterQuery.Proofs.Datalog.Escaping
import FilterQuery.Proofs.Compiler.Patterns
import FilterQuery.Proofs.Graph.Keywords
import FilterQuery.Proofs.Calendar.DateTime
import FilterQuery.Proofs.Compiler.Selection
import FilterQuery.Proofs.Datalog.Reissue
import FilterQuery.Proofs.Graph.TableLookup
import FilterQuery.Proofs.Graph.Unresolved
import FilterQuery.Proofs.Compiler.CaseSwitch
import FilterQuery.Proofs.Calendar.Exclusion
import FilterQuery.Proofs.Number.Rounding
import FilterQuery.Proofs.Reference.Scan
import FilterQuery.Proofs.Number.Nearest
import FilterQuery.Proofs.Number.Numeral
import FilterQuery.Proofs.Number.Shortest
import FilterQuery.Proofs.Compiler.Numbers
import FilterQuery.Proofs.Json.Extent
import FilterQuery.Proofs.Json.Trimming
import FilterQuery.Proofs.Json.Faults
import FilterQuery.Proofs.Session.Lines
