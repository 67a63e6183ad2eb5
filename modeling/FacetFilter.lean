import FacetFilter.Catalog.Document
import FacetFilter.Condition
import FacetFilter.Json.Written
import FacetFilter.Json.Printer
import FacetFilter.Json.Defect
import FacetFilter.Text.Blank
import FacetFilter.Text.CaseFold
import FacetFilter.Text.Lowercase
import FacetFilter.Text.Quoted
import FacetFilter.Program.Symbol
import FacetFilter.Program.Expansion
import FacetFilter.Program.Evaluation
import FacetFilter.Query.Document
import FacetFilter.Plan.Compilation
import FacetFilter.Proofs.Membership
import FacetFilter.Proofs.IdSet
import FacetFilter.Proofs.Journal
import FacetFilter.Proofs.Program.Grammar
import FacetFilter.Proofs.Program.Parsing
import FacetFilter.Proofs.Program.Interpretation
import FacetFilter.Proofs.Program.Selection
import FacetFilter.Proofs.Program.Expansion
import FacetFilter.Proofs.Query.Expression
import FacetFilter.Proofs.Query.Meaning
import FacetFilter.Proofs.Plan.Compilation
import FacetFilter.Proofs.Plan.Execution
import FacetFilter.Proofs.Program.Limit
import FacetFilter.Proofs.Condition.Locality
import FacetFilter.Proofs.Plan.Locality
import FacetFilter.Proofs.Decimal.Rounding
import FacetFilter.Proofs.Decimal.Shortest
import FacetFilter.Proofs.Decimal.Layout
import FacetFilter.Proofs.Json.Number
import FacetFilter.Proofs.Json.StringText
import FacetFilter.Proofs.Json.Printer
import FacetFilter.Proofs.Query.Document
import FacetFilter.Proofs.Query.EmptyGroup
import FacetFilter.Proofs.Program.Substitution
import FacetFilter.Proofs.Query.Substitution
import FacetFilter.Proofs.Query.Heeded
import FacetFilter.Proofs.Condition.Flip
import FacetFilter.Proofs.Plan.Flip
import FacetFilter.Proofs.Catalog.Steps
import FacetFilter.Proofs.Catalog.Document
import FacetFilter.Proofs.Plan.Wrapping
import FacetFilter.Proofs.Program.Completion
import FacetFilter.Proofs.Query.Recognised
import FacetFilter.Proofs.Condition.Case
import FacetFilter.Proofs.Program.Heights
import FacetFilter.Proofs.Program.Disorder
import FacetFilter.Proofs.Program.KeptBack
import FacetFilter.Proofs.Query.Defects
import FacetFilter.Proofs.Condition.Labels
import FacetFilter.Proofs.Condition.Narrowing
import FacetFilter.Proofs.Condition.Partition
import FacetFilter.Proofs.Plan.Threshold
import FacetFilter.Proofs.Plan.Chain
import FacetFilter.Proofs.Query.Exclusions
import FacetFilter.Proofs.Plan.Events
import FacetFilter.Proofs.Plan.Equality
import FacetFilter.Proofs.Query.Aliases
import FacetFilter.Proofs.Catalog.Views
