import PathQuery.Query.Agreement
import PathQuery.Query.Partial
import PathQuery.Evaluation.Basic
import PathQuery.Dependency
import PathQuery.Validation
import PathQuery.Typeahead.Printer
import PathQuery.Engine
import PathQuery.Main
import PathQuery.Proofs.Grammar.RoundTrip
import PathQuery.Proofs.Dependency.Soundness
import PathQuery.Proofs.Validation.Soundness
import PathQuery.Proofs.Cache.Refinement
import PathQuery.Codec.Standard
import PathQuery.Proofs.Engine.Transparency
import PathQuery.Proofs.Text.Fold
import PathQuery.Proofs.Validation.Required
import PathQuery.Proofs.Validation.Blocked
import PathQuery.Proofs.Decimal.Text
import PathQuery.Proofs.Grammar.Completion
import PathQuery.Proofs.Grammar.Expectation
import PathQuery.Proofs.Grammar.Refusal
import PathQuery.Proofs.Json.Lexing
import PathQuery.Proofs.Json.Members
import PathQuery.Proofs.Json.RoundTrip
import PathQuery.Proofs.Value.JsonText
import PathQuery.Proofs.Xml.Document
import PathQuery.Proofs.Validation.Mirror
import PathQuery.Proofs.Scan.Segmentation
import PathQuery.Proofs.Grammar.WellFormed
import PathQuery.Proofs.Evaluation.Bindings
import PathQuery.Proofs.Evaluation.Filters
import PathQuery.Proofs.Grammar.Spacing
import PathQuery.Proofs.Schema.Dependents
import PathQuery.Proofs.Catalog.Dispatch
import PathQuery.Proofs.Evaluation.Parameters
import PathQuery.Proofs.Validation.Route
import PathQuery.Proofs.Validation.Suggested
import PathQuery.Proofs.Validation.FieldPaths
import PathQuery.Proofs.Validation.Reached
import PathQuery.Proofs.Evaluation.Spelling
import PathQuery.Proofs.Evaluation.Mapless
import PathQuery.Proofs.Decimal.Exactness
import PathQuery.Proofs.Catalog.Arithmetic
import PathQuery.Proofs.Catalog.Slices
import PathQuery.Proofs.Validation.Texts
import PathQuery.Proofs.Scan.Quoting
import PathQuery.Proofs.Value.Insertion
import PathQuery.Proofs.Value.KeyOrder
import PathQuery.Proofs.Text.Caseless
import PathQuery.Proofs.Value.Lookup
import PathQuery.Proofs.Cache.Overflow
