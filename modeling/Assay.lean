import Assay.Main
import Assay.Proofs.Context
import Assay.Proofs.Context.Reachable
import Assay.Proofs.Exec.Completion
import Assay.Proofs.Exec.Invariant
import Assay.Proofs.Path.Parting
import Assay.Proofs.Token.Scope
import Assay.Proofs.Token.Settled
import Assay.Proofs.Selector.Reading
import Assay.Proofs.Selector.Word
import Assay.Proofs.Selector.Course
import Assay.Proofs.Selector.Placement
import Assay.Proofs.Number.Whole
import Assay.Proofs.Query.Root
import Assay.Proofs.Query.Place
import Assay.Proofs.Case.Isolation
import Assay.Proofs.Result.Success
import Assay.Proofs.Exec.Agreement
import Assay.Proofs.Template.Frame
import Assay.Proofs.Template.Isolation
import Assay.Proofs.Exec.Mirror
import Assay.Proofs.Step.Observation
import Assay.Proofs.Assertion.Wording
import Assay.Proofs.Assertion.Masking
import Assay.Proofs.Json.Written
import Assay.Proofs.Report.Masking
import Assay.Proofs.Suite.Accounting
import Assay.Proofs.Exec.Approximation
import Assay.Proofs.Step.Ending
import Assay.Proofs.Log.Journal
import Assay.Proofs.Log.Conservation
import Assay.Proofs.Log.Fault
import Assay.Proofs.Suite.Turns
import Assay.Proofs.Suite.Parallel
import Assay.Proofs.Path.Writing
import Assay.Proofs.Each.Rounds
import Assay.Proofs.Path.Removal
import Assay.Proofs.Context.Tree
import Assay.Proofs.Each.Scope
import Assay.Proofs.Step.Faulting
import Assay.Proofs.Number.Order
import Assay.Proofs.Assertion.Comparison
import Assay.Proofs.Each.Wildcard
import Assay.Proofs.Loop.Outcome
import Assay.Proofs.Step.Halting
import Assay.Proofs.Assertion.Ordering
import Assay.Proofs.Assertion.Negation
import Assay.Proofs.Assertion.Equivalence
import Assay.Proofs.Template.Binding
import Assay.Proofs.Assertion.Parts
import Assay.Proofs.Http.Headers
import Assay.Proofs.Token.Splicing
import Assay.Proofs.Path.Reading
import Assay.Proofs.Token.Lone
import Assay.Proofs.Report.Table
import Assay.Proofs.Step.Error
import Assay.Proofs.Report.Bullets
import Assay.Proofs.Token.Nesting
import Assay.Proofs.Registry
import Assay.Proofs.Token.Octets
import Assay.Proofs.Path.Undoing
