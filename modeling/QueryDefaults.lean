import QueryDefaults.GraphQLError
import QueryDefaults.Literal.Conformance
import QueryDefaults.Node.Native
import QueryDefaults.Node.Print
import QueryDefaults.Node.Visit
import QueryDefaults.Session.Request
import QueryDefaults.Types.Reference
import QueryDefaults.Types.Registry
import QueryDefaults.Validation.Document
import QueryDefaults.Value.Change
import QueryDefaults.Value.Inspect
import QueryDefaults.Version
import QueryDefaults.Proofs.Conforms
import QueryDefaults.Proofs.Declared
import QueryDefaults.Proofs.Defects
import QueryDefaults.Proofs.Details
import QueryDefaults.Proofs.Diagnoses
import QueryDefaults.Proofs.Extended
import QueryDefaults.Proofs.FirstFailure
import QueryDefaults.Proofs.Formatted
import QueryDefaults.Proofs.Hashing
import QueryDefaults.Proofs.Limited
import QueryDefaults.Proofs.Parts
import QueryDefaults.Proofs.Rearranged
import QueryDefaults.Proofs.Relaxed
import QueryDefaults.Proofs.Returns
import QueryDefaults.Proofs.Stepwise
import QueryDefaults.Proofs.Trail
import QueryDefaults.Proofs.Traversal
import QueryDefaults.Proofs.Printed
import QueryDefaults.Proofs.Coerced
import QueryDefaults.Proofs.Sinks
import QueryDefaults.Proofs.Notation
import QueryDefaults.Proofs.Spelled
import QueryDefaults.Proofs.Variables
import QueryDefaults.Proofs.SmallIntegers
import QueryDefaults.Proofs.Located
import QueryDefaults.Proofs.Resolved
import QueryDefaults.Proofs.Apart
import QueryDefaults.Proofs.Words
import QueryDefaults.Proofs.Handlers
import QueryDefaults.Proofs.Inherited
import QueryDefaults.Proofs.Elided
import QueryDefaults.Proofs.Versions
import QueryDefaults.Proofs.Lasting
import QueryDefaults.Proofs.Names
