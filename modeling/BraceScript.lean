import BraceScript.Engine
import BraceScript.Proofs.Run.Isolation
import BraceScript.Proofs.Scope.Leads
import BraceScript.Proofs.Source.Nesting
import BraceScript.Proofs.Run.Course
import BraceScript.Proofs.Run.Conduct
import BraceScript.Proofs.Run.Handlers
import BraceScript.Proofs.Run.Evaluation
import BraceScript.Proofs.Run.Moves
import BraceScript.Proofs.Run.Finality
import BraceScript.Proofs.Run.Ending
import BraceScript.Proofs.Run.Ceilings
import BraceScript.Proofs.Run.Coupling
import BraceScript.Proofs.Run.Locality
import BraceScript.Proofs.Run.Pairing
import BraceScript.Proofs.Run.Monotonicity
import BraceScript.Proofs.Run.Resemblance
import BraceScript.Proofs.Run.Yielding
import BraceScript.Proofs.Run.Cancellation
import BraceScript.Proofs.Run.Calls
import BraceScript.Proofs.Run.Interception
import BraceScript.Proofs.Source.Depth
import BraceScript.Proofs.Source.Printing
import BraceScript.Proofs.Source.Excerpts
import BraceScript.Proofs.Run.Questions
import BraceScript.Proofs.Run.Derivation
import BraceScript.Proofs.Run.Provenance
import BraceScript.Proofs.Run.Repertoire
import BraceScript.Proofs.Run.Termination
import BraceScript.Proofs.Run.Accounting
import BraceScript.Proofs.Call.Distribution
import BraceScript.Proofs.Registry
import BraceScript.Proofs.Run.Selection
import BraceScript.Proofs.Run.Swapping
import BraceScript.Proofs.Run.Inertness
import BraceScript.Proofs.Scope.Resolution
import BraceScript.Proofs.Call.Acceptance
import BraceScript.Proofs.Call.Mismatch
import BraceScript.Proofs.Call.Patterns
import BraceScript.Proofs.Run.Cells
import BraceScript.Proofs.Run.BoundCall
import BraceScript.Proofs.Run.Strictness
import BraceScript.Proofs.Run.Restoration
import BraceScript.Proofs.Run.Unrolling
import BraceScript.Proofs.Number.Integers
import BraceScript.Proofs.Regex.Replacement
import BraceScript.Proofs.Run.Arrays
import BraceScript.Proofs.Run.EagerCalls
import BraceScript.Proofs.Run.FunctionNames
import BraceScript.Proofs.Json.Exact
import BraceScript.Proofs.Json.RoundTrip
import BraceScript.Proofs.Run.Places
import BraceScript.Proofs.Run.Room
import BraceScript.Proofs.Run.Escapes
import BraceScript.Proofs.Source.Enclosure
import BraceScript.Proofs.Run.Quotation
import BraceScript.Proofs.Run.Variables
import BraceScript.Proofs.Run.Meters
import BraceScript.Proofs.Run.Recounting
import BraceScript.Proofs.Run.ArrayTexts
import BraceScript.Proofs.Listing
import BraceScript.Proofs.Call.Minima
import BraceScript.Proofs.Source.Balance
import BraceScript.Proofs.Source.Lines
