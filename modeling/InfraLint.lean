import InfraLint.Main
import InfraLint.Proofs.RuleEnding
import InfraLint.Proofs.Independence
import InfraLint.Proofs.Severity
import InfraLint.Proofs.Failure
import InfraLint.Proofs.Questions
import InfraLint.Proofs.Books
import InfraLint.Proofs.Isolation
import InfraLint.Proofs.Depth
import InfraLint.Proofs.Loading
import InfraLint.Proofs.Reading
import InfraLint.Proofs.SourceOrder
import InfraLint.Proofs.IssueOrder
import InfraLint.Proofs.Bindings
import InfraLint.Proofs.Calls
import InfraLint.Proofs.Ignoring
import InfraLint.Proofs.ModuleNames
import InfraLint.Proofs.Responses
import InfraLint.Proofs.GroupNames
import InfraLint.Proofs.Requests
import InfraLint.Proofs.Citations
import InfraLint.Proofs.Lifecycle
import InfraLint.Proofs.Refusals
import InfraLint.Proofs.Waiving
import InfraLint.Proofs.Overrides
import InfraLint.Proofs.Listing
import InfraLint.Proofs.Nodes
import InfraLint.Proofs.Places
import InfraLint.Proofs.NamedLocals
import InfraLint.Proofs.Locals
import InfraLint.Proofs.Duplicates
import InfraLint.Proofs.LoadErrors
import InfraLint.Proofs.ExitCodes
import InfraLint.Proofs.Acceptance
import InfraLint.Proofs.ListForms
import InfraLint.Proofs.Occurrences
import InfraLint.Proofs.Records
import InfraLint.Proofs.Reordering
import InfraLint.Proofs.WaiverLists
import InfraLint.Proofs.Descents
import InfraLint.Proofs.NullFree
import InfraLint.Proofs.RouteTargets
import InfraLint.Proofs.KnownText
import InfraLint.Proofs.PlainTemplates
import InfraLint.Proofs.ValueTexts
import InfraLint.Proofs.InputNames
import InfraLint.Proofs.Passwords
import InfraLint.Proofs.FirstOccurrences
import InfraLint.Proofs.ListFlags
import InfraLint.Proofs.RegistrationOrder
import InfraLint.Proofs.Lexemes
import InfraLint.Proofs.WaiverPlaces
import InfraLint.Proofs.Paths
