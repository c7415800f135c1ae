import FieldRules.Inspect
import FieldRules.Main
import FieldRules.Workspace.Operation
import FieldRules.Proofs.Json.Fields
import FieldRules.Proofs.Messages.Writes
import FieldRules.Proofs.Messages.Entries
import FieldRules.Proofs.Messages.LastWrite
import FieldRules.Proofs.Messages.Normal
import FieldRules.Proofs.Messages.Loading
import FieldRules.Proofs.Rule.Shapes
import FieldRules.Proofs.Schema.Reports
import FieldRules.Proofs.Schema.OnePass
import FieldRules.Proofs.Schema.Rejection
import FieldRules.Proofs.Schema.Failures
import FieldRules.Proofs.Registry.Installations
import FieldRules.Proofs.Workspace.Calls
import FieldRules.Proofs.Workspace.Bindings
import FieldRules.Proofs.Workspace.Methods
import FieldRules.Proofs.Schema.Traces
import FieldRules.Proofs.Workspace.Assembly
import FieldRules.Proofs.Document.Locality
import FieldRules.Proofs.Schema.Outcomes
import FieldRules.Proofs.Decimal.Finite
import FieldRules.Proofs.Source.Records
import FieldRules.Proofs.Document.RoundTrip
import FieldRules.Proofs.Commons.Effects
import FieldRules.Proofs.Commons.Sharing
import FieldRules.Proofs.Commons.Refusals
import FieldRules.Proofs.Commons.Alike
import FieldRules.Proofs.Commons.Mirror
import FieldRules.Proofs.Commons.Separation
import FieldRules.Proofs.Commons.Influence
import FieldRules.Proofs.Coercion.Lists
import FieldRules.Proofs.Coercion.RadixDigits
import FieldRules.Proofs.Constraint.Integers
import FieldRules.Proofs.CommandLine.Check
import FieldRules.Proofs.Template.Pieces
import FieldRules.Proofs.Messages.Listing
import FieldRules.Proofs.Pattern.Meaning
import FieldRules.Proofs.Predicate.Address
import FieldRules.Proofs.Predicate.AddressPattern
import FieldRules.Proofs.Predicate.Email
import FieldRules.Proofs.Document.Overrides
import FieldRules.Proofs.Constraint.Messages
import FieldRules.Proofs.Workspace.Required
import FieldRules.Proofs.Messages.Laws
import FieldRules.Proofs.Messages.FlatForm
import FieldRules.Proofs.Schema.Permutations
import FieldRules.Proofs.Schema.Bounds
import FieldRules.Proofs.Constraint.Elements
import FieldRules.Proofs.Predicate.Password
import FieldRules.Proofs.Rule.WrittenForm
