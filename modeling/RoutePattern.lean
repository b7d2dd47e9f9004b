import RoutePattern.Options.Text
import RoutePattern.Proofs.Pattern.Acceptance
import RoutePattern.Proofs.Kind
import RoutePattern.Proofs.Path.Compilation
import RoutePattern.Proofs.Path.Isolation
import RoutePattern.Proofs.Path.Literals
import RoutePattern.Proofs.Query.Course
import RoutePattern.Proofs.Query.Bounds
import RoutePattern.Proofs.Query.Memory
import RoutePattern.Proofs.Router.Scan
import RoutePattern.Proofs.Router.Coherence
import RoutePattern.Proofs.Router.Failure
import RoutePattern.Proofs.Router.Naming
import RoutePattern.Proofs.Router.Passage
import RoutePattern.Proofs.Build.Acceptance
import RoutePattern.Proofs.Build.Tiers
import RoutePattern.Proofs.Build.Segments
import RoutePattern.Proofs.Build.Kinds
import RoutePattern.Proofs.Build.Separation
import RoutePattern.Proofs.Bindings.Descent
import RoutePattern.Proofs.Bindings.Overlay
import RoutePattern.Proofs.Bindings.Assigning
import RoutePattern.Proofs.Bindings.Gathering
import RoutePattern.Proofs.Query.Lone
import RoutePattern.Proofs.Rule.Arguments
import RoutePattern.Proofs.Rule.Declared
import RoutePattern.Proofs.Rule.Absence
import RoutePattern.Proofs.Text.Stages
import RoutePattern.Proofs.Rule.Registered
import RoutePattern.Proofs.Rule.Choices
import RoutePattern.Proofs.Rule.Relaxation
import RoutePattern.Proofs.Pattern.Faults
import RoutePattern.Proofs.Pattern.Normal
import RoutePattern.Proofs.Path.Casing
import RoutePattern.Proofs.Query.Choices
