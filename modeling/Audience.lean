import Audience.Main
import Audience.Proofs.Criterion.Acceptance
import Audience.Proofs.Criterion.Bounded
import Audience.Proofs.Criterion.Curtailed
import Audience.Proofs.Criterion.FieldNesting
import Audience.Proofs.Criterion.Meaning
import Audience.Proofs.Criterion.PresenceForms
import Audience.Proofs.Criterion.WellFormed
import Audience.Proofs.Duration.RoundTrip
import Audience.Proofs.Registry.Run
import Audience.Proofs.Rejection.Location
import Audience.Proofs.Verdict.Recency
import Audience.Proofs.Verdict.Relevance
import Audience.Proofs.Verdict.Events
import Audience.Proofs.Duration.Words
import Audience.Proofs.Verdict.Words
import Audience.Proofs.Calendar.Written
import Audience.Proofs.Json.Canonical
import Audience.Proofs.Subject.Texts
import Audience.Proofs.CommandLine.Arguments
import Audience.Proofs.CommandLine.Run
import Audience.Proofs.Duration.Longer
import Audience.Proofs.Duration.Milliseconds
import Audience.Proofs.Source.Chains
import Audience.Proofs.Verdict.Operators
import Audience.Proofs.Verdict.Presence
import Audience.Proofs.Literal.Shorthand
import Audience.Proofs.Verdict.Dates
import Audience.Proofs.Verdict.Integers
import Audience.Proofs.Verdict.Coordinates
import Audience.Proofs.Geo.Arc
