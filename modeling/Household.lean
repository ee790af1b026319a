import Household.Text.Space
import Household.Text.Property.Alphabetic
import Household.Text.Property.CaseIgnorable
import Household.Text.Property.Cased
import Household.Text.Property.Hidden
import Household.Text.Property.LowerForm
import Household.Text.Property.Numeric
import Household.Text.Property.UpperForm
import Household.Text.Property.Uppercase
import Household.Clock.Date
import Household.Clock.Pattern
import Household.Command.Answer
import Household.Command.Line
import Household.Command.Validate
import Household.Command.Watch
import Household.Layer.Home
import Household.Main
import Household.Watch.Lookout
import Household.Watch.Service
import Household.Proofs.Condition.Rendering
import Household.Proofs.Layer.Acceptance
import Household.Proofs.Profile.Fields
import Household.Proofs.Reply.Hiding
import Household.Proofs.Resolution.LastMention
import Household.Proofs.Resolution.Undecided
import Household.Proofs.Watch.Debounce
import Household.Proofs.Condition.Evaluation
import Household.Proofs.Resolution.Locality
import Household.Proofs.Watch.Delivery
import Household.Proofs.Setting.Ordering
import Household.Proofs.Profile.Treatment
import Household.Proofs.Profile.Conversion
import Household.Proofs.Decimal.Finite
import Household.Proofs.Setting.JsonRoundTrip
import Household.Proofs.Reply.Cutting
import Household.Proofs.Reply.Avoiding
import Household.Proofs.Watch.Reloading
import Household.Proofs.Reply.Mentioning
import Household.Proofs.Reply.Settling
import Household.Proofs.Condition.Faults
import Household.Proofs.Layer.Offenders
import Household.Proofs.Reply.Capitals
import Household.Proofs.Layer.Activation
import Household.Proofs.Profile.Permissions
import Household.Proofs.Resolution.Identifiers
import Household.Proofs.Condition.Bounds
