import DateRules.Config
import DateRules.Proofs.Criteria.Staleness
import DateRules.Proofs.Criteria.Transparency
import DateRules.Proofs.Operand.Acceptance
import DateRules.Proofs.Criteria.Refresh
import DateRules.Proofs.Criteria.WellFormed
import DateRules.Proofs.Criteria.Deferral
import DateRules.Proofs.Criteria.FailedAddition
import DateRules.Proofs.Text.LetterCase
import DateRules.Proofs.Operand.Characters
import DateRules.Proofs.Constraint.Identity
import DateRules.Proofs.Criteria.RefreshOutcome
import DateRules.Proofs.Rule.CanonicalText
import DateRules.Proofs.Criteria.History
import DateRules.Proofs.Criteria.Opposite
import DateRules.Proofs.Rule.Conjunction
import DateRules.Proofs.Criteria.Arrangement
import DateRules.Proofs.Criteria.Batches
import DateRules.Proofs.Criteria.Growth
import DateRules.Proofs.Calendar.Shift
import DateRules.Proofs.Criteria.Range
import DateRules.Proofs.Criteria.DecidingValue
import DateRules.Proofs.Operand.Terms
import DateRules.Proofs.Rule.Failure
import DateRules.Proofs.Spelling
import DateRules.Proofs.Constraint.Order
import DateRules.Proofs.Suggestion
import DateRules.Proofs.Calendars
import DateRules.Proofs.WrittenDate
