import PhaseAssertions.Files.Tree
import PhaseAssertions.Main
import PhaseAssertions.Proofs.Composition
import PhaseAssertions.Proofs.Continuation
import PhaseAssertions.Proofs.Localisation
import PhaseAssertions.Proofs.RangeWindow
import PhaseAssertions.Proofs.SkippedLead
import PhaseAssertions.Proofs.Split
import PhaseAssertions.Proofs.Stutter
import PhaseAssertions.Window.Document
import PhaseAssertions.Proofs.Resolution
import PhaseAssertions.Proofs.Validation
import PhaseAssertions.Proofs.Assembly
import PhaseAssertions.Proofs.Application
import PhaseAssertions.Proofs.Lockstep
import PhaseAssertions.Proofs.Subsumption
import PhaseAssertions.Proofs.Repetition
import PhaseAssertions.Proofs.PhaseName
import PhaseAssertions.Proofs.Advisories
import PhaseAssertions.Proofs.Course
import PhaseAssertions.Proofs.Alternation
import PhaseAssertions.Proofs.Outline
import PhaseAssertions.Proofs.JsonTokens
import PhaseAssertions.Proofs.WrittenJson
import PhaseAssertions.Proofs.CheckOutcome
import PhaseAssertions.Proofs.Checksum
import PhaseAssertions.Proofs.TraceLoading
import PhaseAssertions.Proofs.ValidateOutcome
import PhaseAssertions.Proofs.Boundary
import PhaseAssertions.Proofs.Contents
import PhaseAssertions.Proofs.PhaseErrors
import PhaseAssertions.Proofs.Chronology
import PhaseAssertions.Proofs.IneffectiveFields
import PhaseAssertions.Proofs.RejectedPlans
import PhaseAssertions.Proofs.RepeatWarnings
import PhaseAssertions.Proofs.WrittenTime
import PhaseAssertions.Proofs.Suggestion
import PhaseAssertions.Proofs.SpelledTrace
import PhaseAssertions.Proofs.ShortCircuit
