import Rubric.Main
import Rubric.Session
import Rubric.Proofs.Store
import Rubric.Proofs.Aggregate
import Rubric.Proofs.Execution
import Rubric.Proofs.ItemOutcome
import Rubric.Proofs.Totals.Category
import Rubric.Proofs.Totals.Collision
import Rubric.Proofs.Branching
import Rubric.Proofs.Frame
import Rubric.Proofs.Rescoring
import Rubric.Proofs.Totals.Extension
import Rubric.Proofs.Commutation
import Rubric.Proofs.Relevance
import Rubric.Proofs.Dialects
import Rubric.Proofs.BranchCap
import Rubric.Proofs.Lookups
import Rubric.Proofs.Responses
import Rubric.Proofs.Reordering
import Rubric.Proofs.Courses
import Rubric.Proofs.UnitFactor
import Rubric.Proofs.Totals.Weight
import Rubric.Proofs.OutcomeKeys
import Rubric.Proofs.Totals.Presence
import Rubric.Proofs.Shapes
import Rubric.Proofs.KeyedStore
import Rubric.Proofs.Validation
import Rubric.Proofs.Traversal
import Rubric.Proofs.UnitInterval
import Rubric.Proofs.NormalizedScore
import Rubric.Proofs.Decoding
import Rubric.Proofs.JsonText
import Rubric.Proofs.SavedResults
import Rubric.Proofs.Matching
import Rubric.Proofs.CorrectResponse
import Rubric.Proofs.Reshaping
import Rubric.Proofs.LowerCase
import Rubric.Proofs.RelaxedCase
import Rubric.Proofs.DecimalText
import Rubric.Proofs.FloatText
import Rubric.Proofs.TypedEquality
import Rubric.Proofs.Totals.Preparation
import Rubric.Proofs.Flattening
import Rubric.Proofs.Overflow
import Rubric.Proofs.Equivalence
import Rubric.Proofs.Tags
import Rubric.Proofs.Registrations
import Rubric.Proofs.Summary
import Rubric.Proofs.Spacing
import Rubric.Proofs.NumberText
