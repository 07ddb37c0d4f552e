import WikiQuery.Text.Blank
import WikiQuery.Text.Pieces
import WikiQuery.Text.Quoted
import WikiQuery.Text.Percent
import WikiQuery.Number.DecimalText
import WikiQuery.Number.Reading
import WikiQuery.Literal
import WikiQuery.Json.Reading
import WikiQuery.Calendar.Reading
import WikiQuery.Sql.Render
import WikiQuery.Error
import WikiQuery.Lowering
import WikiQuery.Provider
import WikiQuery.Response
import WikiQuery.Wiki
import WikiQuery.Proofs.Sample
import WikiQuery.Proofs.Steps
import WikiQuery.Proofs.TypingRules
import WikiQuery.Proofs.Derivation
import WikiQuery.Proofs.Navigation
import WikiQuery.Proofs.LiteralText
import WikiQuery.Proofs.Shape
import WikiQuery.Proofs.Clauses
import WikiQuery.Proofs.Reachable
import WikiQuery.Proofs.Stability
import WikiQuery.Proofs.ScopeSteps
import WikiQuery.Proofs.Forest
import WikiQuery.Proofs.Acceptance
import WikiQuery.Proofs.Windows
import WikiQuery.Proofs.Paging
import WikiQuery.Proofs.Agreement
import WikiQuery.Proofs.StringLiterals
import WikiQuery.Proofs.Rendering
import WikiQuery.Proofs.Blanking
import WikiQuery.Proofs.Identifiers
import WikiQuery.Proofs.Injection
import WikiQuery.Proofs.Evaluation
import WikiQuery.Proofs.Preservation
import WikiQuery.Proofs.Grammar
import WikiQuery.Proofs.Readability
import WikiQuery.Proofs.OutputNames
import WikiQuery.Proofs.Phrases
import WikiQuery.Proofs.Comments
import WikiQuery.Proofs.Parameters
import WikiQuery.Proofs.ClauseItems
import WikiQuery.Proofs.Commutation
import WikiQuery.Proofs.DeclarationOrder
import WikiQuery.Proofs.ClassSoundness
import WikiQuery.Proofs.Walks
import WikiQuery.Proofs.RelationJoins
import WikiQuery.Proofs.Accumulation
import WikiQuery.Proofs.Patterns
import WikiQuery.Proofs.Connectivity
import WikiQuery.Proofs.Quoting
import WikiQuery.Proofs.Tiling
import WikiQuery.Proofs.Aggregates
import WikiQuery.Proofs.Paths
import WikiQuery.Proofs.Bracketing
import WikiQuery.Proofs.ListMembership
import WikiQuery.Proofs.NullOperands
import WikiQuery.Proofs.Replacement
import WikiQuery.Proofs.QueryStrings
import WikiQuery.Proofs.ListCells
import WikiQuery.Proofs.FreshLabels
