import OperationSamples.Artifact.Document
import OperationSamples.Artifact.RawExpression
import OperationSamples.Artifact.Registry
import OperationSamples.Artifact.Run
import OperationSamples.Config.Check
import OperationSamples.Config.Yaml
import OperationSamples.Json.Reader
import OperationSamples.Main
import OperationSamples.Schema.Build
import OperationSamples.Schema.Issues
import OperationSamples.Selection.Outline
import OperationSamples.Proofs.Emission
import OperationSamples.Proofs.Filing
import OperationSamples.Proofs.Naming
import OperationSamples.Proofs.VisitTree
import OperationSamples.Proofs.World
import OperationSamples.Proofs.Visit
import OperationSamples.Proofs.Variants
import OperationSamples.Proofs.Generation
import OperationSamples.Proofs.Order
import OperationSamples.Proofs.Places
import OperationSamples.Proofs.Materialize
import OperationSamples.Proofs.Collisions
import OperationSamples.Proofs.Applicability
import OperationSamples.Proofs.Collection
import OperationSamples.Proofs.MemberConditions
import OperationSamples.Proofs.Agreement
import OperationSamples.Proofs.Splitting
import OperationSamples.Proofs.Unfolding
import OperationSamples.Proofs.Lockstep
import OperationSamples.Proofs.Recalling
import OperationSamples.Proofs.Independence
import OperationSamples.Proofs.Completion
import OperationSamples.Proofs.Merging
import OperationSamples.Proofs.Spreads
import OperationSamples.Proofs.Subtypes
import OperationSamples.Proofs.Replacing
import OperationSamples.Proofs.Ways
import OperationSamples.Proofs.Extraction
import OperationSamples.Proofs.Depth
import OperationSamples.Proofs.Draws
import OperationSamples.Proofs.Faults
import OperationSamples.Proofs.FixedField
import OperationSamples.Proofs.NormalForm
import OperationSamples.Proofs.Composition
import OperationSamples.Proofs.Nesting
import OperationSamples.Proofs.Grouping
import OperationSamples.Proofs.Occurrences
import OperationSamples.Proofs.Formats
import OperationSamples.Proofs.Spelling
import OperationSamples.Proofs.Identifiers
import OperationSamples.Proofs.Expressions
import OperationSamples.Proofs.FileSearch
import OperationSamples.Proofs.Respelling
import OperationSamples.Proofs.SnakeCase
import OperationSamples.Proofs.Substitution
import OperationSamples.Proofs.JsonForms
