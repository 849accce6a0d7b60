import ShapeCheck.Main
import ShapeCheck.Proofs.AcyclicData
import ShapeCheck.Proofs.Changes
import ShapeCheck.Proofs.CyclicData
import ShapeCheck.Proofs.Guard
import ShapeCheck.Proofs.Lookups
import ShapeCheck.Proofs.Meaning
import ShapeCheck.Proofs.Trials
import ShapeCheck.Proofs.Unresolved
import ShapeCheck.Violation.Reading
import ShapeCheck.Proofs.Tandem
import ShapeCheck.Proofs.Determined
import ShapeCheck.Proofs.Inlining
import ShapeCheck.Proofs.Fields
import ShapeCheck.Proofs.Names
import ShapeCheck.Proofs.Independence
import ShapeCheck.Proofs.Leaving
import ShapeCheck.Proofs.Mutations
import ShapeCheck.Proofs.Prewarmed
import ShapeCheck.Proofs.Acceptance
import ShapeCheck.Proofs.Repeating
import ShapeCheck.Proofs.Idempotence
import ShapeCheck.Proofs.Rebuilding
import ShapeCheck.Proofs.Denoting
import ShapeCheck.Proofs.Refusals
import ShapeCheck.Proofs.Passing
import ShapeCheck.Proofs.Commands
import ShapeCheck.Proofs.LookupKeys
import ShapeCheck.Proofs.Headers
import ShapeCheck.Proofs.Locating
import ShapeCheck.Proofs.Stripping
import ShapeCheck.Proofs.Dependencies
import ShapeCheck.Proofs.Caching
import ShapeCheck.Proofs.Checking
import ShapeCheck.Proofs.JsonDocuments
import ShapeCheck.Proofs.Denials
import ShapeCheck.Proofs.Appending
import ShapeCheck.Proofs.Complements
import ShapeCheck.Proofs.Skipping
import ShapeCheck.Proofs.Saved
import ShapeCheck.Proofs.LastWord
import ShapeCheck.Proofs.TextForms
import ShapeCheck.Proofs.IntegerTexts
import ShapeCheck.Proofs.Implementations
import ShapeCheck.Proofs.Operands
