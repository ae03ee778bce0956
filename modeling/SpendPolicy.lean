import SpendPolicy.LogLevel
import SpendPolicy.Proofs.Compilation.Dissatisfaction
import SpendPolicy.Proofs.Compilation.Malleability
import SpendPolicy.Proofs.Compilation.Order
import SpendPolicy.Proofs.Compilation.Reasons
import SpendPolicy.Proofs.Compilation.Refinement
import SpendPolicy.Proofs.Compilation.Rejection
import SpendPolicy.Proofs.Compilation.Signatures
import SpendPolicy.Proofs.Compilation.Substitution
import SpendPolicy.Proofs.Compilation.Timelocks
import SpendPolicy.Proofs.Compilation.Types
import SpendPolicy.Proofs.Config.Denotation
import SpendPolicy.Proofs.Descriptor.Detection
import SpendPolicy.Proofs.Descriptor.Setting
import SpendPolicy.Proofs.Key.Languages
import SpendPolicy.Proofs.Key.Versions
import SpendPolicy.Proofs.Policy.Language
import SpendPolicy.Proofs.Policy.Locality
import SpendPolicy.Proofs.Policy.Printing
import SpendPolicy.Proofs.Registry.Composition
import SpendPolicy.Proofs.Registry.Freshness
import SpendPolicy.Proofs.Registry.History
import SpendPolicy.Proofs.Registry.Names
import SpendPolicy.Proofs.Registry.Snapshots
import SpendPolicy.Proofs.Substitution.RoundTrip
import SpendPolicy.Proofs.Validation.Composition
import SpendPolicy.Proofs.Validation.Diagnostics
import SpendPolicy.Proofs.Validation.KeyBlindness
import SpendPolicy.Proofs.Validation.KeyGate
import SpendPolicy.Proofs.Validation.Patterns
import SpendPolicy.Proofs.Validation.Repetition
import SpendPolicy.Proofs.Validation.Shape
import SpendPolicy.Proofs.Validation.Spelling
import SpendPolicy.Registry
