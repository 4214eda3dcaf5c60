import Abacus.Grammar.Reference
import Abacus.Grammar.Shift
import Abacus.Main
import Abacus.Proofs.Derivation
import Abacus.Proofs.Descent
import Abacus.Proofs.Recognition
import Abacus.Proofs.Progress
import Abacus.Proofs.Layout
import Abacus.Proofs.Renaming
import Abacus.Proofs.RoundTrip
import Abacus.Proofs.Meaning
import Abacus.Proofs.Spine
import Abacus.Proofs.Scanning
import Abacus.Proofs.Productions
import Abacus.Proofs.Shifting
import Abacus.Proofs.Engines
import Abacus.Proofs.Agreement
import Abacus.Proofs.Spacing
import Abacus.Proofs.Acceptance
import Abacus.Proofs.Typing
import Abacus.Proofs.Chains
import Abacus.Proofs.Containment
import Abacus.Proofs.Transcripts
import Abacus.Proofs.Isolation
import Abacus.Proofs.Partition
import Abacus.Proofs.Shape
import Abacus.Proofs.Stopping
import Abacus.Proofs.Mismatch
import Abacus.Proofs.Answers
import Abacus.Proofs.LineByLine
import Abacus.Proofs.Reentry
import Abacus.Proofs.Locality
import Abacus.Proofs.Course
import Abacus.Proofs.Nesting
import Abacus.Proofs.Exactness
import Abacus.Proofs.Tracing
import Abacus.Proofs.Load
import Abacus.Proofs.Viability
import Abacus.Proofs.Lines
import Abacus.Proofs.Congruence
import Abacus.Proofs.Reflow
import Abacus.Proofs.Turns
import Abacus.Proofs.Unambiguity
import Abacus.Proofs.Division
import Abacus.Proofs.Calls
import Abacus.Proofs.Exhaustion
import Abacus.Proofs.Indentation
