import DataGate.Proofs.CheckedLoad
import DataGate.Proofs.Digests
import DataGate.Proofs.Independence
import DataGate.Proofs.Insensitivity
import DataGate.Proofs.LineBreaks
import DataGate.Proofs.Monotonicity
import DataGate.Proofs.Normalization
import DataGate.Proofs.ReplayedVerdict
import DataGate.Proofs.RoundTrip
import DataGate.Proofs.RunningGrant
import DataGate.Proofs.TimeRange
import DataGate.Proofs.Traces
