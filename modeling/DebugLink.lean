import DebugLink.Document.Decode
import DebugLink.Proofs.Bookkeeping
import DebugLink.Proofs.Conservation
import DebugLink.Proofs.Debuggee
import DebugLink.Proofs.Fanout
import DebugLink.Proofs.Freshness
import DebugLink.Proofs.Holding
import DebugLink.Proofs.Identity
import DebugLink.Proofs.Independence
import DebugLink.Proofs.Recurrence
import DebugLink.Proofs.Outcomes
import DebugLink.Proofs.Watermarks
import DebugLink.Session
import DebugLink.Stream.Handshake
import DebugLink.Proofs.Codec
import DebugLink.Proofs.Framing
import DebugLink.Proofs.Transit
import DebugLink.Proofs.Grammar
import DebugLink.Proofs.Composite
import DebugLink.Proofs.Idleness
import DebugLink.Proofs.Decoding
import DebugLink.Proofs.Hysteresis
import DebugLink.Proofs.Coalescing
import DebugLink.Proofs.Flushing
import DebugLink.Proofs.Items
import DebugLink.Proofs.Probes
import DebugLink.Proofs.Latency
import DebugLink.Proofs.Reentry
import DebugLink.Proofs.Locking
import DebugLink.Proofs.Workshop
