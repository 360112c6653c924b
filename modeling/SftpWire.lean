import SftpWire.Main
import SftpWire.Stream.Source
import SftpWire.Stream.Sink
import SftpWire.Proofs.RoundTrip
import SftpWire.Proofs.Stream.WriteLimit
import SftpWire.Proofs.Stream.ReadLimit
import SftpWire.Proofs.Equality
import SftpWire.Proofs.Truncation
import SftpWire.Proofs.Outcomes
import SftpWire.Proofs.Extension.Registry
import SftpWire.Proofs.Stream.Slices
import SftpWire.Proofs.Packet.Extended
import SftpWire.Proofs.Packet.Size
import SftpWire.Proofs.Lengths
import SftpWire.Proofs.Packet.History
import SftpWire.Proofs.Attributes.Cells
import SftpWire.Proofs.Attributes.History
import SftpWire.Proofs.Packet.Deferred
import SftpWire.Proofs.Status.Passage
import SftpWire.Proofs.Surplus
import SftpWire.Proofs.Packet.Opening
import SftpWire.Proofs.Status.Comparison
import SftpWire.Proofs.Wire.Queue
import SftpWire.Proofs.Wire.Schema
import SftpWire.Proofs.Packet.Reply
import SftpWire.Proofs.Transcript
import SftpWire.Proofs.Settings
import SftpWire.Proofs.Text.Lossy
import SftpWire.Proofs.Text.Quoted
import SftpWire.Proofs.Attributes.FileMode
import SftpWire.Proofs.Packet.Counts
