import HostNet.Error
import HostNet.Host.Run
import HostNet.Packet.Operation
import HostNet.Packet.Window
import HostNet.Proofs.Inbound
import HostNet.Proofs.Observation
import HostNet.Proofs.Outbound
import HostNet.Proofs.Sending
import HostNet.Proofs.Packet.Arithmetic
import HostNet.Proofs.Packet.Parts
import HostNet.Proofs.Faults
import HostNet.Proofs.Checksum
import HostNet.Proofs.RunningSums
import HostNet.Proofs.Fragmentation
import HostNet.Proofs.Delivery
import HostNet.Proofs.Steps
import HostNet.Proofs.Strides
import HostNet.Proofs.Moves
import HostNet.Proofs.Resolution.Exchange
import HostNet.Proofs.Resolution.Net
import HostNet.Proofs.Acceptance
import HostNet.Proofs.Storms.Weight
import HostNet.Proofs.Storms.Answer
import HostNet.Proofs.Storms.Crossed
import HostNet.Proofs.Resolution.History
import HostNet.Proofs.Resolution.Waiting
import HostNet.Proofs.Rejection
import HostNet.Proofs.Identification.Numbering
import HostNet.Proofs.Identification.Runs
import HostNet.Proofs.Resolution.Listing
import HostNet.Proofs.Resolution.Requests
import HostNet.Proofs.Ports.Calls
import HostNet.Proofs.Ports.Reentry
import HostNet.Proofs.Scripts
import HostNet.Proofs.WellFormed.Frames
import HostNet.Proofs.WellFormed.Runs
import HostNet.Proofs.Likeness.Relation
import HostNet.Proofs.Likeness.Sending
import HostNet.Proofs.Likeness.Receiving
import HostNet.Proofs.Likeness.Runs
import HostNet.Proofs.Likeness.Windows
import HostNet.Proofs.Likeness.Trailers
import HostNet.Proofs.Expiry
import HostNet.Proofs.Simulation.Sending
import HostNet.Proofs.Simulation.Runs
import HostNet.Proofs.Failures
import HostNet.Proofs.Quoting
import HostNet.Proofs.Echo
import HostNet.Proofs.Corruption
import HostNet.Proofs.Segments
import HostNet.Proofs.Retention
import HostNet.Proofs.Polling
import HostNet.Proofs.Packet.Stripping
import HostNet.Proofs.Codecs
import HostNet.Proofs.AddressText
import HostNet.Proofs.AddressText
