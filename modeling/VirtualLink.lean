import VirtualLink.CountedList
import VirtualLink.Interface.Ownership
import VirtualLink.Interface.Traffic
import VirtualLink.Workbench
import VirtualLink.Config.Review
import VirtualLink.Config.Document
import VirtualLink.HexDump
import VirtualLink.LogFilter
import VirtualLink.Proofs.Session
import VirtualLink.Proofs.Restoring
import VirtualLink.Proofs.Lasting
import VirtualLink.Proofs.Delivery
import VirtualLink.Proofs.Created
import VirtualLink.Proofs.Custody
import VirtualLink.Proofs.Transcript
import VirtualLink.Proofs.Incarnations
import VirtualLink.Proofs.Counting
import VirtualLink.Proofs.MemoryLink.TearDown
import VirtualLink.Proofs.Returning
import VirtualLink.Proofs.Borrowing
import VirtualLink.Proofs.Lowering
import VirtualLink.Proofs.Retrying
import VirtualLink.Proofs.Sequencing
import VirtualLink.Proofs.Reading
import VirtualLink.Proofs.Registry
import VirtualLink.Proofs.Reviewing
import VirtualLink.Proofs.Numbering
import VirtualLink.Proofs.Enduring
import VirtualLink.Proofs.Accounting
import VirtualLink.Proofs.Idle
import VirtualLink.Proofs.Transmission
import VirtualLink.Proofs.Adopting
import VirtualLink.Proofs.Written
import VirtualLink.Proofs.Summing
import VirtualLink.Proofs.Wire
import VirtualLink.Proofs.Neighbours
import VirtualLink.Proofs.Kernel.Descriptors
import VirtualLink.Proofs.Kernel.Flushing
import VirtualLink.Proofs.Kernel.Openings
import VirtualLink.Proofs.Listing
import VirtualLink.Proofs.Configuring
import VirtualLink.Proofs.LastLook
import VirtualLink.Proofs.Netmasks
import VirtualLink.Proofs.Decoding
import VirtualLink.Proofs.Grouping
import VirtualLink.Proofs.Dumping
import VirtualLink.Proofs.Naming
import VirtualLink.Proofs.Framing
