import CaptureProtocol.CommandLine.Report
import CaptureProtocol.Main
import CaptureProtocol.Ring.Basic
import CaptureProtocol.Proofs.Ring.Run
import CaptureProtocol.Proofs.Ring.SingleWriter
import CaptureProtocol.Proofs.Ring.SequenceWindow
import CaptureProtocol.Proofs.Ring.Session
import CaptureProtocol.Proofs.Ring.Ownership
import CaptureProtocol.Proofs.Request.Slot
import CaptureProtocol.Proofs.Ring.Delivery
import CaptureProtocol.Proofs.Ring.Reset
import CaptureProtocol.Proofs.Ring.CompletionOrder
import CaptureProtocol.Proofs.Channel.RoundTrip
import CaptureProtocol.Proofs.Request.RoundTrip
import CaptureProtocol.Proofs.Outcome.WordBits
import CaptureProtocol.Proofs.Outcome.NotifyWord
import CaptureProtocol.Proofs.Outcome.BitNames
import CaptureProtocol.Proofs.Outcome.Diagnostics
import CaptureProtocol.Proofs.Outcome.Verdict
import CaptureProtocol.Proofs.Isp.Descriptor
import CaptureProtocol.Proofs.Isp.Program
import CaptureProtocol.Proofs.Isp.Channel
import CaptureProtocol.Proofs.Decoding.Cursor
import CaptureProtocol.Proofs.Decoding.Decoders
import CaptureProtocol.Proofs.Ring.Faults
import CaptureProtocol.Proofs.Ring.Submission
import CaptureProtocol.Proofs.Ring.Capacity
import CaptureProtocol.Proofs.Channel.Canonical
import CaptureProtocol.Proofs.Ring.Atomicity
import CaptureProtocol.Proofs.Ring.Mismatch
import CaptureProtocol.Proofs.Record.Field
import CaptureProtocol.Proofs.Channel.Acceptance
import CaptureProtocol.Proofs.Channel.AddressSpace
import CaptureProtocol.Proofs.Request.Acceptance
import CaptureProtocol.Proofs.Request.Canonical
import CaptureProtocol.Proofs.Request.Status
import CaptureProtocol.Proofs.Request.MemoryInfo
import CaptureProtocol.Proofs.Isp.Refusal
import CaptureProtocol.Proofs.Decoding.Lengths
import CaptureProtocol.Proofs.Isp.Acceptance
import CaptureProtocol.Proofs.Csi.Names
import CaptureProtocol.Proofs.Isp.Placement
import CaptureProtocol.Proofs.CommandLine.RingDump
import CaptureProtocol.Proofs.Outcome.Partition
import CaptureProtocol.Proofs.CommandLine.Number
import CaptureProtocol.Proofs.Outcome.Messages
import CaptureProtocol.Proofs.Isp.PlacementSteps
