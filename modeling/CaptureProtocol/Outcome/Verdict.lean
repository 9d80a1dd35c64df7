import CaptureProtocol.Log
import CaptureProtocol.Outcome.CaptureStatus
import CaptureProtocol.Outcome.Notify

/-!
# Verdicts on frames

The status code and the notify bits are judged together: a frame is good when its code is `success`
and each notify bit is known to be harmless. Bits that the catalogue does not have count against the
frame. Receiver errors and the state of the channel are listed and do not count. A corrupted frame
is also told to the log.
-/

set_option autoImplicit false

namespace CaptureProtocol

/-- What may be done with a frame. -/
inductive Verdict where
  /-- The frame can be used. -/
  | good
  /-- Pixel data may be lost or damaged. -/
  | corrupted
  /-- The capture has not finished. -/
  | unknown
  deriving DecidableEq, Repr

namespace Verdict

/-- The name of a verdict in reports. -/
def name : Verdict → String
  | good => "FrameGood"
  | corrupted => "FrameCorrupted"
  | unknown => "FrameUnknown"

end Verdict

/-- One finding about a frame. -/
inductive Diagnostic where
  /-- A final code other than `success`. -/
  | status (code : StatusCode)
  /-- A catalogued notify bit. -/
  | notify (bit : NotifyBit)
  /-- Notify bits that the catalogue does not have. -/
  | unknownNotify (bits : UInt64)
  /-- The channel went into the error state. -/
  | channelInError
  /-- An error of the receiver. -/
  | receiver (error : ReceiverError)
  deriving DecidableEq, Repr

namespace Diagnostic

/-- Whether the finding alone makes the frame unusable. -/
def isCorrupting : Diagnostic → Bool
  | status _ | unknownNotify _ => true
  | notify bit => bit.isCorrupting
  | channelInError | receiver _ => false

/-- The finding as text. -/
def message : Diagnostic → String
  | status code => s!"status {code.name}"
  | notify bit => bit.name
  | unknownNotify bits => s!"unrecognised notify bits {Text.hexPadded 16 bits.toNat}"
  | channelInError => "channel in error"
  | receiver (.named block name) => s!"nvcsi {block.name}: {name}"
  | receiver (.unnamed block bits) =>
    s!"nvcsi {block.name}: unrecognised bits {Text.hexPadded 8 bits.toNat}"

end Diagnostic

/--
A verdict and what led to it: the code, then the notify bits, then findings that do not count.
-/
@[ext] structure Classification where
  verdict : Verdict
  diagnostics : List Diagnostic
  channelInError : Bool
  deriving DecidableEq, Repr

namespace Classification

/-- Whether the frame can be used. -/
def isGood (c : Classification) : Bool := c.verdict == .good

/-- The classification of a capture that has not finished. -/
def unknown : Classification := ⟨.unknown, [], false⟩

end Classification

/-- The finding about a final code, if it is not `success`. -/
def StatusCode.diagnostics (code : StatusCode) : List Diagnostic :=
  if code = .success then [] else [.status code]

/-- The findings about a notify word: its catalogued bits, lowest first, and then the others. -/
def NotifyBit.diagnostics (notifyBits : UInt64) : List Diagnostic :=
  let leftover := notifyBits &&& ~~~NotifyBit.knownMask
  (NotifyBit.ofWord notifyBits).map .notify ++
    if leftover = 0 then [] else [.unknownNotify leftover]

/-- The verdict on a status code and a notify word. -/
def classify (code : StatusCode) (notifyBits : UInt64) : Classification :=
  if code.isFinal then
    let diagnostics := code.diagnostics ++ NotifyBit.diagnostics notifyBits
    ⟨if diagnostics.any Diagnostic.isCorrupting then .corrupted else .good, diagnostics, false⟩
  else .unknown

/-- The verdict on the number of a status code and a notify word. -/
def classifyRaw (raw : UInt32) (notifyBits : UInt64) : Except CaptureError Classification :=
  match StatusCode.ofRaw? raw with
  | some code => .ok (classify code notifyBits)
  | none => .error (.invalidStatusCode "capture_status" raw)

namespace CaptureStatus

/-- The findings of a status that do not count: the state of the channel and receiver errors. -/
def advisories (status : CaptureStatus) : List Diagnostic :=
  (if status.channelInError then [.channelInError] else []) ++
    status.receiver.errors.map .receiver

/-- The verdict on a whole status. -/
def classify (status : CaptureStatus) : Classification :=
  let c := CaptureProtocol.classify status.code status.notifyBits
  if status.isFinal then
    ⟨c.verdict, c.diagnostics ++ status.advisories, status.channelInError⟩
  else c

/-- What judging a status tells the log: that its frame is corrupted, and what spoils it. -/
def events (status : CaptureStatus) : List LogEvent :=
  let c := status.classify
  if c.verdict = .corrupted then
    let reasons := (c.diagnostics.filter Diagnostic.isCorrupting).map Diagnostic.message
    [{ level := .warn
       target := "camrtc_capture::classify"
       message := "frame corrupted: " ++ ", ".intercalate reasons
       fields := [("frame_id", toString status.frameId.toNat),
         ("channel_in_error", toString c.channelInError)] }]
  else []

end CaptureStatus

end CaptureProtocol
