import CaptureProtocol.Outcome.Receiver
import CaptureProtocol.Outcome.StatusCode
import CaptureProtocol.Record.Decode

/-!
# Capture status

What the coprocessor reports about one capture. While the code is `unknown` the capture has not
finished and the other fields mean nothing.

* `ofWords_words`, `words_of_ofWords`: a status and the words of its record determine each other.
* `decode_encode_append`: a written status is read back.
-/

set_option autoImplicit false

namespace CaptureProtocol

/-- The report on one capture. -/
@[ext] structure CaptureStatus where
  stream : UInt8 := 0
  virtualChannel : UInt8 := 0
  frameId : UInt16 := 0
  code : StatusCode := .unknown
  /-- Start of frame in nanoseconds. -/
  startTime : UInt64 := 0
  /-- End of frame in nanoseconds. -/
  endTime : UInt64 := 0
  errorData : UInt32 := 0
  flags : FlagSet .status := .empty
  notifyBits : UInt64 := 0
  receiver : ReceiverStatus := {}
  deriving DecidableEq, Repr, Inhabited

namespace CaptureStatus

/-- Whether the coprocessor has finished the capture. -/
def isFinal (status : CaptureStatus) : Bool := status.code.isFinal

/-- Whether the channel hit an error that only a reset clears. -/
def channelInError (status : CaptureStatus) : Bool :=
  status.flags.contains StatusFlags.channelInError

/-- The duration of the frame in nanoseconds, unless it ends before it starts. -/
def duration? (status : CaptureStatus) : Option UInt64 :=
  if status.startTime ≤ status.endTime then some (status.endTime - status.startTime) else none

/-- The status of a finished capture, or that request `sequence` is not ready. -/
def requireFinal (status : CaptureStatus) (sequence : UInt32) : Except CaptureError CaptureStatus :=
  if status.isFinal then .ok status else .error (.notReady sequence)

/-! ## The record -/

/-- The words of a status record in order. -/
abbrev Words :=
  UInt8 × UInt8 × UInt16 × UInt32 × UInt64 × UInt64 × UInt32 × FlagSet .status × UInt64 ×
    ReceiverStatus

/-- The four error words of the receiver. -/
def receiverCodec : Codec ReceiverStatus :=
  (Codec.u32.pair <| Codec.u32.pair <| Codec.u32.pair Codec.u32).iso
    (fun (stream, channel, cilA, cilB) => ⟨stream, channel, cilA, cilB⟩)
    (fun s => (s.stream, s.virtualChannel, s.cilA, s.cilB)) (fun _ => rfl) (fun _ => rfl)

/-- The format of a status record. -/
def codec : Codec Words :=
  .pair .u8 <| .pair .u8 <| .pair .u16 <| .pair .u32 <| .pair .u64 <| .pair .u64 <|
    .pair .u32 <| .pair (.flags .status) <| .pair .u64 receiverCodec

/-- The words of a status. -/
def words (s : CaptureStatus) : Words :=
  (s.stream, s.virtualChannel, s.frameId, s.code.raw, s.startTime, s.endTime, s.errorData, s.flags,
    s.notifyBits, s.receiver)

/-- The status that the words of a record describe, if its code is known. -/
def ofWords : Words → Except CaptureError CaptureStatus
  | (stream, channel, frameId, raw, startTime, endTime, errorData, flags, notifyBits, receiver) =>
    match StatusCode.ofRaw? raw with
    | some code =>
      .ok ⟨stream, channel, frameId, code, startTime, endTime, errorData, flags, notifyBits,
        receiver⟩
    | none => .error (.invalidStatusCode "capture_status" raw)

theorem ofWords_words (s : CaptureStatus) : ofWords s.words = .ok s := by
  simp [ofWords, words, StatusCode.ofRaw?_raw]

theorem words_of_ofWords {w : Words} {s : CaptureStatus} (h : ofWords w = .ok s) : s.words = w := by
  obtain ⟨w₁, w₂, w₃, raw, w₅⟩ := w
  simp only [ofWords] at h
  split at h
  · next code hc =>
    cases h
    simp [words, StatusCode.raw_of_ofRaw? hc]
  · cases h

/-- The record of a status. -/
def encode (s : CaptureStatus) : Bytes := codec.write s.words

/-- The status in the record at the front of some bytes. -/
def decode (bytes : Bytes) : Except CaptureError CaptureStatus := do
  ofWords (← codec.decode "capture_status" bytes)

theorem size_codec : codec.size = 56 := rfl

theorem length_encode (s : CaptureStatus) : s.encode.length = 56 := codec.length_write s.words

theorem decode_encode_append (s : CaptureStatus) (rest : Bytes) :
    decode (s.encode ++ rest) = .ok s := by
  simp only [decode, encode, codec.decode_write_append]
  exact ofWords_words s

end CaptureStatus

end CaptureProtocol
