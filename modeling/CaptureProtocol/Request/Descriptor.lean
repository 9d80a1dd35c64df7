import CaptureProtocol.Channel.Config
import CaptureProtocol.Outcome.CaptureStatus
import CaptureProtocol.Request.Pfsd

/-!
# Capture descriptors

A descriptor is a 384-byte record at the front of a slot of the request ring. The host writes the
request into it, and the coprocessor writes the capture status into the middle of it.

* `decodeRequest`, `decodeStatus`, `storedSequence`: the three views of a slot.
* `CaptureRequest.encodeFor`: the slot of a request on a channel, with no status yet.
-/

set_option autoImplicit false

namespace CaptureProtocol

/-- Where the watermark of a frame is written. -/
structure WatermarkPlace where
  buffer : UInt32 := 0
  size : UInt32 := 0
  deriving DecidableEq, Repr, Inhabited

/-- What the host asks of one capture. -/
structure CaptureRequest where
  sequence : UInt32 := 0
  flags : FlagSet .capture := .empty
  /-- Milliseconds to wait for the start of the frame; 0 waits for ever. -/
  startTimeout : UInt16 := 0
  /-- Milliseconds to wait for the rest of the frame; 0 waits for ever. -/
  completionTimeout : UInt16 := 0
  vi : ViSettings := {}
  /-- The fault diagnostics, if the frame has them. -/
  pfsd : Option Pfsd := none
  /-- Where the engine status stands in its surface. -/
  engineStatusOffset : UInt64 := 0
  /-- A tag that the coprocessor hands back. -/
  outputBuffer : UInt64 := 0
  watermark : WatermarkPlace := {}
  deriving DecidableEq, Repr, Inhabited

/-- The name that descriptors are reported under. -/
def descriptorRecord : String := "capture_descriptor"

namespace CaptureRequest

/-- What a request must satisfy on a channel, in the order in which violations are reported. -/
def rules (config : ChannelConfig) (r : CaptureRequest) : List Rule :=
  let channel := config.settings.flags
  Rule.ringEntry "request_size" config.settings.requestSize Layout.descriptorBytes ++
  r.vi.rules ++
  (match r.pfsd with
    | none => []
    | some pfsd =>
      [.consistent "PFSD requested on a channel without ENABLE_VI_PFSD"
          (channel.contains ChannelFlags.pfsd),
        .consistent "empty PFSD settings would decode as no PFSD" (pfsd != {})] ++
      pfsd.rules) ++
  [.consistent "EMBDATA_ENABLE on a channel without EMBDATA"
      (!r.vi.flags.contains ViFlags.embdata || channel.contains ChannelFlags.embdata),
    .consistent "LINE_TIMER_ENABLE on a channel without LINETIMER"
      (!r.vi.flags.contains ViFlags.lineTimer || channel.contains ChannelFlags.linetimer)]

/-- Nothing, or the first rule that the request breaks on the channel. -/
def validateFor (config : ChannelConfig) (r : CaptureRequest) : Except ConfigViolation Unit :=
  Rule.enforce (r.rules config) fun _ => ()

/-- How long the coprocessor may take, in milliseconds, unless a part of it waits for ever. -/
def timeout? (r : CaptureRequest) : Option Nat :=
  if r.startTimeout = 0 ∨ r.completionTimeout = 0 then none
  else some (r.startTimeout.toNat + r.completionTimeout.toNat)

/-! ## The record -/

/-- The words of a descriptor in order. -/
abbrev Words :=
  UInt32 × FlagSet .capture × UInt16 × UInt16 × ViSettings × Pfsd.Words × UInt64 × UInt64 ×
    WatermarkPlace

/-- The format of a watermark place. -/
def watermarkCodec : Codec WatermarkPlace :=
  (Codec.u32.pair .u32).iso (fun p => ⟨p.1, p.2⟩) (fun w => (w.buffer, w.size))
    (fun _ => rfl) (fun _ => rfl)

/-- The format of what the host writes: pre-fences, status and tail are left zero. -/
def codec : Codec Words :=
  .pair .u32 <| .pair (.flags .capture) <| .pair .u16 <| .pair (.gap .u16 52) <|
    .pair ViSettings.codec <| .pair Pfsd.codec <| .pair (.gap .u64 56) <| .pair .u64
    (.gap watermarkCodec 40)

/-- The words of a request; without fault diagnostics theirs are those of empty settings. -/
def words (r : CaptureRequest) : Words :=
  (r.sequence, r.flags, r.startTimeout, r.completionTimeout, r.vi, (r.pfsd.getD {}).words,
    r.engineStatusOffset, r.outputBuffer, r.watermark)

/-- The request that the words of a descriptor describe; empty diagnostics are read as none. -/
def ofWords : Words → Except ConfigViolation CaptureRequest
  | (sequence, flags, startTimeout, completionTimeout, vi, pfsd, engineStatusOffset, outputBuffer,
      watermark) => do
    let pfsd ← Pfsd.ofWords pfsd
    pure ⟨sequence, flags, startTimeout, completionTimeout, vi,
      if pfsd = {} then none else some pfsd, engineStatusOffset, outputBuffer, watermark⟩

/-- The bytes of a slot of `size` bytes, whatever the request. -/
def slotBytes (r : CaptureRequest) (size : Nat) : Bytes :=
  codec.write r.words ++ Bytes.zeros (size - codec.size)

/-- The slot of a request that satisfies the rules of its channel. -/
def encodeFor (config : ChannelConfig) (r : CaptureRequest) : Except CaptureError Bytes := do
  r.validateFor config
  (r.slotBytes config.requestBytes).finish descriptorRecord config.requestBytes

theorem size_codec : codec.size = 384 := by
  simp only [codec, watermarkCodec, Codec.size_iso, Codec.size_pair, Codec.size_gap,
    Codec.size_flags, Codec.size_u16, Codec.size_u32, Codec.size_u64, ViSettings.size_codec,
    Pfsd.size_codec]

theorem length_slotBytes (r : CaptureRequest) {size : Nat} (h : 384 ≤ size) :
    (r.slotBytes size).length = size := by
  have hw : (codec.write r.words).length = 384 := (codec.length_write r.words).trans size_codec
  rw [slotBytes, List.length_append, hw, size_codec, Bytes.length_zeros]
  omega

end CaptureRequest

/-! ## Views of a slot -/

/-- Where the status stands in a descriptor. -/
def statusOffset : Nat := 272

/-- The request that the host wrote into a slot. -/
def decodeRequest (slot : Bytes) : Except CaptureError CaptureRequest := do
  CaptureRequest.ofWords (← CaptureRequest.codec.decode descriptorRecord slot)

/-- The sequence number that stands in a slot. -/
def storedSequence (slot : Bytes) : Except CaptureError UInt32 :=
  Codec.u32.decode descriptorRecord slot

/-- The status that the coprocessor wrote into a slot. -/
def decodeStatus (slot : Bytes) : Except CaptureError CaptureStatus := do
  CaptureStatus.ofWords (← CaptureStatus.codec.decodeAt descriptorRecord statusOffset slot)

/-- The slot after the coprocessor wrote a status into it. -/
def writeStatus (slot : Bytes) (status : CaptureStatus) : Except CaptureError Bytes :=
  CaptureStatus.codec.writeAt descriptorRecord statusOffset status.words slot

end CaptureProtocol
