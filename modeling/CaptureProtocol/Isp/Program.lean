import CaptureProtocol.Isp.Descriptor
import CaptureProtocol.Isp.Stats
import CaptureProtocol.Log
import CaptureProtocol.Record.Decode
import CaptureProtocol.Rule

/-!
# ISP programs

An ISP program is a 128-byte header and a push buffer of up to 4096 words. Its first six bytes are a
magic number and a version; nothing else is looked at unless both are the expected ones.

* `decode`: the program in some bytes, which need not reach beyond the used part of the push buffer.
* `encode`: the whole 16512-byte record.
-/

set_option autoImplicit false

namespace CaptureProtocol

/-- Extra pixels that a tile needs around it. -/
structure Overfetch where
  left : UInt8 := 0
  right : UInt8 := 0
  top : UInt8 := 0
  bottom : UInt8 := 0
  horizontal : UInt8 := 0
  alignment : UInt8 := 0
  deriving DecidableEq, Repr, Inhabited

/-- A rectangle of an output image, edges included. -/
structure CropRect where
  top : UInt16 := 0
  bottom : UInt16 := 0
  left : UInt16 := 0
  right : UInt16 := 0
  deriving DecidableEq, Repr, Inhabited

/-- A program for the ISP. -/
structure IspProgram where
  generation : IspType := .isp5
  /-- The sources of the crossbar. -/
  crossbar : Vector UInt32 4 := Vector.replicate _ 0
  enables : UInt32 := 0
  autoFocusControl : UInt32 := 0
  statsFlags : UInt32 := 0
  /-- Horizontal steps of the downscalers. -/
  pixelSteps : Vector UInt32 3 := Vector.replicate _ 0
  overfetch : Overfetch := {}
  /-- The crop rectangles of the outputs. -/
  crops : Vector CropRect 3 := Vector.replicate _ {}
  /-- The used part of the push buffer. -/
  pushBuffer : List UInt32 := []
  deriving DecidableEq, Repr

namespace IspProgram

/-- The magic number of a program. -/
def magic : UInt32 := 0x50505349

/-- The version of the program record. -/
def version : UInt16 := 3

/-- Words that the push buffer holds. -/
def pushBufferWords : Nat := 4096

/-- The name that programs are reported under. -/
def recordName : String := "isp5_program"

/-! ## The record -/

/-- The format of the magic number and the version. -/
def headCodec : Codec (UInt32 × UInt16) := .pair .u32 .u16

/-- The format of the extra pixels. -/
def overfetchCodec : Codec Overfetch :=
  (Codec.pair .u8 <| .pair .u8 <| .pair .u8 <| .pair .u8 <| .pair .u8 (.gap .u8 2)).iso
    (fun (a, b, c, d, e, f) => ⟨a, b, c, d, e, f⟩)
    (fun o => (o.left, o.right, o.top, o.bottom, o.horizontal, o.alignment))
    (fun _ => rfl) (fun _ => rfl)

/-- The format of a crop rectangle. -/
def cropCodec : Codec CropRect :=
  (Codec.pair .u16 <| .pair .u16 <| .pair .u16 .u16).iso
    (fun (a, b, c, d) => ⟨a, b, c, d⟩) (fun c => (c.top, c.bottom, c.left, c.right))
    (fun _ => rfl) (fun _ => rfl)

/-- The words of the header after magic number and version, in order. -/
abbrev Words :=
  UInt16 × Vector UInt32 4 × UInt32 × UInt32 × UInt32 × UInt32 × Vector UInt32 3 × Overfetch ×
    Vector CropRect 3

/-- The format of the header after magic number and version. -/
def bodyCodec : Codec Words :=
  .pair .u16 <| .pair (.array .u32 4) <| .pair .u32 <| .pair .u32 <| .pair .u32 <| .pair .u32 <|
    .pair (.array .u32 3) <| .pair overfetchCodec (.gap (.array cropCodec 3) 44)

/-- The header words of a program. -/
def words (p : IspProgram) : Words :=
  (p.generation.raw, p.crossbar, p.enables, p.autoFocusControl, p.statsFlags,
    UInt32.ofNat p.pushBuffer.length, p.pixelSteps, p.overfetch, p.crops)

/-- The rule that a push buffer does not hold more words than there is room for. -/
def countRule (count : Nat) : Rule := .noMoreThan "pushbuffer_size" count pushBufferWords

/-- Nothing, if some bytes begin with the magic number and version of a program. -/
def checkHeader (bytes : Bytes) : Except CaptureError Unit := do
  let (id, found) ← headCodec.decode recordName bytes
  if id = magic ∧ found = version then pure ()
  else .error (.unsupportedVersion recordName id found magic version)

/-- What checking the head of some bytes tells the log: that they are no program of this version. -/
def headerEvents (bytes : Bytes) : List LogEvent :=
  let text (id : UInt32) (version : UInt16) : String :=
    s!"id {Text.hexPadded 8 id.toNat} version {version.toNat}"
  match checkHeader bytes with
  | .error (.unsupportedVersion _ id found expectedId expected) =>
    [{ level := .error
       target := "camrtc_capture::program"
       message := s!"Rejecting ISP program: {text id found}, expected {text expectedId expected}" }]
  | _ => []

/-- The first words of the push buffer in the bytes of a program. -/
def readPushBuffer (bytes : Bytes) (count : Nat) : Except CaptureError (List UInt32) :=
  let start := headCodec.size + bodyCodec.size
  match Codec.u32.readMany count (bytes.drop start) with
  | some (words, _) => .ok words
  | none => .error (.layoutMismatch recordName (start + count * Codec.u32.size) bytes.length)

/-- The generation with a number, or that it is not known. -/
def generationOf (raw : UInt16) : Except CaptureError IspType :=
  match IspType.ofRaw? raw with
  | some generation => .ok generation
  | none => .error (.unsupportedIspType raw)

/-- The program at the front of some bytes. -/
def decode (bytes : Bytes) : Except CaptureError IspProgram := do
  checkHeader bytes
  let (raw, crossbar, enables, autoFocusControl, statsFlags, count, pixelSteps, overfetch, crops) ←
    bodyCodec.decodeAt recordName headCodec.size bytes
  let generation ← generationOf raw
  let count ← Rule.enforce [countRule count.toNat] fun _ => count.toNat
  let pushBuffer ← readPushBuffer bytes count
  pure ⟨generation, crossbar, enables, autoFocusControl, statsFlags, pixelSteps, overfetch, crops,
    pushBuffer⟩

/-- The bytes of a program's record, the unused part of its push buffer zero. -/
def bytes (p : IspProgram) : Bytes :=
  headCodec.write (magic, version) ++ bodyCodec.write p.words ++
    Codec.u32.writeMany p.pushBuffer ++
    Bytes.zeros ((pushBufferWords - p.pushBuffer.length) * Codec.u32.size)

/-- The record of a program whose push buffer fits. -/
def encode (p : IspProgram) : Except CaptureError Bytes := do
  let bytes ← Rule.enforce [countRule p.pushBuffer.length] fun _ => p.bytes
  bytes.finish recordName programBytes.toNat

/-- Where the statistics go that the program's generation writes. -/
def statsLayout (p : IspProgram) : StatsLayout := p.generation.statsLayout

theorem size_headCodec : headCodec.size = 6 := rfl

theorem size_bodyCodec : bodyCodec.size = 122 := by
  simp only [bodyCodec, overfetchCodec, cropCodec, Codec.size_iso, Codec.size_pair, Codec.size_gap,
    Codec.size_array, Codec.size_u8, Codec.size_u16, Codec.size_u32]

end IspProgram

end CaptureProtocol
