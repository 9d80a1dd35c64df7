import CaptureProtocol.Record.Decode
import CaptureProtocol.Rule

/-!
# Memory information of a request

Beside the descriptor of every request stands a record with the address and size of each surface
that the descriptor refers to.

* `decode_encode_append`: acceptable memory information is read back from its record.
-/

set_option autoImplicit false

namespace CaptureProtocol

/-- A stretch of memory. -/
@[ext] structure Surface where
  base : UInt64 := 0
  size : UInt64 := 0
  deriving DecidableEq, Repr, Inhabited

namespace Surface

/-- Whether nothing is stored there. -/
def isUnused (s : Surface) : Bool := s.size == 0

/-- What a surface must satisfy. -/
def rules (field : String) (s : Surface) : List Rule := Rule.surface field s.base s.size

/-- The format of a surface. -/
def codec : Codec Surface :=
  (Codec.u64.pair .u64).iso (fun p => ⟨p.1, p.2⟩) (fun s => (s.base, s.size))
    (fun _ => rfl) (fun _ => rfl)

theorem size_codec : codec.size = 16 := rfl

end Surface

/-- The surfaces of one capture request. -/
@[ext] structure MemoryInfo where
  /-- The pixel planes and the embedded data. -/
  surfaces : Vector Surface Layout.outputSurfaces := Vector.replicate _ {}
  /-- Where the engine status is written. -/
  engineStatus : Surface := {}
  watermark : Surface := {}
  deriving DecidableEq, Repr, Inhabited

namespace MemoryInfo

/-- The largest size of the engine status surface, which its record holds in 32 bits. -/
def maxEngineStatusBytes : UInt64 := 0xFFFFFFFF

/-- The names that the output surfaces are reported under. -/
def surfaceFields : Vector String Layout.outputSurfaces :=
  #v["surface[0]", "surface[1]", "surface[2]", "surface[3]"]

/-- The engine status surface is unused or holds its record. -/
def engineStatusRule (size : UInt64) : Rule :=
  ⟨size == 0 || decide (Layout.engineStatusBytes ≤ size),
    .entryTooSmall "engine_status" size.toUInt32 Layout.engineStatusBytes.toUInt32⟩

/-- What the surfaces must satisfy, in the order in which violations are reported. -/
def rules (info : MemoryInfo) : List Rule :=
  ((surfaceFields.toList.zip info.surfaces.toList).flatMap fun p => p.2.rules p.1) ++
  info.engineStatus.rules "engine_status" ++
  [engineStatusRule info.engineStatus.size,
    .atMost "engine_status" info.engineStatus.size maxEngineStatusBytes] ++
  info.watermark.rules "watermark"

/-- Nothing, or the first rule that the surfaces break. -/
def validate (info : MemoryInfo) : Except ConfigViolation Unit :=
  Rule.enforce info.rules fun _ => ()

/-! ## The record -/

/-- The words of a memory-info record in order. -/
abbrev Words := Vector Surface Layout.outputSurfaces × UInt64 × UInt32 × Surface

/-- The format of a memory-info record. -/
def codec : Codec Words :=
  .pair (.array Surface.codec _) <| .pair .u64 <| .pair (.gap .u32 4) (.gap Surface.codec 32)

/-- The words of memory information. -/
def words (info : MemoryInfo) : Words :=
  (info.surfaces, info.engineStatus.base, info.engineStatus.size.toUInt32, info.watermark)

/-- The memory information that the words of a record describe, not checked. -/
def ofWords : Words → MemoryInfo
  | (surfaces, base, size, watermark) => ⟨surfaces, ⟨base, size.toUInt64⟩, watermark⟩

/-- The bytes of a record, whatever the surfaces. -/
def bytes (info : MemoryInfo) : Bytes := codec.write info.words

/-- The record of memory information that satisfies the rules. -/
def encode (info : MemoryInfo) : Except CaptureError Bytes := do
  info.validate
  info.bytes.finish "capture_descriptor_memoryinfo" Layout.memoryInfoBytes.toNat

/-- The memory information in the record at the front of some bytes. -/
def decode (bytes : Bytes) : Except CaptureError MemoryInfo := do
  let info := ofWords (← codec.decode "capture_descriptor_memoryinfo" bytes)
  Rule.enforce info.rules fun _ => info

theorem size_codec : codec.size = 128 := by
  simp only [codec, Surface.codec, Codec.size_iso, Codec.size_pair, Codec.size_gap,
    Codec.size_array, Codec.size_u32, Codec.size_u64]
  rfl

theorem length_bytes (info : MemoryInfo) : info.bytes.length = 128 :=
  (codec.length_write info.words).trans size_codec

theorem encode_eq (info : MemoryInfo) :
    info.encode = (CaptureError.ofRule info.validate).map fun _ => info.bytes := by
  have hfinish : info.bytes.finish "capture_descriptor_memoryinfo" Layout.memoryInfoBytes.toNat =
      .ok info.bytes := Bytes.finish_eq_ok.mpr ⟨info.length_bytes, rfl⟩
  rw [encode, hfinish]
  cases info.validate <;> rfl

theorem ofWords_words {info : MemoryInfo} (h : info.engineStatus.size ≤ maxEngineStatusBytes) :
    ofWords info.words = info := by
  obtain ⟨surfaces, ⟨base, size⟩, watermark⟩ := info
  have hs : size.toNat ≤ 0xFFFFFFFF := UInt64.le_iff_toNat_le.mp h
  have : size.toUInt32.toUInt64 = size := by
    apply UInt64.toNat_inj.mp
    simp only [UInt32.toNat_toUInt64, UInt64.toNat_toUInt32]
    omega
  simp [words, ofWords, this]

theorem engineStatus_size_le {info : MemoryInfo} (h : Rule.Accepted info.rules) :
    info.engineStatus.size ≤ maxEngineStatusBytes := by
  simp only [rules, Rule.accepted_append, Rule.accepted_cons, Rule.atMost_holds] at h
  exact UInt64.le_iff_toNat_le.mpr h.1.2.2.1

theorem decode_bytes_append {info : MemoryInfo} (h : Rule.Accepted info.rules) (rest : Bytes) :
    decode (info.bytes ++ rest) = .ok info := by
  have hw := ofWords_words (engineStatus_size_le h)
  simp only [decode, bytes, codec.decode_write_append]
  show CaptureError.ofRule _ = _
  rw [hw, Rule.enforce_of_accepted _ h]
  rfl

end MemoryInfo

end CaptureProtocol
