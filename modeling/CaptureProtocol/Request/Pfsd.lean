import CaptureProtocol.Channel.Tables
import CaptureProtocol.Request.Vi

/-!
# Permanent-fault diagnostics

A capture may inject a test pattern into a part of the frame and have up to two regions of its
output surfaces compared with the bytes that the pattern must give.

* `ofWords_words`: settings that name at most two regions are read back from their record.
* `words_of_ofWords`: what of the words of a record is not kept.
-/

set_option autoImplicit false

namespace CaptureProtocol

/-- The part of a frame that the test pattern replaces, edges included. -/
structure ReplaceRegion where
  left : UInt16 := 0
  right : UInt16 := 0
  top : UInt16 := 0
  bottom : UInt16 := 0
  deriving DecidableEq, Repr, Inhabited

/-- Bytes of an output surface that are compared after the capture. -/
structure ExpectedRegion where
  /-- Where the bytes begin in the surface. -/
  offset : UInt32 := 0
  /-- How many bytes are compared. -/
  length : UInt32 := 0
  /-- The pattern that they must repeat. -/
  value : Vector UInt8 4 := Vector.replicate _ 0
  deriving DecidableEq, Repr, Inhabited

/-- The settings of the diagnostics for one frame. -/
structure Pfsd where
  region : ReplaceRegion := {}
  /-- The test pattern. -/
  pattern : UInt32 := 0
  /-- The regions that are compared; with none the frame is not checked. -/
  expected : List ExpectedRegion := []
  deriving DecidableEq, Repr, Inhabited

namespace Pfsd

/-- The largest length of a compared region in bytes. -/
def maxRegionLength : UInt32 := 255

/-- The rule that no more regions are named than a record holds. -/
def countRule (count : Nat) : Rule :=
  .noMoreThan "pfsd.expected_count" count Layout.faultRegions

/-- What the settings must satisfy, in the order in which violations are reported. -/
def rules (p : Pfsd) : List Rule :=
  [.atMost "pfsd.replace_value" p.pattern.toUInt64 max20Bit.toUInt64,
    countRule p.expected.length] ++
  p.expected.map fun region =>
    .atMost "pfsd.expected.len" region.length.toUInt64 maxRegionLength.toUInt64

/-- Nothing, or the first rule that the settings break. -/
def validate (p : Pfsd) : Except ConfigViolation Unit := Rule.enforce p.rules fun _ => ()

/-! ## The record -/

/-- The words of a diagnostics record in order. -/
abbrev Words := ReplaceRegion × UInt32 × UInt32 × Vector ExpectedRegion Layout.faultRegions

/-- The format of a replaced part of the frame. -/
def regionCodec : Codec ReplaceRegion :=
  (Codec.pair .u16 <| .pair .u16 <| .pair .u16 .u16).iso
    (fun (a, b, c, d) => ⟨a, b, c, d⟩) (fun r => (r.left, r.right, r.top, r.bottom))
    (fun _ => rfl) (fun _ => rfl)

/-- The format of a compared region. -/
def expectedCodec : Codec ExpectedRegion :=
  (Codec.pair .u32 <| .pair .u32 (.array .u8 4)).iso
    (fun (a, b, c) => ⟨a, b, c⟩) (fun r => (r.offset, r.length, r.value))
    (fun _ => rfl) (fun _ => rfl)

/-- The format of a diagnostics record. -/
def codec : Codec Words :=
  .pair regionCodec <| .pair .u32 <| .pair .u32 (.array expectedCodec Layout.faultRegions)

/-- The words that describe settings. -/
def words (p : Pfsd) : Words :=
  (p.region, p.pattern, Tables.count p.expected, Tables.entries Layout.faultRegions {} p.expected)

/-- The settings that the words of a record describe. -/
def ofWords : Words → Except ConfigViolation Pfsd
  | (region, pattern, count, expected) =>
    Rule.enforce [countRule count.toNat] fun _ =>
      ⟨region, pattern, Tables.ofEntries count expected⟩

theorem size_codec : codec.size = 40 := by
  simp only [codec, regionCodec, expectedCodec, Codec.size_iso, Codec.size_pair, Codec.size_array,
    Codec.size_u8, Codec.size_u16, Codec.size_u32]
  rfl

theorem ofWords_words {p : Pfsd} (h : p.expected.length ≤ Layout.faultRegions) :
    ofWords p.words = .ok p := by
  have hc : Rule.Accepted [countRule (Tables.count p.expected).toNat] := by
    rw [Tables.toNat_count (Nat.lt_of_le_of_lt h (by decide))]
    simpa [Rule.Accepted, countRule, Rule.noMoreThan] using h
  simp only [ofWords, words, Rule.enforce_of_accepted _ hc]
  rw [Tables.ofEntries_entries h (by decide)]

/-- Only the regions behind the count are not kept. -/
theorem words_of_ofWords {region : ReplaceRegion} {pattern count : UInt32}
    {expected : Vector ExpectedRegion Layout.faultRegions} {p : Pfsd}
    (h : ofWords (region, pattern, count, expected) = .ok p) :
    count.toNat ≤ Layout.faultRegions ∧ p.expected.length = count.toNat ∧
      p.words = (region, pattern, count,
        Tables.entries Layout.faultRegions {} (Tables.ofEntries count expected)) := by
  rw [ofWords] at h
  obtain ⟨hc, rfl⟩ := Rule.enforce_eq_ok.mp h
  have hcount : count.toNat ≤ Layout.faultRegions := Rule.accepted_noMoreThan.mp hc
  have hlen := Tables.length_ofEntries expected hcount
  exact ⟨hcount, hlen, by simp [words, Tables.count, hlen]⟩

end Pfsd

end CaptureProtocol
