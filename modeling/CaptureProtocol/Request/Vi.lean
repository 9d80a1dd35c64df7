import CaptureProtocol.Record.Decode
import CaptureProtocol.Rule

/-!
# VI settings of a frame

Every capture carries the settings of the video input for its frame: which frames it matches, how
the frame is cropped, how pixels are formatted and compressed, and where they are written.

* `ViSettings.rules`: the ranges that the settings must keep.
* `ViSettings.codec`: the 160 bytes that the settings take in a capture descriptor.
-/

set_option autoImplicit false

namespace CaptureProtocol

/-- Which frames a capture takes: each value must agree with the frame's under its mask. -/
structure MatchRule where
  dataType : UInt8 := 0
  dataTypeMask : UInt8 := 0
  stream : UInt8 := 0
  streamMask : UInt8 := 0
  channel : UInt16 := 0
  channelMask : UInt16 := 0
  frameId : UInt16 := 0
  frameIdMask : UInt16 := 0
  dol : UInt16 := 0
  dolMask : UInt16 := 0
  deriving DecidableEq, Repr, Inhabited

/-- A corner of the crop window. -/
structure Corner where
  x : UInt16 := 0
  y : UInt16 := 0
  deriving DecidableEq, Repr, Inhabited

/-- The size of a frame and the window that is cut out of it. -/
structure FrameGeometry where
  /-- Pixels per line before cropping. -/
  width : UInt16 := 0
  /-- Lines before cropping. -/
  height : UInt16 := 0
  /-- Embedded data bytes per line. -/
  embeddedWidth : UInt32 := 0
  /-- Embedded data lines. -/
  embeddedHeight : UInt32 := 0
  /-- Top left corner; its `x` counts groups of eight pixels. -/
  skip : Corner := {}
  /-- Bottom right corner; an edge of 0 stands for 65536. -/
  crop : Corner := {}
  deriving DecidableEq, Repr, Inhabited

/-- How phase-detection pixels are cut out and replaced. -/
structure PdafWindow where
  cropLeft : UInt16 := 0
  cropRight : UInt16 := 0
  cropTop : UInt16 := 0
  cropBottom : UInt16 := 0
  replaceLeft : UInt16 := 0
  replaceRight : UInt16 := 0
  replaceTop : UInt16 := 0
  replaceBottom : UInt16 := 0
  lastPixelX : UInt16 := 0
  lastPixelY : UInt16 := 0
  replaceValue : UInt16 := 0
  format : UInt8 := 0
  deriving DecidableEq, Repr, Inhabited

/-- How pixels are formatted. -/
structure PixelFormat where
  format : UInt16 := 0
  padZero : Bool := false
  pdaf : PdafWindow := {}
  deriving DecidableEq, Repr, Inhabited

/-- How lines are cut into chunks for compression. -/
structure DpcmChunks where
  stripWidth : UInt16 := 0
  stripOverfetch : UInt16 := 0
  first : UInt16 := 0
  body : UInt16 := 0
  bodyCount : UInt16 := 0
  penultimate : UInt16 := 0
  last : UInt16 := 0
  clampHigh : UInt32 := 0
  clampLow : UInt32 := 0
  deriving DecidableEq, Repr, Inhabited

/-- Where the pixels are written. -/
structure MemoryWriter where
  /-- Surface offsets or addresses. -/
  surfaces : Vector UInt64 Layout.outputSurfaces := Vector.replicate _ 0
  /-- Bytes from a line to the next. -/
  strides : Vector UInt32 Layout.outputSurfaces := Vector.replicate _ 0
  chunkStride : UInt32 := 0
  deriving DecidableEq, Repr, Inhabited

/-- The settings of the video input for one frame. -/
structure ViSettings where
  flags : FlagSet .vi := .empty
  matching : MatchRule := {}
  dolHeader : UInt8 := 0
  dataTypeOverride : UInt8 := 0
  dpcmMode : UInt8 := 0
  frame : FrameGeometry := {}
  /-- Lines from a memory flush to the next; 0 stands for 65536. -/
  flush : UInt16 := 0
  flushFirst : UInt16 := 0
  /-- Lines from a line timer event to the next; 0 stands for 65536. -/
  lineTimer : UInt16 := 0
  lineTimerFirst : UInt16 := 0
  pixels : PixelFormat := {}
  dpcm : DpcmChunks := {}
  writer : MemoryWriter := {}
  deriving DecidableEq, Repr, Inhabited

/-! ## Ranges -/

/-- The largest stride, clamp or test pattern: 20 bits. -/
def max20Bit : UInt32 := 0xFFFFF

/-- The largest length of an embedded data line in bytes. -/
def maxEmbeddedWidth : UInt32 := 131071

/-- The largest number of embedded data lines. -/
def maxEmbeddedHeight : UInt32 := 65535

/-- The largest choice of a DOL header. -/
def maxDolHeader : UInt8 := 3

/-- The largest stream, or mask of one, that a frame is matched with. -/
def maxStreamMask : UInt8 := 0x3F

namespace DpcmMode

/-- RAW20 samples, the last of the modes. -/
def raw20 : UInt8 := 5

end DpcmMode

namespace FrameGeometry

/-- The position of a crop edge. -/
def edge (v : UInt16) : Nat := if v = 0 then 65536 else v.toNat

/-- The largest left corner, in groups of eight pixels, that leaves a pixel in the line. -/
def maxSkipX (f : FrameGeometry) : Nat := (min f.width.toNat (edge f.crop.x) - 1) / 8

/-- The largest top corner that leaves a line in the frame. -/
def maxSkipY (f : FrameGeometry) : Nat := min f.height.toNat (edge f.crop.y) - 1

/-- The ranges that the geometry must keep. -/
def rules (f : FrameGeometry) : List Rule :=
  [.atMost "frame.embed_x" f.embeddedWidth.toUInt64 maxEmbeddedWidth.toUInt64,
    .atMost "frame.embed_y" f.embeddedHeight.toUInt64 maxEmbeddedHeight.toUInt64,
    .atMost "frame.skip.x" f.skip.x.toUInt64 (UInt64.ofNat f.maxSkipX),
    .atMost "frame.skip.y" f.skip.y.toUInt64 (UInt64.ofNat f.maxSkipY)]

end FrameGeometry

namespace ViSettings

/-- The ranges that the settings must keep, in the order in which violations are reported. -/
def rules (s : ViSettings) : List Rule :=
  [.atMost "match.stream" s.matching.stream.toUInt64 maxStreamMask.toUInt64,
    .atMost "match.stream_mask" s.matching.streamMask.toUInt64 maxStreamMask.toUInt64,
    .atMost "dol_header_sel" s.dolHeader.toUInt64 maxDolHeader.toUInt64,
    .atMost "dpcm_mode" s.dpcmMode.toUInt64 DpcmMode.raw20.toUInt64] ++
  s.frame.rules ++
  [.atMost "dpcm.clamp_high" s.dpcm.clampHigh.toUInt64 max20Bit.toUInt64,
    .atMost "dpcm.clamp_low" s.dpcm.clampLow.toUInt64 max20Bit.toUInt64] ++
  (s.writer.strides.toList.map fun stride =>
    .atMost "atomp.surface_stride" stride.toUInt64 max20Bit.toUInt64) ++
  [.atMost "atomp.dpcm_chunk_stride" s.writer.chunkStride.toUInt64 max20Bit.toUInt64]

/-- Nothing, or the first range that the settings leave. -/
def validate (s : ViSettings) : Except ConfigViolation Unit := Rule.enforce s.rules fun _ => ()

end ViSettings

/-! ## The record -/

namespace MatchRule

/-- The format of a match rule. -/
def codec : Codec MatchRule :=
  (.pair .u8 <| .pair .u8 <| .pair .u8 <| .pair .u8 <| .pair .u16 <| .pair .u16 <| .pair .u16 <|
    .pair .u16 <| .pair .u16 .u16 : Codec (UInt8 × UInt8 × UInt8 × UInt8 × UInt16 × UInt16 ×
      UInt16 × UInt16 × UInt16 × UInt16)).iso
    (fun (a, b, c, d, e, f, g, h, i, j) => ⟨a, b, c, d, e, f, g, h, i, j⟩)
    (fun r => (r.dataType, r.dataTypeMask, r.stream, r.streamMask, r.channel, r.channelMask,
      r.frameId, r.frameIdMask, r.dol, r.dolMask))
    (fun _ => rfl) (fun _ => rfl)

end MatchRule

namespace Corner

/-- The format of a corner. -/
def codec : Codec Corner :=
  (Codec.u16.pair .u16).iso (fun p => ⟨p.1, p.2⟩) (fun c => (c.x, c.y))
    (fun _ => rfl) (fun _ => rfl)

end Corner

namespace FrameGeometry

/-- The format of a frame geometry. -/
def codec : Codec FrameGeometry :=
  (Codec.pair .u16 <| .pair .u16 <| .pair .u32 <| .pair .u32 <| .pair Corner.codec
      Corner.codec).iso
    (fun (a, b, c, d, e, f) => ⟨a, b, c, d, e, f⟩)
    (fun f => (f.width, f.height, f.embeddedWidth, f.embeddedHeight, f.skip, f.crop))
    (fun _ => rfl) (fun _ => rfl)

end FrameGeometry

namespace PixelFormat

/-- The format of a phase-detection window. -/
def pdafCodec : Codec PdafWindow :=
  (Codec.pair .u16 <| .pair .u16 <| .pair .u16 <| .pair .u16 <| .pair .u16 <| .pair .u16 <|
      .pair .u16 <| .pair .u16 <| .pair .u16 <| .pair .u16 <| .pair .u16 (.gap .u8 1)).iso
    (fun (a, b, c, d, e, f, g, h, i, j, k, l) => ⟨a, b, c, d, e, f, g, h, i, j, k, l⟩)
    (fun p => (p.cropLeft, p.cropRight, p.cropTop, p.cropBottom, p.replaceLeft, p.replaceRight,
      p.replaceTop, p.replaceBottom, p.lastPixelX, p.lastPixelY, p.replaceValue, p.format))
    (fun _ => rfl) (fun _ => rfl)

/-- The format of a pixel format. -/
def codec : Codec PixelFormat :=
  (Codec.pair .u16 <| .pair (.gap .truth 1) pdafCodec).iso
    (fun (a, b, c) => ⟨a, b, c⟩) (fun p => (p.format, p.padZero, p.pdaf))
    (fun _ => rfl) (fun _ => rfl)

end PixelFormat

namespace DpcmChunks

/-- The format of compression chunks. -/
def codec : Codec DpcmChunks :=
  (Codec.pair .u16 <| .pair .u16 <| .pair .u16 <| .pair .u16 <| .pair .u16 <| .pair .u16 <|
      .pair (.gap .u16 2) <| .pair .u32 .u32).iso
    (fun (a, b, c, d, e, f, g, h, i) => ⟨a, b, c, d, e, f, g, h, i⟩)
    (fun c => (c.stripWidth, c.stripOverfetch, c.first, c.body, c.bodyCount, c.penultimate, c.last,
      c.clampHigh, c.clampLow))
    (fun _ => rfl) (fun _ => rfl)

end DpcmChunks

namespace MemoryWriter

/-- The format of the memory writer's settings. -/
def codec : Codec MemoryWriter :=
  (Codec.pair (.array .u64 _) <| .pair (.array .u32 _) (.gap .u32 4)).iso
    (fun (a, b, c) => ⟨a, b, c⟩) (fun w => (w.surfaces, w.strides, w.chunkStride))
    (fun _ => rfl) (fun _ => rfl)

end MemoryWriter

namespace ViSettings

/-- The format of the settings. -/
def codec : Codec ViSettings :=
  (Codec.pair (.flags .vi) <| .pair MatchRule.codec <| .pair .u8 <| .pair .u8 <|
      .pair (.gap .u8 1) <| .pair FrameGeometry.codec <| .pair .u16 <| .pair .u16 <|
      .pair .u16 <| .pair .u16 <| .pair PixelFormat.codec <| .pair DpcmChunks.codec
      MemoryWriter.codec).iso
    (fun (a, b, c, d, e, f, g, h, i, j, k, l, m) => ⟨a, b, c, d, e, f, g, h, i, j, k, l, m⟩)
    (fun s => (s.flags, s.matching, s.dolHeader, s.dataTypeOverride, s.dpcmMode, s.frame, s.flush,
      s.flushFirst, s.lineTimer, s.lineTimerFirst, s.pixels, s.dpcm, s.writer))
    (fun _ => rfl) (fun _ => rfl)

theorem size_codec : codec.size = 160 := by
  simp only [codec, MatchRule.codec, FrameGeometry.codec, Corner.codec, PixelFormat.codec,
    PixelFormat.pdafCodec, DpcmChunks.codec, MemoryWriter.codec, Codec.size_iso, Codec.size_pair,
    Codec.size_gap, Codec.size_array, Codec.size_flags, Codec.size_u8, Codec.size_u16,
    Codec.size_u32, Codec.size_u64, Codec.size_truth]
  rfl

end ViSettings

end CaptureProtocol
