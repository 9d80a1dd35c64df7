import CaptureProtocol.Text

/-!
# Notify bits

The notify word of a capture status has one bit for each condition that was seen since the previous
capture. The catalogue gives every named bit its position, its name, the hardware block that raises
it and whether it alone spoils the frame.

* `ofWord`: the catalogued bits of a word, lowest first.
-/

set_option autoImplicit false

namespace CaptureProtocol

/-- Whether a condition alone makes a frame unusable. -/
inductive FrameImpact where
  /-- Pixel data may be lost or damaged. -/
  | corrupting
  /-- The frame is still usable. -/
  | harmless
  deriving DecidableEq, Repr

/-- The hardware block that raises a notify bit. -/
inductive NotifySource where
  | csimuxFrame | csiFault | csimuxStream | falcon | chansel | atomp | unclassified
  deriving DecidableEq, Repr

/-- A catalogued condition of the notify word. -/
inductive NotifyBit where
  /-- A frame start came inside a frame. -/
  | csimuxFrameFsFault
  /-- The frame end was forced by a reset or a timeout. -/
  | csimuxFrameForceFeFault
  /-- The frame end names another frame than the frame start. -/
  | csimuxFrameFeFrameIdFault
  /-- A long packet has an illegal pixel-enable code. -/
  | csimuxFramePxlEnableFault
  /-- A line came late. -/
  | csiFaultPpfsmTimeout
  /-- A header bit was corrected. -/
  | csiFaultPhEccSingleBitErr
  /-- A payload checksum is wrong. -/
  | csiFaultPdCrcErr
  /-- A payload is short; its line is incomplete. -/
  | csiFaultPdWcShortErr
  /-- One of two header checksums is wrong. -/
  | csiFaultPhSingleCrcErr
  /-- The checksum of an embedded data line is wrong. -/
  | csiFaultEmbeddedLineCrcErr
  /-- Data came between frames. -/
  | csimuxStreamSpuriousData
  /-- The stream queue overflowed. -/
  | csimuxStreamFifoOverflow
  /-- A frame was lost after an overflow. -/
  | csimuxStreamFifoLof
  /-- An illegal packet was dropped. -/
  | csimuxStreamFifoBadpkt
  /-- The frame did not start in time. -/
  | frameStartTimeout
  /-- The frame did not complete in time. -/
  | frameCompletionTimeout
  | chanselPixelMissingLe
  | chanselPixelRunaway
  | chanselPixelSpurious
  | chanselPixelLongLine
  | chanselPixelShortLine
  | chanselEmbedMissingLe
  | chanselEmbedRunaway
  | chanselEmbedSpurious
  | chanselEmbedLongLine
  /-- Embedded data came though none was expected. -/
  | chanselEmbedInfringe
  | chanselDtypeMismatch
  /-- Too few pixel lines. -/
  | chanselPixShort
  /-- Too few embedded data lines. -/
  | chanselEmbShort
  /-- Permanent-fault diagnostics found a failure. -/
  | pfsdFault
  /-- The frame was cut off by a timeout, a reset or a release. -/
  | chanselFaultFe
  /-- A frame matched no channel and was dropped. -/
  | chanselNoMatch
  /-- More than one channel matched a frame. -/
  | chanselCollision
  /-- The channel was configured anew inside a frame. -/
  | chanselLoadFramed
  | atompPackerOverflow
  /-- The frame was cut short by a busy memory. -/
  | atompFrameTruncated
  /-- The frame was dropped by a busy memory. -/
  | atompFrameTossed
  /-- None of the above. -/
  | unclassifiedError
  deriving DecidableEq, Repr

/-- What the catalogue says about a notify bit. -/
structure NotifyEntry where
  position : UInt8
  source : NotifySource
  impact : FrameImpact
  name : String
  deriving DecidableEq, Repr

namespace NotifyBit

/-- The catalogued bits, lowest position first. -/
def all : List NotifyBit :=
  [csimuxFrameFsFault, csimuxFrameForceFeFault, csimuxFrameFeFrameIdFault,
    csimuxFramePxlEnableFault, csiFaultPpfsmTimeout, csiFaultPhEccSingleBitErr, csiFaultPdCrcErr,
    csiFaultPdWcShortErr, csiFaultPhSingleCrcErr, csiFaultEmbeddedLineCrcErr,
    csimuxStreamSpuriousData, csimuxStreamFifoOverflow, csimuxStreamFifoLof,
    csimuxStreamFifoBadpkt, frameStartTimeout, frameCompletionTimeout, chanselPixelMissingLe,
    chanselPixelRunaway, chanselPixelSpurious, chanselPixelLongLine, chanselPixelShortLine,
    chanselEmbedMissingLe, chanselEmbedRunaway, chanselEmbedSpurious, chanselEmbedLongLine,
    chanselEmbedInfringe, chanselDtypeMismatch, chanselPixShort, chanselEmbShort, pfsdFault,
    chanselFaultFe, chanselNoMatch, chanselCollision, chanselLoadFramed, atompPackerOverflow,
    atompFrameTruncated, atompFrameTossed, unclassifiedError]

/-- The catalogue. -/
def entry : NotifyBit → NotifyEntry
  | csimuxFrameFsFault => ⟨2, .csimuxFrame, .harmless, "CSIMUX_FRAME_FS_FAULT"⟩
  | csimuxFrameForceFeFault => ⟨3, .csimuxFrame, .corrupting, "CSIMUX_FRAME_FORCE_FE_FAULT"⟩
  | csimuxFrameFeFrameIdFault => ⟨4, .csimuxFrame, .corrupting, "CSIMUX_FRAME_FE_FRAME_ID_FAULT"⟩
  | csimuxFramePxlEnableFault => ⟨5, .csimuxFrame, .corrupting, "CSIMUX_FRAME_PXL_ENABLE_FAULT"⟩
  | csiFaultPpfsmTimeout => ⟨15, .csiFault, .corrupting, "CSIMUX_FRAME_CSI_FAULT_PPFSM_TIMEOUT"⟩
  | csiFaultPhEccSingleBitErr => ⟨16, .csiFault, .harmless,
      "CSIMUX_FRAME_CSI_FAULT_PH_ECC_SINGLE_BIT_ERR"⟩
  | csiFaultPdCrcErr => ⟨17, .csiFault, .corrupting, "CSIMUX_FRAME_CSI_FAULT_PD_CRC_ERR"⟩
  | csiFaultPdWcShortErr => ⟨18, .csiFault, .corrupting, "CSIMUX_FRAME_CSI_FAULT_PD_WC_SHORT_ERR"⟩
  | csiFaultPhSingleCrcErr => ⟨19, .csiFault, .harmless, "CSIMUX_FRAME_CSI_FAULT_PH_SINGLE_CRC_ERR"⟩
  | csiFaultEmbeddedLineCrcErr => ⟨20, .csiFault, .corrupting,
      "CSIMUX_FRAME_CSI_FAULT_EMBEDDED_LINE_CRC_ERR"⟩
  | csimuxStreamSpuriousData => ⟨21, .csimuxStream, .harmless, "CSIMUX_STREAM_SPURIOUS_DATA"⟩
  | csimuxStreamFifoOverflow => ⟨22, .csimuxStream, .corrupting, "CSIMUX_STREAM_FIFO_OVERFLOW"⟩
  | csimuxStreamFifoLof => ⟨23, .csimuxStream, .corrupting, "CSIMUX_STREAM_FIFO_LOF"⟩
  | csimuxStreamFifoBadpkt => ⟨24, .csimuxStream, .harmless, "CSIMUX_STREAM_FIFO_BADPKT"⟩
  | frameStartTimeout => ⟨25, .falcon, .corrupting, "FRAME_START_TIMEOUT"⟩
  | frameCompletionTimeout => ⟨26, .falcon, .corrupting, "FRAME_COMPLETION_TIMEOUT"⟩
  | chanselPixelMissingLe => ⟨30, .chansel, .corrupting, "CHANSEL_PIXEL_MISSING_LE"⟩
  | chanselPixelRunaway => ⟨31, .chansel, .corrupting, "CHANSEL_PIXEL_RUNAWAY"⟩
  | chanselPixelSpurious => ⟨32, .chansel, .corrupting, "CHANSEL_PIXEL_SPURIOUS"⟩
  | chanselPixelLongLine => ⟨33, .chansel, .corrupting, "CHANSEL_PIXEL_LONG_LINE"⟩
  | chanselPixelShortLine => ⟨34, .chansel, .corrupting, "CHANSEL_PIXEL_SHORT_LINE"⟩
  | chanselEmbedMissingLe => ⟨35, .chansel, .corrupting, "CHANSEL_EMBED_MISSING_LE"⟩
  | chanselEmbedRunaway => ⟨36, .chansel, .corrupting, "CHANSEL_EMBED_RUNAWAY"⟩
  | chanselEmbedSpurious => ⟨37, .chansel, .corrupting, "CHANSEL_EMBED_SPURIOUS"⟩
  | chanselEmbedLongLine => ⟨38, .chansel, .corrupting, "CHANSEL_EMBED_LONG_LINE"⟩
  | chanselEmbedInfringe => ⟨39, .chansel, .corrupting, "CHANSEL_EMBED_INFRINGE"⟩
  | chanselDtypeMismatch => ⟨40, .chansel, .corrupting, "CHANSEL_DTYPE_MISMATCH"⟩
  | chanselPixShort => ⟨42, .chansel, .corrupting, "CHANSEL_PIX_SHORT"⟩
  | chanselEmbShort => ⟨43, .chansel, .corrupting, "CHANSEL_EMB_SHORT"⟩
  | pfsdFault => ⟨44, .chansel, .corrupting, "PFSD_FAULT"⟩
  | chanselFaultFe => ⟨45, .chansel, .corrupting, "CHANSEL_FAULT_FE"⟩
  | chanselNoMatch => ⟨46, .chansel, .harmless, "CHANSEL_NO_MATCH"⟩
  | chanselCollision => ⟨47, .chansel, .corrupting, "CHANSEL_COLLISION"⟩
  | chanselLoadFramed => ⟨48, .chansel, .harmless, "CHANSEL_LOAD_FRAMED"⟩
  | atompPackerOverflow => ⟨49, .atomp, .corrupting, "ATOMP_PACKER_OVERFLOW"⟩
  | atompFrameTruncated => ⟨50, .atomp, .corrupting, "ATOMP_FRAME_TRUNCATED"⟩
  | atompFrameTossed => ⟨51, .atomp, .corrupting, "ATOMP_FRAME_TOSSED"⟩
  | unclassifiedError => ⟨63, .unclassified, .corrupting, "UNCLASSIFIED_ERROR"⟩

/-- The position of the bit in the notify word. -/
def position (bit : NotifyBit) : UInt8 := bit.entry.position

/-- The hardware block that raises the bit. -/
def source (bit : NotifyBit) : NotifySource := bit.entry.source

/-- Whether the bit alone makes a frame unusable. -/
def impact (bit : NotifyBit) : FrameImpact := bit.entry.impact

/-- The name of the bit in logs. -/
def name (bit : NotifyBit) : String := bit.entry.name

/-- The notify word in which only this bit is set. -/
def mask (bit : NotifyBit) : UInt64 := 1 <<< bit.position.toUInt64

/-- Whether the bit alone makes a frame unusable. -/
def isCorrupting (bit : NotifyBit) : Bool := bit.impact == .corrupting

/-- The catalogued bits of a notify word, lowest first. -/
def ofWord (bits : UInt64) : List NotifyBit := all.filter fun bit => bits &&& bit.mask != 0

/-- The notify word in which the given bits are set. -/
def union (bits : List NotifyBit) : UInt64 := bits.foldl (fun word bit => word ||| bit.mask) 0

/-- Every catalogued bit. -/
def knownMask : UInt64 := union all

/-- Every catalogued bit that makes a frame unusable. -/
def corruptingMask : UInt64 := union (all.filter isCorrupting)

/-- The catalogued bit at a position. -/
def ofPosition? (position : UInt8) : Option NotifyBit :=
  all.find? fun bit => bit.position == position

/-- What a name may begin with. -/
def nameLead : String := "CAPTURE_STATUS_NOTIFY_BIT_"

/-- A second name of the unclassified error. -/
def unclassifiedAlias : String := "NON_CLASSIFIED_0"

/-- The bit with a name, which may be written with or without its usual beginning. -/
def ofName? (name : String) : Option NotifyBit :=
  let bare := (Text.after? nameLead name).getD name
  if bare = unclassifiedAlias then some unclassifiedError
  else all.find? fun bit => bit.name == bare

end NotifyBit

end CaptureProtocol
