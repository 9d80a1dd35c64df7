/-!
# The flag words of the protocol

Each record word whose bits are flags belongs to a family, which names its flags in declaration
order.
-/

set_option autoImplicit false

namespace CaptureProtocol

/-- The kinds of flag words. -/
inductive FlagFamily where
  /-- Resources that a VI channel needs. -/
  | channel
  /-- Errors that a VI channel reports to the system error handler. -/
  | channelError
  /-- What a capture request reports. -/
  | capture
  /-- Which VI features a frame uses. -/
  | vi
  /-- Conditions reported with a capture status. -/
  | status
  /-- Options of an ISP channel. -/
  | ispChannel
  /-- Options of an ISP process request. -/
  | ispProcess
  /-- Errors reported with an ISP status. -/
  | ispError
  /-- When an ISP program becomes active. -/
  | activate
  deriving DecidableEq, Repr

namespace FlagFamily

/-- The name that a word of the family is printed under. -/
def title : FlagFamily → String
  | channel => "ChannelFlags"
  | channelError => "ChannelErrorMask"
  | capture => "CaptureFlags"
  | vi => "ViChannelFlags"
  | status => "StatusFlags"
  | ispChannel => "IspChannelFlags"
  | ispProcess => "IspProcessFlags"
  | ispError => "IspErrorMask"
  | activate => "ActivateFlags"

/-- The named flags in declaration order, each a single bit. -/
def flags : FlagFamily → List (String × UInt32)
  | channel =>
    [("VIDEO", 0x1), ("RAW", 0x2), ("PLANAR", 0x4), ("SEMI_PLANAR", 0x8), ("PDAF", 0x10),
      ("EMBDATA", 0x40), ("ISPA", 0x80), ("ISPB", 0x100), ("ISP_DIRECT", 0x200),
      ("ISPSW", 0x400), ("RESET_ON_ERROR", 0x800), ("LINETIMER", 0x1000), ("SLVSEC", 0x2000),
      ("ENABLE_HSM_ERROR_MASKS", 0x4000), ("ENABLE_VI_PFSD", 0x8000), ("CSI", 0x10000)]
  | channelError =>
    [("PIXEL_MISSING_LE", 0x20), ("PIXEL_RUNAWAY", 0x40), ("PIXEL_SPURIOUS", 0x80),
      ("PIXEL_LONG_LINE", 0x100), ("PIXEL_SHORT_LINE", 0x200), ("EMBED_MISSING_LE", 0x400),
      ("EMBED_RUNAWAY", 0x800), ("EMBED_SPURIOUS", 0x1000), ("EMBED_LONG_LINE", 0x2000),
      ("EMBED_INFRINGE", 0x4000), ("DTYPE_MISMATCH", 0x8000), ("LOAD_FRAMED", 0x10000),
      ("FORCE_FE", 0x20000), ("COLLISION", 0x40000), ("STALE_FRAME", 0x80000),
      ("INCOMPLETE", 0x100000), ("EMBED_INCOMPLETE", 0x200000), ("VI_PFSD_FAULT", 0x400000),
      ("VI_FRAME_START_TIMEOUT", 0x800000)]
  | capture => [("STATUS_REPORT_ENABLE", 0x1), ("ERROR_REPORT_ENABLE", 0x2)]
  | vi =>
    [("DT_ENABLE", 0x1), ("EMBDATA_ENABLE", 0x2), ("FLUSH_ENABLE", 0x4),
      ("FLUSH_PERIODIC", 0x8), ("LINE_TIMER_ENABLE", 0x10), ("LINE_TIMER_PERIODIC", 0x20),
      ("PIXFMT_ENABLE", 0x40), ("PIXFMT_WIDE_ENABLE", 0x80), ("PIXFMT_WIDE_ENDIAN", 0x100),
      ("PIXFMT_PDAF_REPLACE_ENABLE", 0x200), ("ISPBUFA_ENABLE", 0x400),
      ("ISPBUFB_ENABLE", 0x800), ("COMPAND_ENABLE", 0x1000)]
  | status => [("CHANNEL_IN_ERROR", 0x2)]
  | ispChannel => [("RESET_ON_ERROR", 0x1)]
  | ispProcess =>
    [("STATUS_REPORT_ENABLE", 0x1), ("ERROR_REPORT_ENABLE", 0x2), ("ISP_PROGRAM_BINDING", 0x4)]
  | ispError =>
    [("DMA_PBUF_ERR", 0x1), ("DMA_SBUF_ERR", 0x2), ("DMA_SEQ_ERR", 0x4), ("FRAMEID_ERR", 0x8),
      ("TIMEOUT", 0x10), ("TASK_TIMEOUT", 0x20)]
  | activate => [("ON_SEQUENCE_ID", 0x1), ("ON_SETTINGS_ID", 0x2), ("COUPLED", 0x4)]

/-- The bits that have a name. -/
def named (family : FlagFamily) : UInt32 :=
  family.flags.foldl (fun mask flag => mask ||| flag.2) 0

/-- The bits that are known; a status word reserves the right to use any bit. -/
def known : FlagFamily → UInt32
  | status => 0xFFFFFFFF
  | family => family.named

end FlagFamily

end CaptureProtocol
