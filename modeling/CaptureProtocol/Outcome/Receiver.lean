/-!
# Receiver errors

The CSI receiver reports four error words with a frame, one for each of its blocks. They explain
what the receiver saw and have no part in the verdict on the frame.
-/

set_option autoImplicit false

namespace CaptureProtocol

/-- Masks with their names. -/
abbrev BitNames := List (UInt32 × String)

namespace BitNames

/-- Every bit of some mask of the table. -/
def known (table : BitNames) : UInt32 := table.foldl (fun word row => word ||| row.1) 0

/-- The names whose mask meets a word, in the order of the table. -/
def namesOf (table : BitNames) (bits : UInt32) : List String :=
  (table.filter fun row => bits &&& row.1 != 0).map Prod.snd

/-- The bits of a word that no mask of the table has. -/
def leftover (table : BitNames) (bits : UInt32) : UInt32 := bits &&& ~~~table.known

end BitNames

/-- A block of the receiver. -/
inductive ReceiverBlock where
  | stream | virtualChannel | cilA | cilB
  deriving DecidableEq, Repr

namespace ReceiverBlock

/-- The name of a block in reports. -/
def name : ReceiverBlock → String
  | stream => "stream"
  | virtualChannel => "virtual channel"
  | cilA => "CIL A"
  | cilB => "CIL B"

/-- Errors of a whole stream, lowest bit first. -/
def streamErrors : BitNames := [(0x1, "PH_ECC_MULTI_BIT_ERR"), (0x2, "PH_BOTH_CRC_ERR")]

/-- Errors of a virtual channel, lowest bit first. -/
def virtualChannelErrors : BitNames :=
  [(0x1, "PPFSM_TIMEOUT"), (0x2, "PH_ECC_SINGLE_BIT_ERR"), (0x4, "PD_CRC_ERR"),
    (0x8, "PD_WC_SHORT_ERR"), (0x10, "PH_SINGLE_CRC_ERR"), (0x20, "EMBEDDED_LINE_CRC_ERR")]

/-- Errors of the interface logic of a partition, lowest bit first. -/
def interfaceErrors : BitNames :=
  [(0x1, "DPHY_CLK_LANE_CTRL_ERR"), (0x2, "DATA_LANE_SOT_SB_ERR0"),
    (0x4, "DATA_LANE_SOT_MB_ERR0"), (0x8, "DATA_LANE_CTRL_ERR0"),
    (0x10, "DATA_LANE_RXFIFO_FULL_ERR0"), (0x20, "DATA_LANE_SOT_SB_ERR1"),
    (0x40, "DATA_LANE_SOT_MB_ERR1"), (0x80, "DATA_LANE_CTRL_ERR1"),
    (0x100, "DATA_LANE_RXFIFO_FULL_ERR1"), (0x200, "DPHY_DESKEW_CALIB_ERR_LANE0"),
    (0x400, "DPHY_DESKEW_CALIB_ERR_LANE1"), (0x800, "DPHY_DESKEW_CALIB_ERR_CTRL"),
    (0x1000, "DPHY_LANE_ALIGN_ERR"), (0x2000, "DATA_LANE_ESC_MODE_SYNC_ERR0"),
    (0x4000, "DATA_LANE_ESC_MODE_SYNC_ERR1")]

/-- The names of a block's errors. -/
def errors : ReceiverBlock → BitNames
  | stream => streamErrors
  | virtualChannel => virtualChannelErrors
  | cilA | cilB => interfaceErrors

end ReceiverBlock

/-- What one bit, or the nameless bits, of a block's error word say. -/
inductive ReceiverError where
  /-- An error with a name. -/
  | named (block : ReceiverBlock) (name : String)
  /-- Bits without a name. -/
  | unnamed (block : ReceiverBlock) (bits : UInt32)
  deriving DecidableEq, Repr

/-- The error words of the receiver, one for each block. -/
@[ext] structure ReceiverStatus where
  stream : UInt32 := 0
  virtualChannel : UInt32 := 0
  cilA : UInt32 := 0
  cilB : UInt32 := 0
  deriving DecidableEq, Repr, Inhabited

namespace ReceiverStatus

/-- Whether no error was seen. -/
def isEmpty (status : ReceiverStatus) : Bool :=
  status.stream == 0 && status.virtualChannel == 0 && status.cilA == 0 && status.cilB == 0

/-- The errors of one block: the named ones, lowest bit first, and then the nameless bits. -/
def errorsOf (block : ReceiverBlock) (bits : UInt32) : List ReceiverError :=
  let leftover := block.errors.leftover bits
  (block.errors.namesOf bits).map (.named block) ++
    if leftover = 0 then [] else [.unnamed block leftover]

/-- The errors of all blocks, in the order of the blocks. -/
def errors (status : ReceiverStatus) : List ReceiverError :=
  errorsOf .stream status.stream ++ errorsOf .virtualChannel status.virtualChannel ++
    errorsOf .cilA status.cilA ++ errorsOf .cilB status.cilB

end ReceiverStatus

end CaptureProtocol
