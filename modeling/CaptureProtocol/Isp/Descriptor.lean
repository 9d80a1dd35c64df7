import CaptureProtocol.Isp.Status
import CaptureProtocol.Rule

/-!
# ISP program descriptors

A slot of the ISP program ring begins with a 64-byte descriptor, which says where in the slot the
program stands, which frames it is for, and what became of its last use.
-/

set_option autoImplicit false

namespace CaptureProtocol

/-- The channel number that stands for processing from memory to memory. -/
def noViChannel : UInt8 := 0xFF

/-- Size of a program descriptor in bytes. -/
def programDescriptorBytes : UInt32 := 64

/-- Size of a whole program in bytes. -/
def programBytes : UInt32 := 16512

/-- The descriptor of an ISP program. -/
structure ProgramDescriptor where
  settings : UInt8 := 0
  /-- The VI channel that the program is for; none for processing from memory to memory. -/
  viChannel : Option UInt8 := none
  /-- The first frame that the program applies to. -/
  sequence : UInt32 := 0
  /-- Where the program begins, counted from the descriptor. -/
  offset : UInt32 := programDescriptorBytes
  size : UInt32 := programBytes
  /-- The base of the first push buffer. -/
  pushBufferBase : UInt64 := 0
  /-- What became of the last use of the program. -/
  status : Option IspProgramStatus := none
  statsBuffer : UInt64 := 0
  programBuffer : UInt64 := 0
  activate : FlagSet .activate := .empty
  deriving DecidableEq, Repr

namespace ProgramDescriptor

/-- What a descriptor must satisfy, in the order in which violations are reported. -/
def rules (d : ProgramDescriptor) : List Rule :=
  [.aligned "isp_program_offset" d.offset.toUInt64 Layout.descriptorAlign,
    .consistent "ISP program overlaps its descriptor" (decide (programDescriptorBytes ≤ d.offset)),
    .consistent "ISP program size is zero" (d.size != 0),
    .atMost "isp_program_size" d.size.toUInt64 programBytes.toUInt64,
    .aligned "isp_pb1_mem" d.pushBufferBase Layout.descriptorAlign]

/-- Nothing, or the first rule that the descriptor breaks. -/
def validate (d : ProgramDescriptor) : Except ConfigViolation Unit :=
  Rule.enforce d.rules fun _ => ()

/-! ## The record -/

/-- The words of a program descriptor in order. -/
abbrev Words :=
  UInt8 × UInt8 × UInt32 × UInt32 × UInt32 × UInt64 × IspProgramStatus.Words × UInt64 × UInt64 ×
    FlagSet .activate

/-- The format of a program descriptor. -/
def codec : Codec Words :=
  .pair .u8 <| .pair (.gap .u8 2) <| .pair .u32 <| .pair .u32 <| .pair .u32 <| .pair .u64 <|
    .pair IspProgramStatus.codec <| .pair .u64 <| .pair .u64 (.gap (.flags .activate) 4)

/-- The words of a descriptor; without a status those of an unused program. -/
def words (d : ProgramDescriptor) : Words :=
  (d.settings, d.viChannel.getD noViChannel, d.sequence, d.offset, d.size, d.pushBufferBase,
    (d.status.getD {}).words, d.statsBuffer, d.programBuffer, d.activate)

/-- The descriptor that the words of a record describe; an unused program has no status. -/
def ofWords : Words → Except CaptureError ProgramDescriptor
  | (settings, viChannel, sequence, offset, size, pushBufferBase, status, statsBuffer,
      programBuffer, activate) => do
    let status ← IspProgramStatus.ofWords status
    pure ⟨settings, if viChannel = noViChannel then none else some viChannel, sequence, offset,
      size, pushBufferBase, if status.code = .unknown then none else some status, statsBuffer,
      programBuffer, activate⟩

/-- The record of a descriptor that satisfies the rules. -/
def encode (d : ProgramDescriptor) : Except CaptureError Bytes := do
  d.validate
  (codec.write d.words).finish "isp_program_descriptor" programDescriptorBytes.toNat

/-- The descriptor in the record at the front of some bytes. -/
def decode (bytes : Bytes) : Except CaptureError ProgramDescriptor := do
  ofWords (← codec.decode "isp_program_descriptor" bytes)

theorem size_codec : codec.size = 64 := by
  simp only [codec, Codec.size_pair, Codec.size_gap, Codec.size_flags, Codec.size_u8,
    Codec.size_u32, Codec.size_u64, IspProgramStatus.size_codec]

end ProgramDescriptor

end CaptureProtocol
