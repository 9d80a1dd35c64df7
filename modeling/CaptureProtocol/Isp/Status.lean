import CaptureProtocol.Outcome.StatusCode
import CaptureProtocol.Record.Decode

/-!
# ISP status records

What the coprocessor reports about an ISP process request and about an ISP program.
-/

set_option autoImplicit false

namespace CaptureProtocol

/-- The report on one ISP process request. -/
@[ext] structure IspStatus where
  channel : UInt8 := 0
  frameId : UInt16 := 0
  code : IspStatusCode := .unknown
  errors : FlagSet .ispError := .empty
  deriving DecidableEq, Repr

namespace IspStatus

/-- The words of a process status record in order. -/
abbrev Words := UInt8 × UInt16 × UInt32 × FlagSet .ispError

/-- The format of a process status record. -/
def codec : Codec Words :=
  .pair (.gap .u8 1) <| .pair .u16 <| .pair .u32 (.gap (.flags .ispError) 4)

/-- The status that the words of a record describe, if its code is known. -/
def ofWords : Words → Except CaptureError IspStatus
  | (channel, frameId, raw, errors) =>
    match IspStatusCode.ofRaw? raw with
    | some code => .ok ⟨channel, frameId, code, errors⟩
    | none => .error (.invalidStatusCode "capture_isp_status" raw)

/-- The status in the record at the front of some bytes. -/
def decode (bytes : Bytes) : Except CaptureError IspStatus := do
  ofWords (← codec.decode "capture_isp_status" bytes)

/-- The status of a finished request, or that request `sequence` is not ready. -/
def requireFinal (status : IspStatus) (sequence : UInt32) : Except CaptureError IspStatus :=
  if status.code = .unknown then .error (.notReady sequence) else .ok status

theorem size_codec : codec.size = 16 := rfl

end IspStatus

/-- The report on the last use of an ISP program. -/
@[ext] structure IspProgramStatus where
  channel : UInt8 := 0
  settings : UInt8 := 0
  code : IspProgramStatusCode := .unknown
  errors : FlagSet .ispError := .empty
  deriving DecidableEq, Repr

namespace IspProgramStatus

/-- The words of a program status record in order. -/
abbrev Words := UInt8 × UInt8 × UInt32 × FlagSet .ispError

/-- The format of a program status record. -/
def codec : Codec Words :=
  .pair .u8 <| .pair (.gap .u8 2) <| .pair .u32 (.gap (.flags .ispError) 4)

/-- The words of a status. -/
def words (s : IspProgramStatus) : Words := (s.channel, s.settings, s.code.raw, s.errors)

/-- The status that the words of a record describe, if its code is known. -/
def ofWords : Words → Except CaptureError IspProgramStatus
  | (channel, settings, raw, errors) =>
    match IspProgramStatusCode.ofRaw? raw with
    | some code => .ok ⟨channel, settings, code, errors⟩
    | none => .error (.invalidStatusCode "capture_isp_program_status" raw)

/-- The status in the record at the front of some bytes. -/
def decode (bytes : Bytes) : Except CaptureError IspProgramStatus := do
  ofWords (← codec.decode "capture_isp_program_status" bytes)

/-- Whether no request uses the program any more, so that its slot is free. -/
def isStale (status : IspProgramStatus) : Bool := status.code == .stale

theorem size_codec : codec.size = 16 := rfl

theorem ofWords_words (s : IspProgramStatus) : ofWords s.words = .ok s := by
  simp [ofWords, words, IspProgramStatusCode.ofRaw?_raw]

end IspProgramStatus

end CaptureProtocol
