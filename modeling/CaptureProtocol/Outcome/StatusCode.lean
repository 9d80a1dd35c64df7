/-!
# Completion status codes

The codes that the coprocessor writes when it has finished a capture, an ISP process request or an
ISP program. Code 0 means that it has not finished; every other code is final.
-/

set_option autoImplicit false

namespace CaptureProtocol

/-- The result code of a capture. -/
inductive StatusCode where
  /-- Not executed, or still in progress. -/
  | unknown
  /-- The frame was captured. -/
  | success
  /-- An error at a frame boundary, or a CSI error reported with the frame end. -/
  | csimuxFrame
  /-- An error in the stream interface. -/
  | csimuxStream
  | chanselFault
  | chanselFaultFe
  /-- A frame start matched a channel that was already in a frame. -/
  | chanselCollision
  | chanselShortFrame
  /-- The surface packer overflowed. -/
  | atompPackerOverflow
  /-- The frame was cut short while it was written to memory. -/
  | atompFrameTruncated
  /-- The frame was discarded while it was written to memory. -/
  | atompFrameTossed
  | ispbufFifoOverflow
  /-- An error left over from an earlier frame. -/
  | syncFailure
  | notifierBackendDown
  /-- An error that the notify bits tell more about. -/
  | falconError
  /-- The frame matched no active channel. -/
  | chanselNomatch
  /-- The capture settings were refused. -/
  | invalidCapSettings
  deriving DecidableEq, Repr

namespace StatusCode

/-- The codes by number, from 0 on. -/
def all : List StatusCode :=
  [unknown, success, csimuxFrame, csimuxStream, chanselFault, chanselFaultFe, chanselCollision,
    chanselShortFrame, atompPackerOverflow, atompFrameTruncated, atompFrameTossed,
    ispbufFifoOverflow, syncFailure, notifierBackendDown, falconError, chanselNomatch,
    invalidCapSettings]

/-- The number of a code. -/
def raw : StatusCode → UInt32
  | unknown => 0 | success => 1 | csimuxFrame => 2 | csimuxStream => 3 | chanselFault => 4
  | chanselFaultFe => 5 | chanselCollision => 6 | chanselShortFrame => 7
  | atompPackerOverflow => 8 | atompFrameTruncated => 9 | atompFrameTossed => 10
  | ispbufFifoOverflow => 11 | syncFailure => 12 | notifierBackendDown => 13 | falconError => 14
  | chanselNomatch => 15 | invalidCapSettings => 16

/-- The code with a number. -/
def ofRaw? (raw : UInt32) : Option StatusCode := all.find? fun code => code.raw == raw

/-- The name of a code in logs. -/
def name : StatusCode → String
  | unknown => "UNKNOWN"
  | success => "SUCCESS"
  | csimuxFrame => "CSIMUX_FRAME"
  | csimuxStream => "CSIMUX_STREAM"
  | chanselFault => "CHANSEL_FAULT"
  | chanselFaultFe => "CHANSEL_FAULT_FE"
  | chanselCollision => "CHANSEL_COLLISION"
  | chanselShortFrame => "CHANSEL_SHORT_FRAME"
  | atompPackerOverflow => "ATOMP_PACKER_OVERFLOW"
  | atompFrameTruncated => "ATOMP_FRAME_TRUNCATED"
  | atompFrameTossed => "ATOMP_FRAME_TOSSED"
  | ispbufFifoOverflow => "ISPBUF_FIFO_OVERFLOW"
  | syncFailure => "SYNC_FAILURE"
  | notifierBackendDown => "NOTIFIER_BACKEND_DOWN"
  | falconError => "FALCON_ERROR"
  | chanselNomatch => "CHANSEL_NOMATCH"
  | invalidCapSettings => "INVALID_CAP_SETTINGS"

/-- Whether the coprocessor has finished with the request. -/
def isFinal (code : StatusCode) : Bool := code != unknown

/-- Whether the code is no longer reported. -/
def isDeprecated : StatusCode → Bool
  | chanselFault | chanselFaultFe | chanselShortFrame | ispbufFifoOverflow
  | notifierBackendDown => true
  | _ => false

theorem ofRaw?_raw (code : StatusCode) : ofRaw? code.raw = some code := by
  cases code <;> rfl

theorem raw_of_ofRaw? {raw : UInt32} {code : StatusCode} (h : ofRaw? raw = some code) :
    code.raw = raw := by
  simpa using List.find?_some h

theorem raw_le (code : StatusCode) : code.raw.toNat ≤ 16 := by
  cases code <;> decide

/-- The numbers up to 16 stand for codes and no others do. -/
theorem ofRaw?_eq_none_iff {raw : UInt32} : ofRaw? raw = none ↔ 16 < raw.toNat := by
  have hall : ∀ n < 17, ∃ code ∈ all, code.raw.toNat = n := by decide
  constructor
  · intro h
    refine Nat.lt_of_not_le fun hle => ?_
    obtain ⟨code, -, hcode⟩ := hall raw.toNat (Nat.lt_succ_of_le hle)
    rw [← UInt32.toNat_inj.mp hcode, ofRaw?_raw] at h
    cases h
  · intro h
    cases hr : ofRaw? raw with
    | none => rfl
    | some code =>
      have hle := code.raw_le
      rw [raw_of_ofRaw? hr] at hle
      omega

end StatusCode

/-- The result code of an ISP process request. -/
inductive IspStatusCode where
  /-- Not processed yet. -/
  | unknown
  /-- The frame was processed. -/
  | success
  /-- Processing failed. -/
  | error
  deriving DecidableEq, Repr

namespace IspStatusCode

/-- The codes by number, from 0 on. -/
def all : List IspStatusCode := [unknown, success, error]

/-- The number of a code. -/
def raw : IspStatusCode → UInt32
  | unknown => 0 | success => 1 | error => 2

/-- The code with a number. -/
def ofRaw? (raw : UInt32) : Option IspStatusCode := all.find? fun code => code.raw == raw

/-- The name of a code. -/
def name : IspStatusCode → String
  | unknown => "Unknown" | success => "Success" | error => "Error"

end IspStatusCode

/-- The result code of an ISP program. -/
inductive IspProgramStatusCode where
  /-- Not used yet. -/
  | unknown
  /-- Used for processing a frame. -/
  | success
  /-- The program hit an error. -/
  | error
  /-- No process request uses the program any more. -/
  | stale
  deriving DecidableEq, Repr

namespace IspProgramStatusCode

/-- The codes by number, from 0 on. -/
def all : List IspProgramStatusCode := [unknown, success, error, stale]

/-- The number of a code. -/
def raw : IspProgramStatusCode → UInt32
  | unknown => 0 | success => 1 | error => 2 | stale => 3

/-- The code with a number. -/
def ofRaw? (raw : UInt32) : Option IspProgramStatusCode :=
  all.find? fun code => code.raw == raw

/-- The name of a code. -/
def name : IspProgramStatusCode → String
  | unknown => "Unknown" | success => "Success" | error => "Error" | stale => "Stale"

theorem ofRaw?_raw (code : IspProgramStatusCode) : ofRaw? code.raw = some code := by
  cases code <;> rfl

theorem raw_of_ofRaw? {raw : UInt32} {code : IspProgramStatusCode} (h : ofRaw? raw = some code) :
    code.raw = raw := by
  simpa using List.find?_some h

end IspProgramStatusCode

end CaptureProtocol
