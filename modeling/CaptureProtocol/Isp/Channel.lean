import CaptureProtocol.Channel.Address
import CaptureProtocol.Channel.Syncpoint
import CaptureProtocol.Channel.Tables
import CaptureProtocol.Isp.Descriptor

/-!
# Configurations of an ISP channel

An ISP channel has a ring of process requests and a ring of programs, each with a memory-info ring
beside it. As for a VI channel, settings become a configuration when they satisfy every rule, and a
configuration is written as the record of the channel setup message.
-/

set_option autoImplicit false

namespace CaptureProtocol

/-- A ring as an ISP channel describes it. -/
@[ext] structure RingShape where
  base : Address := 0
  depth : UInt32 := 0
  /-- Bytes of a slot. -/
  size : UInt32 := 0
  deriving DecidableEq, Repr, Inhabited

/-- The smallest slot of the program ring: a descriptor and a whole program. -/
def minProgramSlotBytes : UInt32 := programDescriptorBytes + programBytes

/-- What an ISP channel is asked to be. -/
structure IspSettings where
  flags : FlagSet .ispChannel := .empty
  requests : RingShape := {}
  programs : RingShape := { size := minProgramSlotBytes }
  progress : Syncpoint := .unused
  statsProgress : Syncpoint := .unused
  requestInfo : Address := 0
  programInfo : Address := 0
  requestInfoSize : UInt32 := 0
  programInfoSize : UInt32 := 64
  unit : UInt32 := Layout.firstUnit
  gosTables : List Address := []
  deriving DecidableEq, Inhabited

/-- One thing asked of an ISP channel. -/
inductive IspStep where
  /-- Adds flags. -/
  | flags (flags : FlagSet .ispChannel)
  | requests (shape : RingShape)
  | programs (shape : RingShape)
  /-- The base and slot size of both memory-info rings. -/
  | memoryInfo (requests : Address) (requestSize : UInt32) (programs : Address)
      (programSize : UInt32)
  | progress (sp : Syncpoint)
  | statsProgress (sp : Syncpoint)
  | unit (id : UInt32)
  /-- Adds a Grid-of-Semaphores table after the ones that are there. -/
  | gosTable (base : Address)
  deriving DecidableEq

/-- The words of an ISP channel record in order. -/
abbrev IspSettings.Words :=
  FlagSet .ispChannel × RingShape × RingShape × Syncpoint.Words × Syncpoint.Words × UInt64 ×
    UInt64 × UInt32 × UInt32 × UInt32 × UInt32 × Vector UInt64 Layout.ispGosTables

namespace IspSettings

/-- The settings after one more step. -/
def apply (s : IspSettings) : IspStep → IspSettings
  | .flags flags => { s with flags := s.flags.union flags }
  | .requests shape => { s with requests := shape }
  | .programs shape => { s with programs := shape }
  | .memoryInfo requests requestSize programs programSize =>
    { s with
      requestInfo := requests
      requestInfoSize := requestSize
      programInfo := programs
      programInfoSize := programSize }
  | .progress sp => { s with progress := sp }
  | .statsProgress sp => { s with statsProgress := sp }
  | .unit id => { s with unit := id }
  | .gosTable base => { s with gosTables := s.gosTables ++ [base] }

/-- The settings after some steps, from the defaults on. -/
def ofSteps (steps : List IspStep) : IspSettings := steps.foldl apply {}

/-- What the settings must satisfy, in the order in which violations are reported. -/
def rules (s : IspSettings) : List Rule :=
  Rule.ringBase "requests" s.requests.base ++
  [.depth "queue_depth" s.requests.depth Layout.maxQueueDepth] ++
  Rule.ringEntry "request_size" s.requests.size 64 ++
  Rule.ringBase "programs" s.programs.base ++
  [.depth "program_queue_depth" s.programs.depth Layout.maxProgramQueueDepth] ++
  Rule.ringEntry "program_size" s.programs.size minProgramSlotBytes ++
  Rule.ringBase "requests_memoryinfo" s.requestInfo ++
  Rule.ringBase "programs_memoryinfo" s.programInfo ++
  Rule.ringEntry "request_memoryinfo_size" s.requestInfoSize 64 ++
  Rule.ringEntry "program_memoryinfo_size" s.programInfoSize 16 ++
  [.ringBytes "request ring" s.requests.depth s.requests.size,
    .ringBytes "program ring" s.programs.depth s.programs.size,
    .ringBytes "request memoryinfo ring" s.requests.depth s.requestInfoSize,
    .ringBytes "program memoryinfo ring" s.programs.depth s.programInfoSize,
    .atMost "isp_unit_id" s.unit.toUInt64 Layout.lastUnit.toUInt64] ++
  Rule.gosTables "isp_gos_tables" s.gosTables Layout.ispGosTables

end IspSettings

/-- Settings of an ISP channel that satisfy every rule. -/
structure IspConfig where
  settings : IspSettings
  accepted : Rule.Accepted settings.rules
  deriving DecidableEq

namespace IspSettings

/-- The configuration with these settings, or the first rule that they break. -/
def build (s : IspSettings) : Except ConfigViolation IspConfig :=
  Rule.enforce s.rules fun h => ⟨s, h⟩

/-! ## The record -/

/-- The format of a ring's description. -/
def shapeCodec : Codec RingShape :=
  (Codec.pair .u64 <| .pair .u32 .u32).iso (fun (a, b, c) => ⟨a, b, c⟩)
    (fun r => (r.base, r.depth, r.size)) (fun _ => rfl) (fun _ => rfl)

/-- The format of an ISP channel record. -/
def codec : Codec Words :=
  .pair (.skip 4 (.flags .ispChannel)) <| .pair shapeCodec <| .pair shapeCodec <|
    .pair Syncpoint.codec <| .pair Syncpoint.codec <| .pair .u64 <| .pair .u64 <| .pair .u32 <|
    .pair .u32 <| .pair .u32 <| .pair .u32 (.array .u64 _)

/-- The words that describe settings. -/
def words (s : IspSettings) : Words :=
  (s.flags, s.requests, s.programs, s.progress.words, s.statsProgress.words, s.requestInfo,
    s.programInfo, s.requestInfoSize, s.programInfoSize, s.unit, Tables.count s.gosTables,
    Tables.entries Layout.ispGosTables 0 s.gosTables)

/-- The settings that the words of a record describe. -/
def ofWords : Words → Except ConfigViolation IspSettings
  | (flags, requests, programs, progress, statsProgress, requestInfo, programInfo,
      requestInfoSize, programInfoSize, unit, count, tables) => do
    let progress ← Syncpoint.ofWords progress
    let statsProgress ← Syncpoint.ofWords statsProgress
    let gosTables ← Rule.enforce
      [.noMoreThan "num_isp_gos_tables" count.toNat Layout.ispGosTables]
      fun _ => Tables.ofEntries count tables
    pure ⟨flags, requests, programs, progress, statsProgress, requestInfo, programInfo,
      requestInfoSize, programInfoSize, unit, gosTables⟩

theorem size_codec : codec.size = 184 := by
  simp only [codec, shapeCodec, Codec.size_iso, Codec.size_pair, Codec.size_skip, Codec.size_array,
    Codec.size_flags, Codec.size_u32, Codec.size_u64, Syncpoint.size_codec]
  rfl

end IspSettings

namespace IspConfig

/-- The bytes of a configuration's record. -/
def bytes (c : IspConfig) : Bytes := IspSettings.codec.write c.settings.words

/-- The record of a configuration. -/
def encode (c : IspConfig) : Except CaptureError Bytes :=
  c.bytes.finish "capture_channel_isp_config" 184

/-- The configuration in the record at the front of some bytes. -/
def decode (bytes : Bytes) : Except CaptureError IspConfig := do
  let words ← IspSettings.codec.decode "capture_channel_isp_config" bytes
  let settings ← IspSettings.ofWords words
  settings.build

end IspConfig

end CaptureProtocol
