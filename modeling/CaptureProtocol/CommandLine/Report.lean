import CaptureProtocol.CommandLine.Command
import CaptureProtocol.CommandLine.FileTree
import CaptureProtocol.Csi.DataType
import CaptureProtocol.Isp.Channel
import CaptureProtocol.Isp.Program
import CaptureProtocol.Log
import CaptureProtocol.Outcome.Verdict
import CaptureProtocol.Request.Descriptor
import CaptureProtocol.Request.MemoryInfo

/-!
# Reports

What each command prints. A report is pure: the command, the contents of its file and the log that
is in use determine what goes to standard output and standard error and the exit code. The lines of
the log go to standard output as well, where the events happen, before what is printed afterwards.

* `reportSlots`: the report on the slots of a ring dump, one after another.
* `execute`: a whole command line, in any monad in which files can be read.
* `run`: the outcome of a command line where the files are given.
-/

set_option autoImplicit false

namespace CaptureProtocol.CommandLine

/-- What a run of the program leaves behind. -/
structure Outcome where
  exitCode : Nat
  stdout : String
  stderr : String
  deriving DecidableEq, Repr

namespace Outcome

/-- Success. -/
def ok (lines : List String) : Outcome := ⟨0, Text.unlines lines, ""⟩

/-- Failure after some lines of output, for a reason that may have another one behind it. -/
def failed (lines : List String) (reason : String) (cause : Option String) : Outcome :=
  let behind :=
    match cause with
    | none => ""
    | some cause => "\nCaused by:\n    " ++ cause ++ "\n"
  ⟨1, Text.unlines lines, "Error: " ++ reason ++ "\n" ++ behind⟩

/-- Failure after some lines of output, because of an error of the protocol. -/
def refused (lines : List String) (error : CaptureError) : Outcome :=
  failed lines error.message (error.violation?.map ConfigViolation.message)

end Outcome

/-! ## Layout -/

/-- The records with their sizes and alignments. -/
def records : List (String × Nat × UInt64) :=
  [("syncpoint_info", Syncpoint.codec.size, Layout.messageAlign),
    ("capture_channel_config", ChannelSettings.codec.size, Layout.messageAlign),
    ("capture_descriptor", CaptureRequest.codec.size, Layout.descriptorAlign),
    ("vi_channel_config", ViSettings.codec.size, Layout.messageAlign),
    ("vi_pfsd_config", Pfsd.codec.size, Layout.messageAlign),
    ("capture_status", CaptureStatus.codec.size, Layout.messageAlign),
    ("capture_descriptor_memoryinfo", MemoryInfo.codec.size, Layout.descriptorAlign),
    ("capture_channel_isp_config", IspSettings.codec.size, Layout.messageAlign),
    ("capture_isp_status", IspStatus.codec.size, Layout.messageAlign),
    ("isp_program_descriptor", ProgramDescriptor.codec.size, Layout.descriptorAlign)]

/-- The fields of a capture descriptor with their offsets. -/
def descriptorFields : List (String × Nat) :=
  [("sequence", 0), ("capture_flags", 4), ("frame_start_timeout", 8),
    ("frame_completion_timeout", 10), ("prefence_count", 12), ("prefence", 16), ("ch_cfg", 64),
    ("pfsd_cfg", 224), ("engine_status", 264), ("status", statusOffset), ("output_buffer_id", 328),
    ("watermark_offset", 336)]

/-- The tables of records, fields and limits. -/
def layoutLines : List String :=
  let row (name size align : String) :=
    Text.padRight 32 name ++ " " ++ Text.padLeft 6 ' ' size ++ " " ++ Text.padLeft 6 ' ' align
  let least := toString Layout.minQueueDepth.toNat
  [row "record" "size" "align"] ++
  (records.map fun (name, size, align) => row name (toString size) (toString align.toNat)) ++
  ["", "capture_descriptor fields:"] ++
  (descriptorFields.map fun (name, offset) => "  " ++ Text.column 4 offset ++ "  " ++ name) ++
  ["",
    "Queue depth       : " ++ least ++ "..=" ++ toString Layout.maxQueueDepth.toNat,
    "ISP program depth : " ++ least ++ "..=" ++ toString Layout.maxProgramQueueDepth.toNat,
    "Surface alignment : " ++ toString Layout.surfaceAlign.toNat,
    "GoS table align   : " ++ toString Layout.gosTableAlign.toNat]

/-! ## Verdicts -/

/-- A verdict and the findings behind it. -/
def classificationLines (c : Classification) : List String :=
  ("verdict: " ++ c.verdict.name) ::
    c.diagnostics.map fun d =>
      let tag := if d.isCorrupting then "corrupting" else "advisory"
      "  [" ++ Text.padLeft 10 ' ' tag ++ "] " ++ d.message

/-- The outcome of `classify`. -/
def classifyReport (log : Logger) (raw : UInt32) (notify : UInt64) (receiverChannel : UInt32)
    (channelInError : Bool) : Outcome :=
  match StatusCode.ofRaw? raw with
  | none => .refused [] (.invalidStatusCode "capture_status" raw)
  | some code =>
    let status : CaptureStatus :=
      { code := code
        notifyBits := notify
        receiver := { virtualChannel := receiverChannel }
        flags := if channelInError then StatusFlags.channelInError else .empty }
    .ok (s!"status: {code.name} ({raw.toNat})" ::
      (log.lines status.events ++ classificationLines status.classify))

/-! ## Channel settings -/

/-- Bytes in rows of sixteen, each after its offset, from the given row on. -/
def dumpLines (row : Nat) (bytes : Bytes) : List String :=
  if bytes.isEmpty then []
  else
    ("  " ++ Text.padLeft 4 '0' (Text.hexDigits (row * 16)) ++ ": " ++
      " ".intercalate ((bytes.take 16).map Text.hexByte)) :: dumpLines (row + 1) (bytes.drop 16)
termination_by bytes.length
decreasing_by
  cases bytes with
  | nil => simp at *
  | cons b bytes => simp only [List.length_drop, List.length_cons]; omega

/-- The outcome of `check-config`. -/
def checkConfigReport (log : Logger) (settings : ChannelSettings) (dump : Bool) : Outcome :=
  match settings.build with
  | .error violation => ⟨1, Text.unlines ["rejected: " ++ violation.message], ""⟩
  | .ok config =>
    let lines := log.lines settings.events ++
      ["ok",
        s!"  {config.depth.slots} slots x {config.requestBytes} bytes = " ++
          s!"{config.requestRingBytes} bytes of request ring"]
    if dump then
      match config.encode with
      | .error error => .refused lines error
      | .ok record => .ok (lines ++ dumpLines 0 record)
    else .ok lines

/-! ## Ring dumps -/

/-- What a line on a slot begins with. -/
def slotLead (index : Nat) (sequence : UInt32) : String :=
  "slot " ++ Text.column 3 index ++ "  seq " ++ Text.column 10 sequence.toNat ++ "  "

/-- The lines on a slot: what became of its request, or why that cannot be said. -/
def slotLines (log : Logger) (index : Nat) (sequence : UInt32)
    (status : Except CaptureError CaptureStatus) : List String :=
  match status with
  | .error error => [slotLead index sequence ++ error.message]
  | .ok status =>
    (slotLead index sequence ++ status.code.name ++ "  frame " ++ toString status.frameId.toNat) ::
      (log.lines status.events ++ classificationLines status.classify)

/--
The outcome of going through some slots of a dump after some lines of output. A status that cannot
be read is reported; a sequence number that cannot be read ends the run.
-/
def reportSlots (log : Logger) (dump : Bytes) (size : Nat) (lines : List String) :
    List Nat → Outcome
  | [] => .ok lines
  | index :: indices =>
    let slot := dump.slice (index * size) size
    match storedSequence slot with
    | .error error => .refused lines error
    | .ok sequence =>
      reportSlots log dump size (lines ++ slotLines log index sequence (decodeStatus slot)) indices

/-- The outcome of reading a file that could not be read. -/
def unreadable (file : String) (error : FileError) : Outcome :=
  .failed [] ("reading " ++ file) (some error.message)

/-- The outcome of `decode` on the contents of a file. -/
def decodeReport (log : Logger) (file : String) (queueDepth requestSize : UInt32)
    (only : Option Nat) (contents : Except FileError Bytes) : Outcome :=
  let size := requestSize.toNat
  match QueueDepth.requests queueDepth with
  | .error violation => .refused [] (.configurationInvalid violation)
  | .ok depth =>
    if size < CaptureRequest.codec.size then
      .failed [] (s!"request size {size} is smaller than a " ++
        s!"{CaptureRequest.codec.size}-byte descriptor") none
    else
      match contents with
      | .error error => unreadable file error
      | .ok dump =>
        if dump.length < depth.slots * size then
          .failed [] (s!"{file} holds {dump.length} bytes, ring needs {depth.slots * size}") none
        else
          match only with
          | none => reportSlots log dump size [] (List.range depth.slots)
          | some index =>
            if index < depth.slots then reportSlots log dump size [] [index]
            else .failed [] s!"slot {index} outside a {depth.slots}-slot ring" none

/-! ## ISP programs -/

/-- A program descriptor. -/
def programDescriptorLines (d : ProgramDescriptor) : List String :=
  let channel :=
    match d.viChannel with
    | some channel => toString channel.toNat
    | none => "none (memory-to-memory)"
  ["descriptor:",
    s!"  settings_id   : {d.settings.toNat}",
    "  vi_channel_id : " ++ channel,
    s!"  sequence      : {d.sequence.toNat}",
    s!"  program       : {d.size.toNat} bytes at +{d.offset.toNat}",
    "  activate      : " ++ d.activate.describe] ++
  match d.status with
  | none => []
  | some status =>
    ["  last status   : " ++ status.code.name ++ " (errors " ++ status.errors.describe ++ ")"]

/-- The crop rectangle of an output. -/
def cropLine (crop : CropRect) (output : Nat) : String :=
  s!"  mw{output} crop       : [{crop.left.toNat}..={crop.right.toNat}] x " ++
    s!"[{crop.top.toNat}..={crop.bottom.toNat}]"

/-- The extra pixels that a tile needs. -/
def overfetchText (o : Overfetch) : String :=
  s!"Overfetch \x7b left: {o.left.toNat}, right: {o.right.toNat}, top: {o.top.toNat}, " ++
    s!"bottom: {o.bottom.toNat}, pru_ovf_h: {o.horizontal.toNat}, " ++
    s!"alignment: {o.alignment.toNat} \x7d"

/-- An ISP program. -/
def programLines (p : IspProgram) : List String :=
  [s!"ISP program ({p.generation.name})",
    "  enables_config : " ++ Text.hexPadded 8 p.enables.toNat,
    "  stats_aidx     : " ++ Text.hexPadded 8 p.statsFlags.toNat,
    s!"  pushbuffer     : {p.pushBuffer.length} words",
    "  overfetch      : " ++ overfetchText p.overfetch] ++
  (p.crops.toList.zipIdx.map fun (crop, output) => cropLine crop output) ++
  [s!"  stats surface  : {p.statsLayout.total.toNat} bytes"]

/-- The outcome of printing the program in some bytes after some lines of output. -/
def programBody (log : Logger) (lines : List String) (bytes : Bytes) : Outcome :=
  let lines := lines ++ log.lines (IspProgram.headerEvents bytes)
  match IspProgram.decode bytes with
  | .error error => .refused lines error
  | .ok program => .ok (lines ++ programLines program)

/-- The outcome of `program` on the contents of a file. -/
def programReport (log : Logger) (file : String) (withDescriptor : Bool)
    (contents : Except FileError Bytes) : Outcome :=
  match contents with
  | .error error => unreadable file error
  | .ok bytes =>
    if !withDescriptor then programBody log [] bytes
    else
      match ProgramDescriptor.decode bytes with
      | .error error => .refused [] error
      | .ok d =>
        let lines := programDescriptorLines d
        match d.validate with
        | .error violation => .refused lines (.configurationInvalid violation)
        | .ok _ =>
          if d.offset.toNat ≤ bytes.length then programBody log lines (bytes.drop d.offset.toNat)
          else .failed lines s!"program offset {d.offset.toNat} past end of file" none

/-! ## Data types -/

/-- The outcome of `datatype`. -/
def datatypeReport (log : Logger) (name : String) : Outcome :=
  let lines := log.lines (DataType.lookupEvents name)
  match DataType.lookup name with
  | .error error => .refused lines error
  | .ok (dt, .canonical) => .ok (lines ++ [dt.canonicalName])
  | .ok (dt, .legacy) => .ok (lines ++ [dt.canonicalName ++ "  (legacy spelling)"])

/-! ## The whole command line -/

/-- How the program is called. -/
def usageLines : List String :=
  ["Usage: camrtc <COMMAND>",
    "",
    "Commands:",
    "  layout        Print sizes, offsets and alignment of every shared-memory record",
    "  classify      Classify a completion status and notify word",
    "  check-config  Run the channel configuration validator",
    "  decode        Decode and classify the status of each slot in a raw request-ring dump",
    "  program       Check an ISP program buffer's magic and version, then print it",
    "  datatype      Canonicalize a CSI data type name"]

namespace Command

/-- The outcome of a command, given the contents of its file or why it cannot be read. -/
def report (log : Logger) (contents : Except FileError Bytes) : Command → Outcome
  | layout => .ok layoutLines
  | classify status notify receiverChannel channelInError =>
    classifyReport log status notify receiverChannel channelInError
  | checkConfig requests memoryInfo queueDepth requestSize memoryInfoSize flags dump =>
    checkConfigReport log (.ofSteps [.flags ⟨flags⟩, .requests requests, .memoryInfo memoryInfo,
      .queueDepth queueDepth, .requestSize requestSize, .memoryInfoSize memoryInfoSize]) dump
  | decode file queueDepth requestSize slot =>
    decodeReport log file queueDepth requestSize slot contents
  | program file withDescriptor => programReport log file withDescriptor contents
  | datatype name => datatypeReport log name

/-- Carries out a command: reads its file, if it has one, and reports. -/
def execute {m : Type → Type} [Monad m] (log : Logger)
    (read : String → m (Except FileError Bytes)) (command : Command) : m Outcome := do
  match command.file? with
  | some file => return command.report log (← read file)
  | none => return command.report log (.ok [])

end Command

/-- The outcome of arguments that make no command. -/
def Stop.outcome : Stop → Outcome
  | help => .ok usageLines
  | version => .ok ["camrtc 0.1.0"]
  | usage => ⟨2, "", Text.unlines usageLines⟩

/-- Carries out what a command line asks for, with files as `read` finds them. -/
def execute {m : Type → Type} [Monad m] (log : Logger)
    (read : String → m (Except FileError Bytes)) (arguments : List String) : m Outcome :=
  match Command.parse arguments with
  | .error stop => return stop.outcome
  | .ok command => command.execute log read

/-- The outcome of a command line where the files of a tree can be read. -/
def run (log : Logger) (arguments : List String) (tree : FileTree) : Outcome :=
  Id.run (execute log (fun file => pure (tree.read file)) arguments)

end CaptureProtocol.CommandLine
