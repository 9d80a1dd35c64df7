import CaptureProtocol.CommandLine.Arguments
import CaptureProtocol.CommandLine.Number
import CaptureProtocol.Layout

/-!
# Commands

What the command line can be asked to do, and the arguments that ask for it.
-/

set_option autoImplicit false

namespace CaptureProtocol.CommandLine

/-- Something that the command line can be asked to do. -/
inductive Command where
  /-- Print the sizes and offsets of the records. -/
  | layout
  /-- Judge a status. -/
  | classify (status : UInt32) (notify : UInt64) (receiverChannel : UInt32)
      (channelInError : Bool)
  /-- Check the settings of a VI channel. -/
  | checkConfig (requests memoryInfo : UInt64)
      (queueDepth requestSize memoryInfoSize flags : UInt32) (dump : Bool)
  /-- Judge the statuses in a dump of a request ring, or one of them. -/
  | decode (file : String) (queueDepth requestSize : UInt32) (slot : Option Nat)
  /-- Print an ISP program. -/
  | program (file : String) (withDescriptor : Bool)
  /-- Print the canonical name of a data type. -/
  | datatype (name : String)
  deriving DecidableEq, Repr

namespace Command

/-- The file that a command reads. -/
def file? : Command → Option String
  | decode file .. | program file _ => some file
  | _ => none

/-- A value that must be given. -/
def required {α : Type} (s : Scan) (name : String) (read : String → Option α) : Except Stop α :=
  match (s.value? name).bind read with
  | some a => .ok a
  | none => .error .usage

/-- A value that may be left out. -/
def optional {α : Type} (s : Scan) (name : String) (read : String → Option α) :
    Except Stop (Option α) :=
  match s.value? name with
  | none => .ok none
  | some text =>
    match read text with
    | some a => .ok (some a)
    | none => .error .usage

/-- A value with a default. -/
def defaulted {α : Type} (s : Scan) (name : String) (read : String → Option α) (default : α) :
    Except Stop α := do
  return (← optional s name read).getD default

/-- The operand of a command. -/
def operand (s : Scan) : Except Stop String :=
  match s.operand with
  | some operand => .ok operand
  | none => .error .usage

/-- Whether a text can be read as a value. -/
def reads {α : Type} (read : String → Option α) (text : String) : Bool := (read text).isSome

/-- Whether a text can name a file. -/
def isFileName (text : String) : Bool := !text.isEmpty

/-- The options of `classify`. -/
def classifyOf (arguments : List String) : Except Stop Command := do
  let s ← scan
    { valued := [("status", reads count32?), ("notify", reads word64?), ("nvcsi-vc", reads word32?)]
      flags := ["channel-in-error"] } arguments
  return .classify (← required s "status" count32?) (← defaulted s "notify" word64? 0)
    (← defaulted s "nvcsi-vc" word32? 0) (s.has "channel-in-error")

/-- The options of `check-config`. -/
def checkConfigOf (arguments : List String) : Except Stop Command := do
  let s ← scan
    { valued := [("requests", reads word64?), ("memoryinfo", reads word64?),
        ("queue-depth", reads count32?), ("request-size", reads count32?),
        ("memoryinfo-size", reads count32?), ("flags", reads word32?)]
      flags := ["dump"] } arguments
  return .checkConfig (← required s "requests" word64?) (← required s "memoryinfo" word64?)
    (← required s "queue-depth" count32?)
    (← defaulted s "request-size" count32? Layout.descriptorBytes)
    (← defaulted s "memoryinfo-size" count32? Layout.memoryInfoBytes)
    (← defaulted s "flags" word32? 0) (s.has "dump")

/-- The options and the operand of `decode`. -/
def decodeOf (arguments : List String) : Except Stop Command := do
  let s ← scan
    { valued := [("queue-depth", reads count32?), ("request-size", reads count32?),
        ("slot", reads index?)]
      operand := some isFileName } arguments
  return .decode (← operand s) (← required s "queue-depth" count32?)
    (← defaulted s "request-size" count32? Layout.descriptorBytes) (← optional s "slot" index?)

/-- The options and the operand of `program`. -/
def programOf (arguments : List String) : Except Stop Command := do
  let s ← scan { flags := ["with-descriptor"], operand := some isFileName } arguments
  return .program (← operand s) (s.has "with-descriptor")

/-- The operand of `datatype`. -/
def datatypeOf (arguments : List String) : Except Stop Command := do
  let s ← scan { operand := some fun _ => true } arguments
  return .datatype (← operand s)

/-- The arguments of `layout`, which takes none. -/
def layoutOf (arguments : List String) : Except Stop Command := do
  let _ ← scan {} arguments
  return .layout

/-- The commands by name, each with the reader of its arguments. -/
def all : List (String × (List String → Except Stop Command)) :=
  [("layout", layoutOf), ("classify", classifyOf), ("check-config", checkConfigOf),
    ("decode", decodeOf), ("program", programOf), ("datatype", datatypeOf)]

/-- What comes of asking for help with some topics: at most one, a command or `help` itself. -/
def helpOn : List String → Stop
  | [] => .help
  | [topic] => if topic = "help" ∨ (all.lookup topic).isSome then .help else .usage
  | _ => .usage

/-- What comes of an argument in the place of a command: it asks for help or for the version. -/
def globalOption (argument : String) : Stop :=
  match argument.toList with
  | '-' :: '-' :: _ =>
    if argument = "--help" then .help else if argument = "--version" then .version else .usage
  | '-' :: 'h' :: _ => .help
  | '-' :: 'V' :: _ => .version
  | _ => .usage

/-- The command that some arguments ask for. -/
def parse : List String → Except Stop Command
  | [] => .error .usage
  | "help" :: topics => .error (helpOn topics)
  | name :: rest =>
    match all.lookup name with
    | some read => read rest
    | none => .error (globalOption name)

end Command

end CaptureProtocol.CommandLine
