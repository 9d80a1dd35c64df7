import CaptureProtocol.Channel.Address
import CaptureProtocol.Channel.Syncpoint
import CaptureProtocol.Csi.Input
import CaptureProtocol.Outcome.Notify

/-!
# Settings of a VI channel

`ChannelSettings` is what a caller asks for; nothing about it is checked. It is put together by
`ChannelStep`s, and `rules` lists what it must satisfy to become a channel configuration.
-/

set_option autoImplicit false

namespace CaptureProtocol

/-- The channel mask with every VI channel in it. -/
def allViChannels : UInt64 := 0xFFFFFFFFF

/-- The stream number that stands for no SLVS-EC stream. -/
def noSlvsecStream : UInt8 := 0xFF

/-- What a VI channel is asked to be. -/
structure ChannelSettings where
  flags : FlagSet .channel := .empty
  viUnit : UInt32 := Layout.firstUnit
  /-- The VI channels that may be used, channel 0 lowest. -/
  viChannels : UInt64 := allViChannels
  /-- The same on the second VI unit. -/
  vi2Channels : UInt64 := 0
  csi : Option CsiBinding := none
  /-- The base of the request ring. -/
  requests : Address := 0
  /-- The base of the memory-info ring. -/
  memoryInfo : Address := 0
  queueDepth : UInt32 := 0
  /-- Bytes of a slot of the request ring. -/
  requestSize : UInt32 := Layout.descriptorBytes
  /-- Bytes of a slot of the memory-info ring. -/
  memoryInfoSize : UInt32 := Layout.memoryInfoBytes
  slvsecMain : UInt8 := noSlvsecStream
  slvsecSub : UInt8 := noSlvsecStream
  gosTables : List Address := []
  progress : Syncpoint := .unused
  embdata : Syncpoint := .unused
  linetimer : Syncpoint := .unused
  uncorrectable : FlagSet .channelError := .empty
  correctable : FlagSet .channelError := .empty
  /-- The notify bits that stop the channel. -/
  stopBits : UInt64 := 0
  deriving DecidableEq, Inhabited

/-- One thing asked of a VI channel. -/
inductive ChannelStep where
  /-- Adds flags. -/
  | flags (flags : FlagSet .channel)
  | viUnit (id : UInt32)
  | viChannels (mask : UInt64)
  | vi2Channels (mask : UInt64)
  /-- Binds the channel to a CSI input and says so in the flags. -/
  | csi (binding : CsiBinding)
  | requests (base : Address)
  | memoryInfo (base : Address)
  | queueDepth (depth : UInt32)
  | requestSize (bytes : UInt32)
  | memoryInfoSize (bytes : UInt32)
  /-- Names the SLVS-EC streams and says so in the flags. -/
  | slvsec (main sub : UInt8)
  /-- Adds a Grid-of-Semaphores table after the ones that are there. -/
  | gosTable (base : Address)
  | progress (sp : Syncpoint)
  | embdata (sp : Syncpoint)
  | linetimer (sp : Syncpoint)
  /-- Sets the error masks and says so in the flags. -/
  | errorMasks (uncorrectable correctable : FlagSet .channelError)
  /-- Adds a condition that stops the channel. -/
  | stopOnError (bit : NotifyBit)
  deriving DecidableEq

namespace ChannelSettings

/-- The settings after one more step. -/
def apply (s : ChannelSettings) : ChannelStep → ChannelSettings
  | .flags flags => { s with flags := s.flags.union flags }
  | .viUnit id => { s with viUnit := id }
  | .viChannels mask => { s with viChannels := mask }
  | .vi2Channels mask => { s with vi2Channels := mask }
  | .csi binding => { s with csi := some binding, flags := s.flags.union ChannelFlags.csi }
  | .requests base => { s with requests := base }
  | .memoryInfo base => { s with memoryInfo := base }
  | .queueDepth depth => { s with queueDepth := depth }
  | .requestSize bytes => { s with requestSize := bytes }
  | .memoryInfoSize bytes => { s with memoryInfoSize := bytes }
  | .slvsec main sub =>
    { s with slvsecMain := main, slvsecSub := sub, flags := s.flags.union ChannelFlags.slvsec }
  | .gosTable base => { s with gosTables := s.gosTables ++ [base] }
  | .progress sp => { s with progress := sp }
  | .embdata sp => { s with embdata := sp }
  | .linetimer sp => { s with linetimer := sp }
  | .errorMasks uncorrectable correctable =>
    { s with
      uncorrectable := uncorrectable
      correctable := correctable
      flags := s.flags.union ChannelFlags.hsmErrorMasks }
  | .stopOnError bit => { s with stopBits := s.stopBits ||| bit.mask }

/-- The settings after some steps, from the defaults on. -/
def ofSteps (steps : List ChannelStep) : ChannelSettings := steps.foldl apply {}

/-- What the settings must satisfy, in the order in which violations are reported. -/
def rules (s : ChannelSettings) : List Rule :=
  Rule.ringBase "requests" s.requests ++
  Rule.ringEntry "request_size" s.requestSize Layout.descriptorBytes ++
  Rule.ringBase "requests_memoryinfo" s.memoryInfo ++
  [.depth "queue_depth" s.queueDepth Layout.maxQueueDepth] ++
  Rule.ringEntry "request_memoryinfo_size" s.memoryInfoSize Layout.memoryInfoBytes ++
  [.ringBytes "request ring" s.queueDepth s.requestSize,
    .ringBytes "memoryinfo ring" s.queueDepth s.memoryInfoSize] ++
  Rule.gosTables "vi_gos_tables" s.gosTables Layout.viGosTables ++
  [.atMost "vi_unit_id" s.viUnit.toUInt64 Layout.lastUnit.toUInt64,
    .atMost "vi_channel_mask" s.viChannels allViChannels,
    .atMost "vi2_channel_mask" s.vi2Channels allViChannels,
    .consistent "CSI flag set without a CSI stream binding"
      (!s.flags.contains ChannelFlags.csi || s.csi.isSome),
    .consistent "SLVSEC flag set without a main stream"
      (!s.flags.contains ChannelFlags.slvsec || s.slvsecMain != noSlvsecStream),
    .consistent "LINETIMER flag set without a line timer syncpoint"
      (!s.flags.contains ChannelFlags.linetimer || s.linetimer.isUsed)]

end ChannelSettings

end CaptureProtocol
