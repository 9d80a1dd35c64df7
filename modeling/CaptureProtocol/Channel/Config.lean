import CaptureProtocol.Channel.Settings
import CaptureProtocol.Channel.Tables
import CaptureProtocol.Log

/-!
# Configurations of a VI channel

A `ChannelConfig` is settings that satisfy every rule. It is written as the 272-byte record of the
channel setup message; reading a record checks the rules again.

* `build`: settings become a configuration exactly when they satisfy the rules.
* `decode`: what is read from a record is a configuration or the first thing wrong with it.
* `ofWords_eq_ok`: where each of the settings comes from when a record is read.
-/

set_option autoImplicit false

namespace CaptureProtocol

/-- Settings of a VI channel that satisfy every rule. -/
structure ChannelConfig where
  settings : ChannelSettings
  accepted : Rule.Accepted settings.rules
  deriving DecidableEq

namespace ChannelSettings

/-- The configuration with these settings, or the first rule that they break. -/
def build (s : ChannelSettings) : Except ConfigViolation ChannelConfig :=
  Rule.enforce s.rules fun h => ⟨s, h⟩

/-- The flags of the settings that are no longer acted on. -/
def deprecatedFlags (s : ChannelSettings) : FlagSet .channel :=
  ⟨s.flags.bits &&& ChannelFlags.deprecated.bits⟩

/-- Whether the settings have error masks that nothing heeds. -/
def ignoresErrorMasks (s : ChannelSettings) : Bool :=
  !s.flags.contains ChannelFlags.hsmErrorMasks && !(s.uncorrectable.union s.correctable).isEmpty

/-- The bits of the settings that should stop the channel and that the catalogue does not have. -/
def unknownStopBits (s : ChannelSettings) : UInt64 := s.stopBits &&& ~~~NotifyBit.knownMask

/--
What building a configuration tells the log: which of its settings do nothing or are not known, and
the request ring that it describes. Nothing is told of settings that are refused.
-/
def events (s : ChannelSettings) : List LogEvent :=
  let event (level : LogLevel) (message : String) : LogEvent :=
    { level := level, target := "camrtc_capture::config", message := message }
  match s.build with
  | .error _ => []
  | .ok _ =>
    (if s.deprecatedFlags.isEmpty then [] else
      [event .warn ("channel requests deprecated resources: " ++ s.deprecatedFlags.describe)]) ++
    (if s.ignoresErrorMasks then
      [event .warn "HSM error masks ignored without ENABLE_HSM_ERROR_MASKS"] else []) ++
    (if s.unknownStopBits = 0 then [] else
      [event .warn ("stop_on_error_notify_bits has uncatalogued bits " ++
        Text.hex s.unknownStopBits.toNat)]) ++
    [event .debug (s!"channel config ok: {s.queueDepth.toNat} slots x " ++
      s!"{s.requestSize.toNat} B at " ++ Text.hex s.requests.toNat)]

/-! ## The record -/

/-- The words of a channel record in order. -/
abbrev Words :=
  FlagSet .channel × UInt32 × UInt64 × UInt64 × (UInt32 × UInt32 × UInt32) × UInt64 × UInt64 ×
    UInt32 × UInt32 × UInt32 × UInt8 × UInt8 × UInt32 × Vector UInt64 Layout.viGosTables ×
    Syncpoint.Words × Syncpoint.Words × Syncpoint.Words × FlagSet .channelError ×
    FlagSet .channelError × UInt64

/--
The format of a channel record. The channel number after the flags belongs to the coprocessor.
-/
def codec : Codec Words :=
  .pair (.gap (.flags .channel) 4) <| .pair (.gap .u32 4) <| .pair .u64 <| .pair .u64 <|
    .pair (.gap (.pair .u32 <| .pair .u32 .u32) 4) <| .pair .u64 <| .pair .u64 <|
    .pair .u32 <| .pair .u32 <| .pair (.gap .u32 4) <| .pair .u8 <| .pair (.gap .u8 2) <|
    .pair .u32 <| .pair (.array .u64 Layout.viGosTables) <|
    .pair Syncpoint.codec <| .pair Syncpoint.codec <| .pair Syncpoint.codec <|
    .pair (.flags .channelError) <| .pair (.flags .channelError) .u64

/-- The words that describe settings. -/
def words (s : ChannelSettings) : Words :=
  (s.flags, s.viUnit, s.viChannels, s.vi2Channels, CsiBinding.words s.csi, s.requests,
    s.memoryInfo, s.queueDepth, s.requestSize, s.memoryInfoSize, s.slvsecMain, s.slvsecSub,
    Tables.count s.gosTables, Tables.entries Layout.viGosTables 0 s.gosTables, s.progress.words,
    s.embdata.words, s.linetimer.words, s.uncorrectable, s.correctable, s.stopBits)

/-- The binding that the words of a record describe, if the flags say that there is one. -/
def csiOfWords (flags : FlagSet .channel) (words : UInt32 × UInt32 × UInt32) :
    Except ConfigViolation (Option CsiBinding) :=
  if flags.contains ChannelFlags.csi then
    (CsiBinding.ofWords words.1 words.2.1 words.2.2).map some
  else .ok none

/-- The settings that the words of a record describe. -/
def ofWords : Words → Except ConfigViolation ChannelSettings
  | (flags, viUnit, viChannels, vi2Channels, csi, requests, memoryInfo, queueDepth, requestSize,
      memoryInfoSize, slvsecMain, slvsecSub, count, tables, progress, embdata, linetimer,
      uncorrectable, correctable, stopBits) => do
    let gosTables ← Rule.enforce
      [.noMoreThan "num_vi_gos_tables" count.toNat Layout.viGosTables]
      fun _ => Tables.ofEntries count tables
    let progress ← Syncpoint.ofWords progress
    let embdata ← Syncpoint.ofWords embdata
    let linetimer ← Syncpoint.ofWords linetimer
    let csi ← csiOfWords flags csi
    pure ⟨flags, viUnit, viChannels, vi2Channels, csi, requests, memoryInfo, queueDepth,
      requestSize, memoryInfoSize, slvsecMain, slvsecSub, gosTables, progress, embdata, linetimer,
      uncorrectable, correctable, stopBits⟩

/-- What is read from a record: words as they stand, and the parts that have rules of their own. -/
theorem ofWords_eq_ok {flags : FlagSet .channel} {unit : UInt32} {channels channels₂ : UInt64}
    {csi : UInt32 × UInt32 × UInt32} {requests memoryInfo : UInt64}
    {depth requestSize memoryInfoSize : UInt32} {slvsecMain slvsecSub : UInt8} {count : UInt32}
    {tables : Vector UInt64 Layout.viGosTables} {progress embdata linetimer : Syncpoint.Words}
    {uncorrectable correctable : FlagSet .channelError} {stopBits : UInt64} {s : ChannelSettings} :
    ofWords (flags, unit, channels, channels₂, csi, requests, memoryInfo, depth, requestSize,
        memoryInfoSize, slvsecMain, slvsecSub, count, tables, progress, embdata, linetimer,
        uncorrectable, correctable, stopBits) = .ok s ↔
      count.toNat ≤ 12 ∧ ∃ sp se sl binding, Syncpoint.ofWords progress = .ok sp ∧
        Syncpoint.ofWords embdata = .ok se ∧ Syncpoint.ofWords linetimer = .ok sl ∧
        csiOfWords flags csi = .ok binding ∧
        s = ⟨flags, unit, channels, channels₂, binding, requests, memoryInfo, depth, requestSize,
          memoryInfoSize, slvsecMain, slvsecSub, Tables.ofEntries count tables, sp, se, sl,
          uncorrectable, correctable, stopBits⟩ := by
  constructor
  · intro h
    obtain ⟨used, hc, h⟩ := CaptureError.bind_eq_ok.mp h
    obtain ⟨sp, hp, h⟩ := CaptureError.bind_eq_ok.mp h
    obtain ⟨se, he, h⟩ := CaptureError.bind_eq_ok.mp h
    obtain ⟨sl, hl, h⟩ := CaptureError.bind_eq_ok.mp h
    obtain ⟨binding, hb, h⟩ := CaptureError.bind_eq_ok.mp h
    cases h
    obtain ⟨hcount, rfl⟩ := Rule.enforce_eq_ok.mp hc
    exact ⟨Rule.accepted_noMoreThan.mp hcount, sp, se, sl, binding, hp, he, hl, hb, rfl⟩
  · rintro ⟨hcount, sp, se, sl, binding, hp, he, hl, hb, rfl⟩
    have hc : Rule.Accepted [.noMoreThan "num_vi_gos_tables" count.toNat Layout.viGosTables] :=
      Rule.accepted_noMoreThan.mpr hcount
    exact CaptureError.bind_eq_ok.mpr ⟨_, Rule.enforce_of_accepted _ hc,
      CaptureError.bind_eq_ok.mpr ⟨_, hp, CaptureError.bind_eq_ok.mpr ⟨_, he,
        CaptureError.bind_eq_ok.mpr ⟨_, hl, CaptureError.bind_eq_ok.mpr ⟨_, hb, rfl⟩⟩⟩⟩⟩

theorem size_codec : codec.size = 272 := by
  simp only [codec, Codec.size_pair, Codec.size_gap, Codec.size_array, Codec.size_flags,
    Codec.size_u8, Codec.size_u32, Codec.size_u64, Syncpoint.size_codec]
  rfl

end ChannelSettings

namespace ChannelConfig

/-- The depth of the request ring and of the memory-info ring. -/
def depth (c : ChannelConfig) : QueueDepth :=
  have h : Layout.minQueueDepth ≤ c.settings.queueDepth ∧
      c.settings.queueDepth ≤ Layout.maxQueueDepth := by
    have h := c.accepted
    simp only [ChannelSettings.rules, Rule.accepted_append] at h
    simpa [Rule.Accepted, Rule.depth] using h.1.1.1.1.2
  ⟨c.settings.queueDepth, h.1, h.2⟩

/-- Bytes of a slot of the request ring. -/
def requestBytes (c : ChannelConfig) : Nat := c.settings.requestSize.toNat

/-- Bytes of a slot of the memory-info ring. -/
def memoryInfoBytes (c : ChannelConfig) : Nat := c.settings.memoryInfoSize.toNat

/-- Bytes of the request ring. -/
def requestRingBytes (c : ChannelConfig) : Nat := c.depth.slots * c.requestBytes

/-- Bytes of the memory-info ring. -/
def memoryInfoRingBytes (c : ChannelConfig) : Nat := c.depth.slots * c.memoryInfoBytes

/-- The catalogued conditions that stop the channel. -/
def stopOnError (c : ChannelConfig) : List NotifyBit := NotifyBit.ofWord c.settings.stopBits

/-- The bytes of a configuration's record. -/
def bytes (c : ChannelConfig) : Bytes := ChannelSettings.codec.write c.settings.words

/-- The record of a configuration. -/
def encode (c : ChannelConfig) : Except CaptureError Bytes :=
  c.bytes.finish "capture_channel_config" 272

/-- The configuration in the record at the front of some bytes. -/
def decode (bytes : Bytes) : Except CaptureError ChannelConfig := do
  let words ← ChannelSettings.codec.decode "capture_channel_config" bytes
  let settings ← ChannelSettings.ofWords words
  settings.build

theorem length_bytes (c : ChannelConfig) : c.bytes.length = 272 :=
  (ChannelSettings.codec.length_write c.settings.words).trans ChannelSettings.size_codec

/-- The slots of a configuration's request ring keep the rules of their size. -/
theorem accepted_requestEntry (c : ChannelConfig) :
    Rule.Accepted
      (Rule.ringEntry "request_size" c.settings.requestSize Layout.descriptorBytes) := by
  have h := c.accepted
  simp only [ChannelSettings.rules, Rule.accepted_append] at h
  exact h.1.1.1.1.1.1.2

/-- A slot of the request ring holds a descriptor. -/
theorem descriptor_le (c : ChannelConfig) : 384 ≤ c.requestBytes :=
  (Rule.accepted_ringEntry.mp c.accepted_requestEntry).2

/-- A slot of the memory-info ring holds a memory-info record. -/
theorem memoryInfo_le (c : ChannelConfig) : 128 ≤ c.memoryInfoBytes := by
  have h := c.accepted
  simp only [ChannelSettings.rules, Rule.accepted_append] at h
  exact (Rule.accepted_ringEntry.mp h.1.1.1.2).2

/-- Either ring has at most 16 MiB. -/
theorem ringBytes_le (c : ChannelConfig) :
    c.requestRingBytes ≤ 0x1000000 ∧ c.memoryInfoRingBytes ≤ 0x1000000 := by
  have h := c.accepted
  simp only [ChannelSettings.rules, Rule.accepted_append, Rule.accepted_cons,
    Rule.ringBytes_holds] at h
  exact ⟨h.1.1.2.1, h.1.1.2.2.1⟩

end ChannelConfig

end CaptureProtocol
