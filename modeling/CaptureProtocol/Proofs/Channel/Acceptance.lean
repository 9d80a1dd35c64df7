import CaptureProtocol.Proofs.Channel.Canonical
import CaptureProtocol.Proofs.Outcome.WordBits
import CaptureProtocol.Proofs.Record.Field

/-!
# Which channel configurations are accepted

The rules of a channel are checked one after another on words of several widths. Here they are said
again as plain arithmetic, once for settings and once for the bytes of a record.

* `LegalRing`, `LegalTable`: what is asked of the numbers of a ring and of a table.
* `ChannelSettings.accepted_iff`: settings keep the rules exactly when they are `Acceptable`.
* `ChannelConfig.exists_decode_iff`: a record is accepted exactly when it is a `LegalRecord`.
* `ChannelConfig.accepts_exactly_legal`: **settings and records are accepted exactly when these
  hold**, what is built has the settings that were asked for, and everything else is an invalid
  configuration.
-/

set_option autoImplicit false

namespace CaptureProtocol

/--
What is asked of a ring that begins at `base` and has `depth` entries of `entry` bytes, each of
which must hold a record.
-/
structure LegalRing (base depth entry record : Nat) : Prop where
  base_ne : base ≠ 0
  base_aligned : 64 ∣ base
  entry_aligned : 64 ∣ entry
  record_le : record ≤ entry
  bytes_le : depth * entry ≤ 2 ^ 24

/-- What is asked of a Grid-of-Semaphores table. -/
structure LegalTable (base : Nat) : Prop where
  base_ne : base ≠ 0
  base_aligned : 256 ∣ base

namespace ChannelSettings

/-- What is asked of the settings of a channel. -/
structure Acceptable (s : ChannelSettings) : Prop where
  requests : LegalRing s.requests.toNat s.queueDepth.toNat s.requestSize.toNat 384
  memoryInfo : LegalRing s.memoryInfo.toNat s.queueDepth.toNat s.memoryInfoSize.toNat 128
  depth_pos : 1 ≤ s.queueDepth.toNat
  depth_le : s.queueDepth.toNat ≤ 240
  tables_le : s.gosTables.length ≤ 12
  tables : ∀ table ∈ s.gosTables, LegalTable table.toNat
  unit_le : s.viUnit.toNat ≤ 1
  channels_le : s.viChannels.toNat ≤ 0xFFFFFFFFF
  channels₂_le : s.vi2Channels.toNat ≤ 0xFFFFFFFFF
  /-- The flags announce a binding only if there is one, and likewise what else they announce. -/
  csi : s.flags.contains ChannelFlags.csi = true → s.csi.isSome = true
  slvsec : s.flags.contains ChannelFlags.slvsec = true → s.slvsecMain.toNat ≠ 0xFF
  linetimer : s.flags.contains ChannelFlags.linetimer = true → s.linetimer.id.toNat ≠ 0

theorem slvsecMain_ne_iff {stream : UInt8} : stream ≠ noSlvsecStream ↔ stream.toNat ≠ 0xFF := by
  rw [ne_eq, ← UInt8.toNat_inj]
  rfl

theorem isUsed_iff {sp : Syncpoint} : sp.isUsed = true ↔ sp.id.toNat ≠ 0 := by
  rw [Syncpoint.isUsed, bne_iff_ne, ne_eq, ← UInt32.toNat_inj]
  rfl

/-- The rules of a channel ask that the settings be acceptable, and nothing more. -/
theorem accepted_iff {s : ChannelSettings} : Rule.Accepted s.rules ↔ s.Acceptable := by
  simp only [rules, Rule.accepted_append, Rule.accepted_cons, Rule.accepted_ringBase,
    Rule.accepted_ringEntry, Rule.accepted_gosTables, Rule.depth_holds, Rule.ringBytes_holds,
    Rule.atMost_holds, Rule.consistent_holds, bne_iff_ne, slvsecMain_ne_iff, isUsed_iff,
    UInt32.toNat_toUInt64, Rule.accepted_nil, and_true]
  constructor
  · rintro ⟨⟨⟨⟨⟨⟨⟨hbase, hentry⟩, hinfo⟩, hpos, hmax⟩, hinfoEntry⟩, hbytes, hinfoBytes⟩, hcount,
      htables⟩, hunit, hchannels, hchannels₂, hcsi, hslvsec, hlinetimer⟩
    exact ⟨⟨hbase.1, hbase.2, hentry.1, hentry.2, hbytes⟩,
      ⟨hinfo.1, hinfo.2, hinfoEntry.1, hinfoEntry.2, hinfoBytes⟩, hpos, hmax, hcount,
      fun table hm => ⟨(htables table hm).1, (htables table hm).2⟩, hunit, hchannels, hchannels₂,
      hcsi, hslvsec, hlinetimer⟩
  · rintro ⟨hreq, hinfo, hpos, hmax, hcount, htables, hunit, hchannels, hchannels₂, hcsi, hslvsec,
      hlinetimer⟩
    exact ⟨⟨⟨⟨⟨⟨⟨⟨hreq.base_ne, hreq.base_aligned⟩, hreq.entry_aligned, hreq.record_le⟩,
      hinfo.base_ne, hinfo.base_aligned⟩, hpos, hmax⟩, hinfo.entry_aligned, hinfo.record_le⟩,
      hreq.bytes_le, hinfo.bytes_le⟩, hcount,
      fun table hm => ⟨(htables table hm).base_ne, (htables table hm).base_aligned⟩⟩, hunit,
      hchannels, hchannels₂, hcsi, hslvsec, hlinetimer⟩

theorem exists_build_iff {s : ChannelSettings} : (∃ c, s.build = .ok c) ↔ s.Acceptable := by
  rw [← accepted_iff]
  constructor
  · rintro ⟨c, h⟩
    exact (Rule.enforce_eq_ok.mp h).1
  · intro h
    exact ⟨_, Rule.enforce_of_accepted _ h⟩

theorem settings_of_build {s : ChannelSettings} {c : ChannelConfig} (h : s.build = .ok c) :
    c.settings = s := by
  obtain ⟨_, rfl⟩ := Rule.enforce_eq_ok.mp h
  rfl

end ChannelSettings

/-! ## Records -/

/-- What is asked of the syncpoint that stands at `start` in a record. -/
structure Syncpoint.LegalAt (record : Bytes) (start : Nat) : Prop where
  /-- No table slot is named, or one with a stream id and a semaphore that there are. -/
  gos : record.numberAt (start + 9) 1 = 0xFF ∨
    1 ≤ record.numberAt (start + 8) 1 ∧ record.numberAt (start + 8) 1 ≤ 127 ∧
      record.numberAt (start + 10) 2 ≤ 63
  shim_aligned : 4 ∣ record.numberAt (start + 16) 8

namespace ChannelConfig

/-- What is asked of the bytes of a channel record. -/
structure LegalRecord (record : Bytes) : Prop where
  length_le : 272 ≤ record.length
  requests : LegalRing (record.numberAt 48 8) (record.numberAt 64 4) (record.numberAt 68 4) 384
  memoryInfo : LegalRing (record.numberAt 56 8) (record.numberAt 64 4) (record.numberAt 72 4) 128
  depth_pos : 1 ≤ record.numberAt 64 4
  depth_le : record.numberAt 64 4 ≤ 240
  tables_le : record.numberAt 84 4 ≤ 12
  tables : ∀ k < record.numberAt 84 4, LegalTable (record.numberAt (88 + k * 8) 8)
  unit_le : record.numberAt 8 4 ≤ 1
  channels_le : record.numberAt 16 8 ≤ 0xFFFFFFFFF
  channels₂_le : record.numberAt 24 8 ≤ 0xFFFFFFFFF
  progress : Syncpoint.LegalAt record 184
  embdata : Syncpoint.LegalAt record 208
  linetimer : Syncpoint.LegalAt record 232
  /-- Bit 16 of the flags announces a CSI binding, bit 13 SLVS-EC streams, bit 12 a line timer. -/
  csi : (record.numberAt 0 4).testBit 16 = true →
    CsiBinding.Legal (record.numberAt 32 4) (record.numberAt 36 4) (record.numberAt 40 4)
  slvsec : (record.numberAt 0 4).testBit 13 = true → record.numberAt 80 1 ≠ 0xFF
  linetimer_used : (record.numberAt 0 4).testBit 12 = true → record.numberAt 232 4 ≠ 0

end ChannelConfig

/-- The words of a syncpoint are legal exactly when the syncpoint at their place is. -/
theorem Syncpoint.exists_ofWords_at {record : String} {bytes : Bytes} {start : Nat} {w : Words}
    (h : codec.decodeAt record start bytes = .ok w) :
    ((∃ sp, ofWords w = .ok sp) ↔ LegalAt bytes start) ∧
      ∀ sp, ofWords w = .ok sp → sp.id.toNat = bytes.numberAt start 4 := by
  obtain ⟨id, threshold, sid, index, offset, shim⟩ := w
  simp only [codec, Codec.decodeAt_pair_eq_ok, Codec.decodeAt_gap_eq_ok, Codec.size_u8,
    Codec.size_u16, Codec.size_u32, Codec.size_gap, Nat.add_assoc, Nat.reduceAdd] at h
  obtain ⟨hid, -, hsid, hindex, ⟨hoffset, -⟩, hshim⟩ := h
  have hnone : index = noGosIndex ↔ bytes.numberAt (start + 9) 1 = 0xFF := by
    rw [← Codec.toNat_of_decodeAt_u8 hindex, ← UInt8.toNat_inj]
    rfl
  constructor
  · rw [exists_ofWords_iff, hnone, Codec.toNat_of_decodeAt_u8 hsid,
      Codec.toNat_of_decodeAt_u16 hoffset, Codec.toNat_of_decodeAt_u64 hshim]
    constructor
    · rintro ⟨hgos, haligned⟩
      exact ⟨hgos, haligned⟩
    · rintro ⟨hgos, haligned⟩
      exact ⟨hgos, haligned⟩
  · intro sp hsp
    obtain ⟨gos, -, hm⟩ := CaptureError.bind_eq_ok.mp hsp
    obtain ⟨_, rfl⟩ := Rule.enforce_eq_ok.mp hm
    exact Codec.toNat_of_decodeAt_u32 hid

namespace ChannelConfig

theorem exists_csiOfWords_iff {flags : FlagSet .channel} {words : UInt32 × UInt32 × UInt32} :
    (∃ csi, ChannelSettings.csiOfWords flags words = .ok csi) ↔
      (flags.contains ChannelFlags.csi = true →
        CsiBinding.Legal words.1.toNat words.2.1.toNat words.2.2.toNat) := by
  unfold ChannelSettings.csiOfWords
  cases flags.contains ChannelFlags.csi with
  | false => simp
  | true =>
    rw [← CsiBinding.exists_ofWords_iff]
    cases h : CsiBinding.ofWords words.1 words.2.1 words.2.2 <;> simp [Except.map]

/-- A record is accepted exactly when its words are settings that are acceptable. -/
theorem exists_decode_iff_acceptable {bytes : Bytes} :
    (∃ c, decode bytes = .ok c) ↔
      ∃ w s, ChannelSettings.codec.decode "capture_channel_config" bytes = .ok w ∧
        ChannelSettings.ofWords w = .ok s ∧ s.Acceptable := by
  constructor
  · rintro ⟨c, h⟩
    obtain ⟨w, hw, hs⟩ := decode_eq_ok h
    exact ⟨w, c.settings, hw, hs, ChannelSettings.accepted_iff.mp c.accepted⟩
  · rintro ⟨w, s, hw, hs, ha⟩
    obtain ⟨c, hc⟩ := ChannelSettings.exists_build_iff.mpr ha
    exact ⟨c, CaptureError.bind_eq_ok.mpr ⟨w, hw, CaptureError.bind_eq_ok.mpr
      ⟨s, CaptureError.ofRule_eq_ok.mpr hs, CaptureError.ofRule_eq_ok.mpr hc⟩⟩⟩

/-- The words that are read are the numbers at their places. -/
structure Reads (bytes : Bytes) (flags : FlagSet .channel) (unit : UInt32)
    (channels channels₂ : UInt64) (csi : UInt32 × UInt32 × UInt32) (requests memoryInfo : UInt64)
    (depth requestSize memoryInfoSize : UInt32) (slvsecMain : UInt8) (count : UInt32)
    (tables : Vector UInt64 Layout.viGosTables) (progress embdata linetimer : Syncpoint.Words) :
    Prop where
  flags : flags.bits.toNat = bytes.numberAt 0 4
  unit : unit.toNat = bytes.numberAt 8 4
  channels : channels.toNat = bytes.numberAt 16 8
  channels₂ : channels₂.toNat = bytes.numberAt 24 8
  stream : csi.1.toNat = bytes.numberAt 32 4
  port : csi.2.1.toNat = bytes.numberAt 36 4
  channel : csi.2.2.toNat = bytes.numberAt 40 4
  requests : requests.toNat = bytes.numberAt 48 8
  memoryInfo : memoryInfo.toNat = bytes.numberAt 56 8
  depth : depth.toNat = bytes.numberAt 64 4
  requestSize : requestSize.toNat = bytes.numberAt 68 4
  memoryInfoSize : memoryInfoSize.toNat = bytes.numberAt 72 4
  slvsecMain : slvsecMain.toNat = bytes.numberAt 80 1
  count : count.toNat = bytes.numberAt 84 4
  tables : ∀ k, (hk : k < Layout.viGosTables) → tables[k].toNat = bytes.numberAt (88 + k * 8) 8
  progress : Syncpoint.codec.decodeAt "capture_channel_config" 184 bytes = .ok progress
  embdata : Syncpoint.codec.decodeAt "capture_channel_config" 208 bytes = .ok embdata
  linetimer : Syncpoint.codec.decodeAt "capture_channel_config" 232 bytes = .ok linetimer

variable {bytes : Bytes} {flags : FlagSet .channel} {unit : UInt32} {channels channels₂ : UInt64}
  {csi : UInt32 × UInt32 × UInt32} {requests memoryInfo : UInt64}
  {depth requestSize memoryInfoSize : UInt32} {slvsecMain slvsecSub : UInt8} {count : UInt32}
  {tables : Vector UInt64 Layout.viGosTables} {progress embdata linetimer : Syncpoint.Words}
  {uncorrectable correctable : FlagSet .channelError} {stopBits : UInt64}

theorem reads_of_decode
    (h : ChannelSettings.codec.decode "capture_channel_config" bytes = .ok (flags, unit, channels,
      channels₂, csi, requests, memoryInfo, depth, requestSize, memoryInfoSize, slvsecMain,
      slvsecSub, count, tables, progress, embdata, linetimer, uncorrectable, correctable,
      stopBits)) :
    Reads bytes flags unit channels channels₂ csi requests memoryInfo depth requestSize
      memoryInfoSize slvsecMain count tables progress embdata linetimer := by
  obtain ⟨stream, port, channel⟩ := csi
  simp only [Codec.decode, ChannelSettings.codec, Codec.decodeAt_pair_eq_ok,
    Codec.decodeAt_gap_eq_ok, Codec.size_pair, Codec.size_gap, Codec.size_flags, Codec.size_u8,
    Codec.size_u32, Codec.size_u64, Codec.size_array, Syncpoint.size_codec,
    show Layout.viGosTables * 8 = 96 from rfl, Nat.reduceAdd] at h
  obtain ⟨⟨hflags, -⟩, ⟨hunit, -⟩, hchannels, hchannels₂, ⟨⟨hstream, hport, hchannel⟩, -⟩,
    hrequests, hmemoryInfo, hdepth, hrequestSize, ⟨hmemoryInfoSize, -⟩, hslvsec, -, hcount, htables,
    hprogress, hembdata, hlinetimer, -⟩ := h
  exact {
    flags := Codec.toNat_of_decodeAt_flags hflags
    unit := Codec.toNat_of_decodeAt_u32 hunit
    channels := Codec.toNat_of_decodeAt_u64 hchannels
    channels₂ := Codec.toNat_of_decodeAt_u64 hchannels₂
    stream := Codec.toNat_of_decodeAt_u32 hstream
    port := Codec.toNat_of_decodeAt_u32 hport
    channel := Codec.toNat_of_decodeAt_u32 hchannel
    requests := Codec.toNat_of_decodeAt_u64 hrequests
    memoryInfo := Codec.toNat_of_decodeAt_u64 hmemoryInfo
    depth := Codec.toNat_of_decodeAt_u32 hdepth
    requestSize := Codec.toNat_of_decodeAt_u32 hrequestSize
    memoryInfoSize := Codec.toNat_of_decodeAt_u32 hmemoryInfoSize
    slvsecMain := Codec.toNat_of_decodeAt_u8 hslvsec
    count := Codec.toNat_of_decodeAt_u32 hcount
    tables := fun k hk => Codec.toNat_of_decodeAt_u64 (Codec.decodeAt_array htables k hk)
    progress := hprogress
    embdata := hembdata
    linetimer := hlinetimer }

namespace Reads

variable (hr : Reads bytes flags unit channels channels₂ csi requests memoryInfo depth requestSize
  memoryInfoSize slvsecMain count tables progress embdata linetimer)

include hr

/-- A flag of a single bit is set when this bit stands in the record. -/
theorem contains_iff {flag : FlagSet .channel} {p : Nat} (h : flag.bits.toNat = 2 ^ p) :
    flags.contains flag = true ↔ (bytes.numberAt 0 4).testBit p = true := by
  rw [FlagSet.contains_iff_testBit h, hr.flags]

/-- Acceptable settings come from legal records. -/
theorem legalRecord (hlen : 272 ≤ bytes.length) {s : ChannelSettings}
    (hs : ChannelSettings.ofWords (flags, unit, channels, channels₂, csi, requests, memoryInfo,
      depth, requestSize, memoryInfoSize, slvsecMain, slvsecSub, count, tables, progress, embdata,
      linetimer, uncorrectable, correctable, stopBits) = .ok s) (ha : s.Acceptable) :
    LegalRecord bytes := by
  obtain ⟨hle, p, e, l, b, hp, he, hl, hb, rfl⟩ := ChannelSettings.ofWords_eq_ok.mp hs
  have hbinding := exists_csiOfWords_iff.mp ⟨_, hb⟩
  have htables := (Tables.forall_mem_ofEntries hle).mp ha.tables
  obtain ⟨hline, hid⟩ := Syncpoint.exists_ofWords_at hr.linetimer
  rw [hr.stream, hr.port, hr.channel] at hbinding
  exact {
    length_le := hlen
    requests := by rw [← hr.requests, ← hr.depth, ← hr.requestSize]; exact ha.requests
    memoryInfo := by rw [← hr.memoryInfo, ← hr.depth, ← hr.memoryInfoSize]; exact ha.memoryInfo
    depth_pos := hr.depth ▸ ha.depth_pos
    depth_le := hr.depth ▸ ha.depth_le
    tables_le := hr.count ▸ hle
    tables := by
      intro k hk
      rw [← hr.count] at hk
      rw [← hr.tables k (Nat.lt_of_lt_of_le hk hle)]
      exact htables k _ hk
    unit_le := hr.unit ▸ ha.unit_le
    channels_le := hr.channels ▸ ha.channels_le
    channels₂_le := hr.channels₂ ▸ ha.channels₂_le
    progress := (Syncpoint.exists_ofWords_at hr.progress).1.mp ⟨_, hp⟩
    embdata := (Syncpoint.exists_ofWords_at hr.embdata).1.mp ⟨_, he⟩
    linetimer := hline.mp ⟨_, hl⟩
    csi := fun hf => hbinding ((hr.contains_iff rfl).mpr hf)
    slvsec := fun hf => hr.slvsecMain ▸ ha.slvsec ((hr.contains_iff rfl).mpr hf)
    linetimer_used := fun hf => hid l hl ▸ ha.linetimer ((hr.contains_iff rfl).mpr hf) }

/-- What is read from a legal record are acceptable settings. -/
theorem exists_acceptable (hlegal : LegalRecord bytes) :
    ∃ s, ChannelSettings.ofWords (flags, unit, channels, channels₂, csi, requests, memoryInfo,
      depth, requestSize, memoryInfoSize, slvsecMain, slvsecSub, count, tables, progress, embdata,
      linetimer, uncorrectable, correctable, stopBits) = .ok s ∧ s.Acceptable := by
  obtain ⟨p, hp⟩ := (Syncpoint.exists_ofWords_at hr.progress).1.mpr hlegal.progress
  obtain ⟨e, he⟩ := (Syncpoint.exists_ofWords_at hr.embdata).1.mpr hlegal.embdata
  obtain ⟨hline, hid⟩ := Syncpoint.exists_ofWords_at hr.linetimer
  obtain ⟨l, hl⟩ := hline.mpr hlegal.linetimer
  have hle : count.toNat ≤ 12 := hr.count ▸ hlegal.tables_le
  have hbinding := hlegal.csi
  rw [← hr.stream, ← hr.port, ← hr.channel] at hbinding
  obtain ⟨b, hb⟩ := exists_csiOfWords_iff.mpr fun hf => hbinding ((hr.contains_iff rfl).mp hf)
  obtain ⟨hannounced, -⟩ := ChannelSettings.words_of_csiOfWords hb
  refine ⟨_, ChannelSettings.ofWords_eq_ok.mpr ⟨hle, p, e, l, b, hp, he, hl, hb, rfl⟩, ?_⟩
  exact {
    requests := by rw [hr.requests, hr.depth, hr.requestSize]; exact hlegal.requests
    memoryInfo := by rw [hr.memoryInfo, hr.depth, hr.memoryInfoSize]; exact hlegal.memoryInfo
    depth_pos := hr.depth ▸ hlegal.depth_pos
    depth_le := hr.depth ▸ hlegal.depth_le
    tables_le := by
      rw [Tables.length_ofEntries tables hle]
      exact hle
    tables := by
      refine (Tables.forall_mem_ofEntries hle).mpr fun k hk hcount => ?_
      have hlegalTable := hlegal.tables k (hr.count ▸ hcount)
      rw [← hr.tables k hk] at hlegalTable
      exact hlegalTable
    unit_le := hr.unit ▸ hlegal.unit_le
    channels_le := hr.channels ▸ hlegal.channels_le
    channels₂_le := hr.channels₂ ▸ hlegal.channels₂_le
    csi := fun hf => hannounced.trans hf
    slvsec := fun hf => hr.slvsecMain ▸ hlegal.slvsec ((hr.contains_iff rfl).mp hf)
    linetimer := fun hf => hid l hl ▸ hlegal.linetimer_used ((hr.contains_iff rfl).mp hf) }

end Reads

/-- Whole records have words. -/
theorem exists_words (hlen : 272 ≤ bytes.length) :
    ∃ w, ChannelSettings.codec.decode "capture_channel_config" bytes = .ok w :=
  ChannelSettings.codec.exists_decode _ ChannelSettings.size_codec hlen

/-- **A record is accepted exactly when the numbers at their places are legal.** -/
theorem exists_decode_iff (bytes : Bytes) : (∃ c, decode bytes = .ok c) ↔ LegalRecord bytes := by
  rw [exists_decode_iff_acceptable]
  constructor
  · rintro ⟨w, s, hw, hs, ha⟩
    have hlen := (Codec.decodeAt_eq_ok hw).1
    rw [ChannelSettings.size_codec] at hlen
    exact (reads_of_decode hw).legalRecord hlen hs ha
  · intro hlegal
    obtain ⟨w, hw⟩ := exists_words hlegal.length_le
    obtain ⟨s, hs, ha⟩ := (reads_of_decode hw).exists_acceptable hlegal
    exact ⟨w, s, hw, hs, ha⟩

/-- Whole records are refused for what they say. -/
theorem invalid_of_decode_error {e : CaptureError} (h : decode bytes = .error e)
    (hlen : 272 ≤ bytes.length) : ∃ violation, e = .configurationInvalid violation := by
  obtain ⟨w, hw⟩ := exists_words hlen
  have hdecode : decode bytes =
      CaptureError.ofRule (ChannelSettings.ofWords w >>= fun s => s.build) := by
    rw [CaptureError.ofRule_bind]
    simp only [decode, hw]
    rfl
  rw [hdecode] at h
  obtain ⟨violation, -, he⟩ := CaptureError.ofRule_eq_error.mp h
  exact ⟨violation, he⟩

/--
**Settings and records are accepted exactly when their numbers are legal.** Settings become a
configuration exactly when they are `Acceptable`, and then it has these settings; otherwise an
invalid configuration is reported, for a rule that does not hold. Bytes are read as a configuration
exactly when they are a `LegalRecord`; if there are enough of them and they are not one, then they
are an invalid configuration, too.
-/
theorem accepts_exactly_legal :
    (∀ s : ChannelSettings,
      ((∃ c, s.build = .ok c) ↔ s.Acceptable) ∧
      (∀ c, s.build = .ok c → c.settings = s) ∧
      ∀ e, CaptureError.ofRule s.build = .error e →
        ∃ r ∈ s.rules, r.holds = false ∧ e = .configurationInvalid r.violation) ∧
    ∀ record : Bytes,
      ((∃ c, decode record = .ok c) ↔ LegalRecord record) ∧
      ∀ e, decode record = .error e → 272 ≤ record.length →
        ∃ violation, e = .configurationInvalid violation := by
  refine ⟨fun s => ⟨ChannelSettings.exists_build_iff, fun c hc => ?_, fun e he => ?_⟩,
    fun record => ⟨exists_decode_iff record, fun e he hlen => invalid_of_decode_error he hlen⟩⟩
  · exact ChannelSettings.settings_of_build hc
  · obtain ⟨violation, hv, rfl⟩ := CaptureError.ofRule_eq_error.mp he
    obtain ⟨r, hr, hbroken, rfl⟩ := Rule.broken_of_enforce hv
    exact ⟨r, hr, hbroken, rfl⟩

/-- Settings at the upper ends of their ranges. -/
def boundarySettings : ChannelSettings :=
  { flags := ⟨0xFFFFFFFF⟩, viUnit := 1, vi2Channels := allViChannels,
    csi := some ⟨CsiPort.h.stream, some .h, Fin.last 15, by decide⟩,
    requests := 0xFFFFFFFFFFFFFFC0, memoryInfo := 0xFFFFFFFFFFFFFF80, queueDepth := 240,
    requestSize := 69888, memoryInfoSize := 69888, slvsecMain := 0xFE,
    gosTables := List.replicate 12 0xFFFFFFFFFFFFFF00,
    linetimer := ⟨0xFFFFFFFF, 0, some ⟨127, 0xFE, 63, by decide⟩, 0xFFFFFFFFFFFFFFFC, by decide⟩ }

/-- The upper ends are accepted; a record of zeros is whole and refused. -/
theorem accepts_exactly_legal_at_bounds :
    (∃ c, boundarySettings.build = .ok c ∧ c.settings = boundarySettings) ∧
      ∃ violation, decode (Bytes.zeros 272) = .error (.configurationInvalid violation) := by
  obtain ⟨hsettings, hrecords⟩ := accepts_exactly_legal
  obtain ⟨hbuild, hsame, -⟩ := hsettings boundarySettings
  obtain ⟨c, hc⟩ := hbuild.mpr (ChannelSettings.accepted_iff.mp (by decide))
  refine ⟨⟨c, hc, hsame c hc⟩, ?_⟩
  obtain ⟨hdecode, herror⟩ := hrecords (Bytes.zeros 272)
  cases hz : decode (Bytes.zeros 272) with
  | ok z =>
    have hbase : (Bytes.zeros 272).numberAt 48 8 = 0 := by decide +kernel
    exact absurd hbase (hdecode.mp ⟨z, hz⟩).requests.base_ne
  | error e =>
    obtain ⟨violation, rfl⟩ := herror e hz (Bytes.length_zeros 272).ge
    exact ⟨violation, rfl⟩

end ChannelConfig

end CaptureProtocol
