import CaptureProtocol.Proofs.Channel.RoundTrip
import Mathlib.Logic.Basic

/-!
# Channel records in canonical form

Many records are read as the same channel configuration: the channel number and the padding are not
looked at, nor are tables behind the count, the CSI words when no flag announces them, and what
stands beside the index of a missing table slot. A configuration is written as the one record among
them in which all of this is blank.

* `ChannelSettings.words_of_ofWords`: what of the words of a record is not kept.
* `ChannelSettings.getElem?_write_of_ofWords`: settings that were read are written as their record
  was, with blanks for what is forgotten.
* `ChannelConfig.encode_of_decode`: **a record that is read and written becomes canonical**, and all
  its other bytes stay.
-/

set_option autoImplicit false

namespace CaptureProtocol

namespace ChannelSettings

/-- The binding is kept where the flags announce one. -/
theorem words_of_csiOfWords {flags : FlagSet .channel} {words : UInt32 × UInt32 × UInt32}
    {csi : Option CsiBinding} (h : csiOfWords flags words = .ok csi) :
    csi.isSome = flags.contains ChannelFlags.csi ∧
      CsiBinding.words csi =
        if flags.contains ChannelFlags.csi then words else CsiBinding.words none := by
  unfold csiOfWords at h
  split at h
  · next hf =>
    cases hb : CsiBinding.ofWords words.1 words.2.1 words.2.2 with
    | error violation => rw [hb] at h; cases h
    | ok binding =>
      rw [hb] at h
      cases h
      exact ⟨hf.symm, (CsiBinding.words_of_ofWords hb).trans (if_pos hf).symm⟩
  · next hf =>
    cases h
    exact ⟨(Bool.eq_false_iff.mpr hf).symm, (if_neg hf).symm⟩

/--
Only the CSI words that no flag announces, what is forgotten of the syncpoints and the tables behind
the count are not kept.
-/
theorem words_of_ofWords {flags : FlagSet .channel} {unit : UInt32} {channels channels₂ : UInt64}
    {csi : UInt32 × UInt32 × UInt32} {requests memoryInfo : UInt64}
    {depth requestSize memoryInfoSize : UInt32} {slvsecMain slvsecSub : UInt8} {count : UInt32}
    {tables : Vector UInt64 Layout.viGosTables} {progress embdata linetimer : Syncpoint.Words}
    {uncorrectable correctable : FlagSet .channelError} {stopBits : UInt64} {s : ChannelSettings}
    (h : ofWords (flags, unit, channels, channels₂, csi, requests, memoryInfo, depth, requestSize,
      memoryInfoSize, slvsecMain, slvsecSub, count, tables, progress, embdata, linetimer,
      uncorrectable, correctable, stopBits) = .ok s) :
    s.CsiFlagged ∧ count.toNat ≤ 12 ∧ Syncpoint.ofWords progress = .ok s.progress ∧
      Syncpoint.ofWords embdata = .ok s.embdata ∧ Syncpoint.ofWords linetimer = .ok s.linetimer ∧
      s.words = (flags, unit, channels, channels₂,
        if flags.contains ChannelFlags.csi then csi else CsiBinding.words none, requests,
        memoryInfo, depth, requestSize, memoryInfoSize, slvsecMain, slvsecSub, count,
        Tables.entries Layout.viGosTables 0 (Tables.ofEntries count tables), s.progress.words,
        s.embdata.words, s.linetimer.words, uncorrectable, correctable, stopBits) := by
  obtain ⟨hcount, sp, se, sl, binding, hp, he, hl, hb, rfl⟩ := ofWords_eq_ok.mp h
  obtain ⟨hflag, hwords⟩ := words_of_csiOfWords hb
  refine ⟨fun hsome => hflag.symm.trans hsome, hcount, hp, he, hl, ?_⟩
  simp [words, Tables.count, Tables.length_ofEntries tables hcount, hwords]

/-! ## The parts of a record -/

/-- The format of the words of a CSI binding. -/
abbrev csiCodec : Codec (UInt32 × UInt32 × UInt32) := .pair .u32 (.pair .u32 .u32)

/-- The CSI words, the count, the tables and the syncpoints stand between parts of fixed length. -/
theorem codec_write (flags : FlagSet .channel) (unit : UInt32) (channels channels₂ : UInt64)
    (requests memoryInfo : UInt64) (depth requestSize memoryInfoSize : UInt32)
    (slvsecMain slvsecSub : UInt8) (uncorrectable correctable : FlagSet .channelError)
    (stopBits : UInt64) :
    ∃ front middle back, front.length = 28 ∧ middle.length = 40 ∧
      ∀ csi count tables progress embdata linetimer,
        codec.write (flags, unit, channels, channels₂, csi, requests, memoryInfo, depth,
            requestSize, memoryInfoSize, slvsecMain, slvsecSub, count, tables, progress, embdata,
            linetimer, uncorrectable, correctable, stopBits) =
          (Codec.flags .channel).write flags ++ (front ++ (csiCodec.write csi ++ (middle ++
            (Codec.u32.write count ++ ((Codec.u64.array Layout.viGosTables).write tables ++
              (Syncpoint.codec.write progress ++ (Syncpoint.codec.write embdata ++
                (Syncpoint.codec.write linetimer ++ back)))))))) := by
  refine ⟨Bytes.zeros 4 ++ (Codec.u32.write unit ++ (Bytes.zeros 4 ++
      (Codec.u64.write channels ++ Codec.u64.write channels₂))),
    Bytes.zeros 4 ++ (Codec.u64.write requests ++ (Codec.u64.write memoryInfo ++
      (Codec.u32.write depth ++ (Codec.u32.write requestSize ++ (Codec.u32.write memoryInfoSize ++
        (Bytes.zeros 4 ++ (Codec.u8.write slvsecMain ++ (Codec.u8.write slvsecSub ++
          Bytes.zeros 2)))))))),
    (Codec.flags .channelError).write uncorrectable ++
      ((Codec.flags .channelError).write correctable ++ Codec.u64.write stopBits), ?_, ?_, ?_⟩
  · simp only [List.length_append, Codec.size_write, Bytes.length_zeros, Codec.size_u32,
      Codec.size_u64]
  · simp only [List.length_append, Codec.size_write, Bytes.length_zeros, Codec.size_u8,
      Codec.size_u32, Codec.size_u64]
  · intro csi count tables progress embdata linetimer
    simp only [codec, csiCodec, Codec.write_pair, Codec.write_gap, List.append_assoc]

/-- The bytes of the words that stand for no binding. -/
def noBinding : Bytes := [0, 0, 0, 0, 0xFF, 0xFF, 0xFF, 0xFF, 0, 0, 0, 0]

theorem write_words_none : csiCodec.write (CsiBinding.words none) = noBinding := by decide

/-- Within a record, CSI words that no flag announces are those of no binding. -/
theorem getElem?_append_write_csi (flags : FlagSet .channel) (csi : UInt32 × UInt32 × UInt32)
    (front rest : Bytes) (i : Nat) :
    (front ++ (csiCodec.write (if flags.contains ChannelFlags.csi then csi
        else CsiBinding.words none) ++ rest))[i]? =
      if flags.contains ChannelFlags.csi = false ∧ front.length ≤ i ∧ i < front.length + 12 then
        noBinding[i - front.length]?
      else (front ++ (csiCodec.write csi ++ rest))[i]? := by
  have hlen : noBinding.length = (csiCodec.write csi).length := (csiCodec.size_write csi).symm
  cases flags.contains ChannelFlags.csi with
  | true => simp
  | false =>
    rw [if_neg Bool.false_ne_true, write_words_none, ← Bytes.overwrite_append hlen,
      Bytes.getElem?_overwrite (by simp [hlen])]
    simp only [true_and]
    rfl

/--
Settings that were read are written as their record was, with the words of no binding and zeros for
what is forgotten.
-/
theorem getElem?_write_of_ofWords {w : Words} {s : ChannelSettings} (h : ofWords w = .ok s) :
    ∃ flags count, s.CsiFlagged ∧
      (codec.write w).slice 0 4 = (Codec.flags .channel).write flags ∧
      (codec.write w).slice 84 4 = Codec.u32.write count ∧
      ∀ i, (codec.write s.words)[i]? =
        if flags.contains ChannelFlags.csi = false ∧ 32 ≤ i ∧ i < 44 then noBinding[i - 32]?
        else if 88 + 8 * count.toNat ≤ i ∧ i < 184 ∨ Syncpoint.IsForgotten (codec.write w) 184 i ∨
            Syncpoint.IsForgotten (codec.write w) 208 i ∨
            Syncpoint.IsForgotten (codec.write w) 232 i then some 0
        else (codec.write w)[i]? := by
  obtain ⟨flags, unit, channels, channels₂, csi, requests, memoryInfo, depth, requestSize,
    memoryInfoSize, slvsecMain, slvsecSub, count, tables, progress, embdata, linetimer,
    uncorrectable, correctable, stopBits⟩ := w
  obtain ⟨hflagged, hcount, hp, he, hl, hwords⟩ := words_of_ofWords h
  obtain ⟨front, middle, back, hfront, hmiddle, hwrite⟩ := codec_write flags unit channels channels₂
    requests memoryInfo depth requestSize memoryInfoSize slvsecMain slvsecSub uncorrectable
    correctable stopBits
  have hf_size : ((Codec.flags .channel).write flags).length = 4 := Codec.size_write _ _
  have hb_size : (csiCodec.write csi).length = 12 := Codec.size_write _ _
  have hc_size : (Codec.u32.write count).length = 4 := Codec.size_write _ _
  have ht_size : ((Codec.u64.array Layout.viGosTables).write tables).length = 96 := by
    rw [Codec.size_write, Codec.size_array]
    rfl
  have hp_size : (Syncpoint.codec.write progress).length = 24 := Codec.size_write _ _
  have he_size : (Syncpoint.codec.write embdata).length = 24 := Codec.size_write _ _
  have hl_size : (Syncpoint.codec.write linetimer).length = 24 := Codec.size_write _ _
  -- The part of the record before each of the parts that are not kept as they are.
  let toCsi := (Codec.flags .channel).write flags ++ front
  let toCount := toCsi ++ (csiCodec.write csi ++ middle)
  let toTables := toCount ++ Codec.u32.write count
  let toProgress := toTables ++ (Codec.u64.array Layout.viGosTables).write tables
  let toEmbdata := toProgress ++ Syncpoint.codec.write progress
  let toLinetimer := toEmbdata ++ Syncpoint.codec.write embdata
  refine ⟨flags, count, hflagged, ?_, ?_, fun i => ?_⟩
  · rw [hwrite]
    exact Bytes.slice_append [] ((Codec.flags .channel).write flags) _
  · have hslice (rest : Bytes) := Bytes.slice_append toCount (Codec.u32.write count) rest
    simp only [toCount, toCsi, List.append_assoc, List.length_append, hf_size, hfront, hb_size,
      hmiddle, hc_size, Nat.reduceAdd] at hslice
    rw [hwrite]
    exact hslice _
  · -- One part after the other takes on what was read.
    have hcsi (rest : Bytes) := getElem?_append_write_csi flags csi toCsi rest i
    have htables (rest : Bytes) := Tables.getElem?_append_write_entries
      (show Codec.u64.write 0 = Bytes.zeros Codec.u64.size from rfl) tables hcount toTables rest i
    have hprogress (rest : Bytes) :=
      Syncpoint.getElem?_append_write_of_ofWords hp toProgress rest i
    have hembdata (rest : Bytes) := Syncpoint.getElem?_append_write_of_ofWords he toEmbdata rest i
    have hlinetimer (rest : Bytes) :=
      Syncpoint.getElem?_append_write_of_ofWords hl toLinetimer rest i
    -- What is forgotten does not depend on the other parts.
    have hprogress_iff (rest : Bytes) := Syncpoint.isForgotten_append toProgress
      (show 10 ≤ (Syncpoint.codec.write progress).length by omega) rest i
    have hembdata_iff (rest : Bytes) := Syncpoint.isForgotten_append toEmbdata
      (show 10 ≤ (Syncpoint.codec.write embdata).length by omega) rest i
    have hlinetimer_iff (rest : Bytes) := Syncpoint.isForgotten_append toLinetimer
      (show 10 ≤ (Syncpoint.codec.write linetimer).length by omega) rest i
    simp only [toLinetimer, toEmbdata, toProgress, toTables, toCount, toCsi, List.append_assoc,
      List.length_append, hf_size, hfront, hb_size, hmiddle, hc_size, ht_size, hp_size, he_size,
      Codec.size_u64, Nat.reduceAdd]
      at hcsi htables hprogress hembdata hlinetimer hprogress_iff hembdata_iff hlinetimer_iff
    have hend : 88 + Layout.viGosTables * 8 = 184 := rfl
    rw [hwords, hwrite, hwrite, hcsi, Nat.mul_comm 8]
    simp only [htables, hprogress, hembdata, hlinetimer, hprogress_iff, hembdata_iff,
      hlinetimer_iff, hend, ite_or]

end ChannelSettings

namespace ChannelConfig

theorem decode_eq_ok {c : ChannelConfig} {bytes : Bytes} (h : decode bytes = .ok c) :
    ∃ w, ChannelSettings.codec.decode "capture_channel_config" bytes = .ok w ∧
      ChannelSettings.ofWords w = .ok c.settings := by
  obtain ⟨w, hw, h⟩ := CaptureError.bind_eq_ok.mp h
  obtain ⟨s, hs, h⟩ := CaptureError.bind_eq_ok.mp h
  obtain ⟨ha, rfl⟩ := Rule.enforce_eq_ok.mp (CaptureError.ofRule_eq_ok.mp h)
  exact ⟨w, hw, CaptureError.ofRule_eq_ok.mp hs⟩

/-- The bytes of a record that are ignored when read: the channel number and the padding. -/
def IsReserved (i : Nat) : Prop :=
  4 ≤ i ∧ i < 8 ∨ 12 ≤ i ∧ i < 16 ∨ 44 ≤ i ∧ i < 48 ∨ 76 ≤ i ∧ i < 80 ∨ 82 ≤ i ∧ i < 84 ∨
    196 ≤ i ∧ i < 200 ∨ 220 ≤ i ∧ i < 224 ∨ 244 ≤ i ∧ i < 248

instance (i : Nat) : Decidable (IsReserved i) :=
  inferInstanceAs (Decidable (_ ∨ _))

theorem uses_eq : ChannelSettings.codec.uses =
    List.replicate 4 ByteUse.data ++ (List.replicate 4 ByteUse.reserved ++
      (List.replicate 4 ByteUse.data ++ (List.replicate 4 ByteUse.reserved ++
        (List.replicate 28 ByteUse.data ++ (List.replicate 4 ByteUse.reserved ++
          (List.replicate 28 ByteUse.data ++ (List.replicate 4 ByteUse.reserved ++
            (List.replicate 2 ByteUse.data ++ (List.replicate 2 ByteUse.reserved ++
              (List.replicate 112 ByteUse.data ++ (List.replicate 4 ByteUse.reserved ++
                (List.replicate 20 ByteUse.data ++ (List.replicate 4 ByteUse.reserved ++
                  (List.replicate 20 ByteUse.data ++ (List.replicate 4 ByteUse.reserved ++
                    List.replicate 24 ByteUse.data))))))))))))))) := by
  decide +kernel

theorem getElem?_uses {i : Nat} (h : i < 272) :
    ChannelSettings.codec.uses[i]? = some (if IsReserved i then .reserved else .data) := by
  rw [uses_eq]
  simp only [List.getElem?_append, List.getElem?_replicate, List.length_replicate, IsReserved]
  grind

theorem getElem?_write_of_decode {w : ChannelSettings.Words} {bytes : Bytes}
    (h : ChannelSettings.codec.decode "capture_channel_config" bytes = .ok w) {i : Nat}
    (hi : i < 272) :
    (ChannelSettings.codec.write w)[i]? = if IsReserved i then some 0 else bytes[i]? :=
  Codec.getElem?_write_of_decode h (getElem?_uses hi)

/--
Whether byte `i` of a record with so many tables is forgotten when it is read: ignored bytes, tables
behind the count, and what stands beside the index of a missing table slot.
-/
def IsForgotten (record : Bytes) (tables i : Nat) : Prop :=
  IsReserved i ∨ 88 + 8 * tables ≤ i ∧ i < 184 ∨ Syncpoint.IsForgotten record 184 i ∨
    Syncpoint.IsForgotten record 208 i ∨ Syncpoint.IsForgotten record 232 i

instance (record : Bytes) (tables i : Nat) : Decidable (IsForgotten record tables i) :=
  inferInstanceAs (Decidable (_ ∨ _))

/--
Byte `i` of the canonical form of a record that holds these flags and this count of tables: the CSI
words that no flag announces are those of no binding, and what is forgotten is zero.
-/
def canonicalByte (record : Bytes) (flags : FlagSet .channel) (count : UInt32) (i : Nat) :
    Option UInt8 :=
  if flags.contains ChannelFlags.csi = false ∧ 32 ≤ i ∧ i < 44 then
    ChannelSettings.noBinding[i - 32]?
  else if IsForgotten record count.toNat i then some 0
  else record[i]?

/-- A word that is not ignored is in the record as it is written. -/
theorem decodeAt_of_decode {w : ChannelSettings.Words} {bytes : Bytes}
    (h : ChannelSettings.codec.decode "capture_channel_config" bytes = .ok w) {α : Type}
    {c : Codec α} {offset : Nat} {a : α} (hfits : offset + c.size ≤ 272)
    (hdata : ∀ k < c.size, ¬ IsReserved (offset + k))
    (ha : (ChannelSettings.codec.write w).slice offset c.size = c.write a) (record : String) :
    c.decodeAt record offset bytes = .ok a := by
  refine Codec.decodeAt_of_slice ?_
  rw [← ha]
  apply List.ext_getElem?
  intro k
  rw [Bytes.getElem?_slice, Bytes.getElem?_slice]
  by_cases hk : k < c.size
  · rw [if_pos hk, if_pos hk, getElem?_write_of_decode h (by omega), if_neg (hdata k hk)]
  · rw [if_neg hk, if_neg hk]

/--
**A record that is read and written becomes canonical.** Whatever bytes a configuration was read
from, it can be written, to 272 bytes. They are the first 272 bytes that were read, except that the
channel number, the padding, the tables behind the count that was read and what stands beside the
index of a missing table slot are zero, and that the CSI words are those of no binding if the flags
that were read announce none; unknown bits of flags and of notify words are kept like any others.
Reading what was written, no matter what follows, gives the same configuration.
-/
theorem encode_of_decode (bytes : Bytes) (c : ChannelConfig) (h : decode bytes = .ok c) :
    ∃ flags count record,
      (Codec.flags .channel).decodeAt "capture_channel_config" 0 bytes = .ok flags ∧
      Codec.u32.decodeAt "capture_channel_config" 84 bytes = .ok count ∧
      c.encode = .ok record ∧ record.length = 272 ∧
      (∀ i < 272, record[i]? = canonicalByte bytes flags count i) ∧
      ∀ rest, decode (record ++ rest) = .ok c := by
  obtain ⟨w, hw, hs⟩ := decode_eq_ok h
  obtain ⟨flags, count, hflagged, hflags, hcount, hwrite⟩ :=
    ChannelSettings.getElem?_write_of_ofWords hs
  refine ⟨flags, count, c.bytes, ?_, ?_, c.encode_eq_ok, c.length_bytes, fun i hi => ?_,
    decode_bytes_append hflagged⟩
  · exact decodeAt_of_decode hw (by decide) (by decide) hflags _
  · exact decodeAt_of_decode hw (by decide) (by decide) hcount _
  · -- The indices of the table slots are among the bytes that are not ignored.
    have hindex : ∀ k < 272, ¬ IsReserved k → (ChannelSettings.codec.write w)[k]? = bytes[k]? := by
      intro k hk hr
      rw [getElem?_write_of_decode hw hk, if_neg hr]
    have hprogress := hindex 193 (by decide) (by decide)
    have hembdata := hindex 217 (by decide) (by decide)
    have hlinetimer := hindex 241 (by decide) (by decide)
    rw [ChannelConfig.bytes, hwrite, getElem?_write_of_decode hw hi]
    simp only [canonicalByte, IsForgotten, Syncpoint.IsForgotten, Nat.reduceAdd, hprogress,
      hembdata, hlinetimer]
    simp only [ite_or]
    grind

/-- Three slots, no CSI binding, and bits in the flags and the stop mask that have no name. -/
def looseConfig : ChannelConfig :=
  ⟨{ flags := ⟨0x80000000⟩, requests := 0x80000000, memoryInfo := 0x81000000, queueDepth := 3,
     gosTables := [0x1000], stopBits := 0x8000000000000000 }, by decide⟩

/-- Its record with other bytes in places that are forgotten. -/
def looseRecord : Bytes :=
  (((looseConfig.bytes.overwrite 4 [1, 2, 3, 4]).overwrite 32 [5, 6, 7, 8, 9, 10]).overwrite 96
    [11]).overwrite 192 [12]

/-- Bytes in forgotten places are read over and written as they ought to be. -/
theorem encode_of_looseRecord :
    ∃ flags count record, decode looseRecord = .ok looseConfig ∧
      looseConfig.encode = .ok record ∧ record.length = 272 ∧
      (∀ i < 272, record[i]? = canonicalByte looseRecord flags count i) ∧
      decode (record ++ [1, 2, 3]) = .ok looseConfig := by
  have hd : decode looseRecord = .ok looseConfig := rfl
  obtain ⟨flags, count, record, -, -, he, hl, hi, hr⟩ := encode_of_decode looseRecord _ hd
  exact ⟨flags, count, record, hd, he, hl, hi, hr _⟩

end ChannelConfig

end CaptureProtocol
