import CaptureProtocol.Isp.Channel
import Mathlib.Logic.Basic

/-!
# ISP channel configurations through their record

The record of an ISP channel is a fixed part, two syncpoints, more of the fixed part and a run of
tables. Apart from bytes that are ignored, something is forgotten in two places only: a syncpoint
without a table slot keeps nothing of one, and tables behind the count are blank.

* `IspSettings.ofWords_words`: accepted settings are read back from the words of their record.
* `IspSettings.getElem?_write_of_ofWords`: settings that were read are written as their record was,
  with zeros for what is forgotten.
* `IspConfig.decode_encode_of_record`: **configurations and their records determine each other**, up
  to the bytes that are forgotten.
-/

set_option autoImplicit false

namespace CaptureProtocol

namespace IspSettings

theorem gosTables_of_accepted {s : IspSettings} (h : Rule.Accepted s.rules) :
    s.gosTables.length ≤ Layout.ispGosTables := by
  simp only [rules, Rule.accepted_append, Rule.gosTables, Rule.accepted_cons] at h
  grind

theorem ofWords_words {s : IspSettings} (h : Rule.Accepted s.rules) : ofWords s.words = .ok s := by
  have ht := gosTables_of_accepted h
  have hcount : Rule.Accepted
      [.noMoreThan "num_isp_gos_tables" (Tables.count s.gosTables).toNat Layout.ispGosTables] := by
    rw [Rule.accepted_noMoreThan, Tables.toNat_count (Nat.lt_of_le_of_lt ht (by decide))]
    exact ht
  simp only [ofWords, words, Rule.enforce_of_accepted _ hcount, Syncpoint.ofWords_words,
    Tables.ofEntries_entries ht (by decide)]
  rfl

/-! ## What was read -/

/-- Only what is forgotten of the syncpoints and the tables behind the count are not kept. -/
theorem words_of_ofWords {flags : FlagSet .ispChannel} {requests programs : RingShape}
    {progress statsProgress : Syncpoint.Words} {requestInfo programInfo : UInt64}
    {requestInfoSize programInfoSize unit count : UInt32}
    {tables : Vector UInt64 Layout.ispGosTables} {s : IspSettings}
    (h : ofWords (flags, requests, programs, progress, statsProgress, requestInfo, programInfo,
      requestInfoSize, programInfoSize, unit, count, tables) = .ok s) :
    Syncpoint.ofWords progress = .ok s.progress ∧
      Syncpoint.ofWords statsProgress = .ok s.statsProgress ∧
      count.toNat ≤ 8 ∧ s.gosTables.length = count.toNat ∧
      s.words = (flags, requests, programs, s.progress.words, s.statsProgress.words, requestInfo,
        programInfo, requestInfoSize, programInfoSize, unit, count,
        Tables.entries Layout.ispGosTables 0 (Tables.ofEntries count tables)) := by
  obtain ⟨sp, hp, h⟩ := CaptureError.bind_eq_ok.mp h
  obtain ⟨sq, hq, h⟩ := CaptureError.bind_eq_ok.mp h
  obtain ⟨used, hc, h⟩ := CaptureError.bind_eq_ok.mp h
  cases h
  obtain ⟨hcount, rfl⟩ := Rule.enforce_eq_ok.mp hc
  have hle := Rule.accepted_noMoreThan.mp hcount
  have hlen := Tables.length_ofEntries tables hle
  exact ⟨hp, hq, hle, hlen, by simp [words, Tables.count, hlen]⟩

/-- The syncpoints and the tables of a record stand between parts of fixed length. -/
theorem codec_write (flags : FlagSet .ispChannel) (requests programs : RingShape)
    (requestInfo programInfo : UInt64) (requestInfoSize programInfoSize unit count : UInt32) :
    ∃ front middle, front.length = 40 ∧ middle.length = 32 ∧ ∀ progress statsProgress tables,
      codec.write (flags, requests, programs, progress, statsProgress, requestInfo, programInfo,
          requestInfoSize, programInfoSize, unit, count, tables) =
        front ++ (Syncpoint.codec.write progress ++ (Syncpoint.codec.write statsProgress ++
          (middle ++ (Codec.u64.array Layout.ispGosTables).write tables))) := by
  refine ⟨(Codec.skip 4 (.flags .ispChannel)).write flags ++
      (shapeCodec.write requests ++ shapeCodec.write programs),
    Codec.u64.write requestInfo ++ (Codec.u64.write programInfo ++
      (Codec.u32.write requestInfoSize ++ (Codec.u32.write programInfoSize ++
        (Codec.u32.write unit ++ Codec.u32.write count)))), ?_, ?_, ?_⟩
  · simp only [List.length_append, Codec.size_write, Codec.size_skip, Codec.size_flags, shapeCodec,
      Codec.size_iso, Codec.size_pair, Codec.size_u32, Codec.size_u64]
  · simp only [List.length_append, Codec.size_write, Codec.size_u32, Codec.size_u64]
  · intro progress statsProgress tables
    simp only [codec, Codec.write_pair, List.append_assoc]

/-- Settings that were read are written as their record was, with zeros for what is forgotten. -/
theorem getElem?_write_of_ofWords {w : Words} {s : IspSettings} (h : ofWords w = .ok s) {i : Nat}
    (hi : i < 184) :
    (codec.write s.words)[i]? =
      if Syncpoint.IsForgotten (codec.write w) 40 i ∨ Syncpoint.IsForgotten (codec.write w) 64 i ∨
          120 + 8 * s.gosTables.length ≤ i then some 0 else (codec.write w)[i]? := by
  obtain ⟨flags, requests, programs, progress, statsProgress, requestInfo, programInfo,
    requestInfoSize, programInfoSize, unit, count, tables⟩ := w
  obtain ⟨hp, hq, hcount, hlen, hwords⟩ := words_of_ofWords h
  obtain ⟨front, middle, hfront, hmiddle, hwrite⟩ := codec_write flags requests programs requestInfo
    programInfo requestInfoSize programInfoSize unit count
  have hp_size : (Syncpoint.codec.write progress).length = 24 := Syncpoint.codec.size_write _
  have hq_size : (Syncpoint.codec.write statsProgress).length = 24 := Syncpoint.codec.size_write _
  -- One part after the other takes on what was read.
  have hfirst (rest : Bytes) := Syncpoint.getElem?_append_write_of_ofWords hp front rest i
  have hsecond (rest : Bytes) := Syncpoint.getElem?_append_write_of_ofWords hq
    (front ++ Syncpoint.codec.write progress) rest i
  have hblank : Codec.u64.write 0 = Bytes.zeros Codec.u64.size := rfl
  have htables := Tables.getElem?_append_write_entries hblank tables hcount
    (front ++ (Syncpoint.codec.write progress ++ (Syncpoint.codec.write statsProgress ++ middle)))
    [] i
  have hend : i < 120 + Layout.ispGosTables * 8 := hi
  -- What is forgotten does not depend on the other parts.
  have hfirst_iff (rest : Bytes) := Syncpoint.isForgotten_append front
    (show 10 ≤ (Syncpoint.codec.write progress).length by omega) rest i
  have hsecond_iff (rest : Bytes) := Syncpoint.isForgotten_append
    (front ++ Syncpoint.codec.write progress)
    (show 10 ≤ (Syncpoint.codec.write statsProgress).length by omega) rest i
  simp only [List.append_assoc, List.append_nil, List.length_append, hfront, hmiddle, hp_size,
    hq_size, Codec.size_u64, Nat.reduceAdd, hend, and_true]
    at hfirst hsecond htables hfirst_iff hsecond_iff
  rw [hwords, hwrite, hwrite, hlen, Nat.mul_comm 8]
  simp only [hfirst, hsecond, htables, hfirst_iff, hsecond_iff]
  simp only [ite_or]

end IspSettings

namespace IspConfig

theorem length_bytes (c : IspConfig) : c.bytes.length = 184 :=
  (IspSettings.codec.size_write _).trans IspSettings.size_codec

theorem encode_eq_ok (c : IspConfig) : c.encode = .ok c.bytes :=
  Bytes.finish_eq_ok.mpr ⟨c.length_bytes, rfl⟩

theorem decode_bytes_append (c : IspConfig) (rest : Bytes) : decode (c.bytes ++ rest) = .ok c := by
  have hwords := IspSettings.codec.decode_write_append "capture_channel_isp_config"
    c.settings.words rest
  have hbuild : c.settings.build = .ok c := Rule.enforce_of_accepted _ c.accepted
  simp only [decode, bytes, hwords]
  show (do
    let settings ← CaptureError.ofRule (IspSettings.ofWords c.settings.words)
    CaptureError.ofRule settings.build) = Except.ok c
  rw [IspSettings.ofWords_words c.accepted]
  show CaptureError.ofRule c.settings.build = _
  rw [hbuild]
  rfl

theorem decode_eq_ok {c : IspConfig} {bytes : Bytes} (h : decode bytes = .ok c) :
    ∃ w, IspSettings.codec.decode "capture_channel_isp_config" bytes = .ok w ∧
      IspSettings.ofWords w = .ok c.settings := by
  obtain ⟨w, hw, h⟩ := CaptureError.bind_eq_ok.mp h
  obtain ⟨s, hs, h⟩ := CaptureError.bind_eq_ok.mp h
  obtain ⟨ha, rfl⟩ := Rule.enforce_eq_ok.mp (CaptureError.ofRule_eq_ok.mp h)
  exact ⟨w, hw, CaptureError.ofRule_eq_ok.mp hs⟩

/-- The bytes of a record that are ignored when read. -/
def IsReserved (i : Nat) : Prop := i < 4 ∨ 52 ≤ i ∧ i < 56 ∨ 76 ≤ i ∧ i < 80

instance (i : Nat) : Decidable (IsReserved i) :=
  inferInstanceAs (Decidable (i < 4 ∨ 52 ≤ i ∧ i < 56 ∨ 76 ≤ i ∧ i < 80))

theorem uses_eq : IspSettings.codec.uses =
    List.replicate 4 ByteUse.reserved ++ (List.replicate 48 ByteUse.data ++
      (List.replicate 4 ByteUse.reserved ++ (List.replicate 20 ByteUse.data ++
        (List.replicate 4 ByteUse.reserved ++ List.replicate 104 ByteUse.data)))) := by
  decide +kernel

theorem getElem?_uses {i : Nat} (h : i < 184) :
    IspSettings.codec.uses[i]? = some (if IsReserved i then .reserved else .data) := by
  rw [uses_eq]
  simp only [List.getElem?_append, List.getElem?_replicate, List.length_replicate, IsReserved]
  grind

theorem getElem?_write_of_decode {w : IspSettings.Words} {bytes : Bytes}
    (h : IspSettings.codec.decode "capture_channel_isp_config" bytes = .ok w) {i : Nat}
    (hi : i < 184) :
    (IspSettings.codec.write w)[i]? = if IsReserved i then some 0 else bytes[i]? :=
  Codec.getElem?_write_of_decode h (getElem?_uses hi)

/--
Whether byte `i` of a record with so many tables is forgotten when it is read: ignored bytes, what
stands beside the index of a missing table slot, and the tables behind the count.
-/
def IsForgotten (record : Bytes) (tables i : Nat) : Prop :=
  i < 4 ∨ Syncpoint.IsForgotten record 40 i ∨ Syncpoint.IsForgotten record 64 i ∨
    120 + 8 * tables ≤ i

instance (record : Bytes) (tables i : Nat) : Decidable (IsForgotten record tables i) :=
  inferInstanceAs (Decidable (_ ∨ _ ∨ _ ∨ _))

theorem getElem?_bytes_of_decode {c : IspConfig} {bytes : Bytes} (h : decode bytes = .ok c)
    {i : Nat} (hi : i < 184) :
    c.bytes[i]? =
      if IsForgotten bytes c.settings.gosTables.length i then some 0 else bytes[i]? := by
  obtain ⟨w, hw, hs⟩ := decode_eq_ok h
  have hindex : ∀ k < 184, ¬ IsReserved k → (IspSettings.codec.write w)[k]? = bytes[k]? := by
    intro k hk hr
    rw [getElem?_write_of_decode hw hk, if_neg hr]
  have hfirst := hindex 49 (by decide) (by decide)
  have hsecond := hindex 73 (by decide) (by decide)
  rw [IspConfig.bytes, IspSettings.getElem?_write_of_ofWords hs hi, getElem?_write_of_decode hw hi]
  simp only [IsForgotten, Syncpoint.IsForgotten, IsReserved, Nat.reduceAdd, hfirst, hsecond]
  grind

/--
**Configurations and their records determine each other.** Whatever steps were taken, in whatever
order and however often, if they lead to a configuration then it has a record, of 184 bytes, and
reading these gives the same configuration, no matter what follows them. And what a configuration
was read from is its record, except that the record is zero where bytes are forgotten.
-/
theorem decode_encode_of_record :
    (∀ steps c, (IspSettings.ofSteps steps).build = .ok c →
      ∃ record, c.encode = .ok record ∧ record.length = 184 ∧
        ∀ rest, decode (record ++ rest) = .ok c) ∧
    ∀ bytes c, decode bytes = .ok c →
      ∃ record, c.encode = .ok record ∧ record.length = 184 ∧
        ∀ i < 184, record[i]? =
          if IsForgotten bytes c.settings.gosTables.length i then some 0 else bytes[i]? := by
  refine ⟨?_, ?_⟩
  · intro steps c _
    exact ⟨c.bytes, c.encode_eq_ok, c.length_bytes, c.decode_bytes_append⟩
  · intro bytes c h
    exact ⟨c.bytes, c.encode_eq_ok, c.length_bytes, fun i hi => getElem?_bytes_of_decode h hi⟩

/-- Steps of most kinds, some taken twice. -/
def mixedSteps : List IspStep :=
  [.unit 9, .gosTable 0x1000, .requests ⟨0x80000000, 4, 256⟩, .flags ⟨0x3⟩,
    .programs ⟨0x80100000, 3, 16640⟩, .memoryInfo 0x80200000 64 0x80300000 128,
    .progress ⟨7, 1, some ⟨4, 2, 6, by decide⟩, 0x7FC, by decide⟩, .gosTable 0x1100,
    .statsProgress ⟨9, 2, none, 8, by decide⟩, .unit 1, .requests ⟨0x80000000, 5, 256⟩]

/-- What these steps lead to. -/
def mixedConfig : IspConfig := ⟨IspSettings.ofSteps mixedSteps, by decide⟩

/-- Its record with other bytes in places that are forgotten. -/
def mixedRecord : Bytes :=
  (((mixedConfig.bytes.overwrite 0 [1, 2, 3, 4]).overwrite 54 [5]).overwrite 72 [6]).overwrite 136
    [7, 8]

/-- Steps of most kinds lead to a configuration, which survives, and which other bytes give too. -/
theorem decode_encode_of_mixedRecord :
    ∃ record, (IspSettings.ofSteps mixedSteps).build = .ok mixedConfig ∧
      mixedConfig.encode = .ok record ∧ decode (record ++ [1, 2, 3]) = .ok mixedConfig ∧
      decode mixedRecord = .ok mixedConfig ∧
      ∀ i < 184, record[i]? = if IsForgotten mixedRecord 2 i then some 0 else mixedRecord[i]? := by
  have hb : (IspSettings.ofSteps mixedSteps).build = .ok mixedConfig :=
    Rule.enforce_of_accepted _ mixedConfig.accepted
  have hd : decode mixedRecord = .ok mixedConfig := rfl
  obtain ⟨hto, hfrom⟩ := decode_encode_of_record
  obtain ⟨record, he, -, hr⟩ := hto mixedSteps _ hb
  obtain ⟨record', he', -, hi⟩ := hfrom mixedRecord _ hd
  obtain rfl : record = record' := Except.ok.inj (he.symm.trans he')
  exact ⟨record, hb, he, hr _, hd, hi⟩

end IspConfig

end CaptureProtocol
