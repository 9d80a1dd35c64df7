import CaptureProtocol.Proofs.Request.RoundTrip
import CaptureProtocol.Proofs.Record.Field

/-!
# Descriptors in canonical form

Many descriptors are read as the same request: the pre-fences, the status, the padding and the
reserved end are not looked at, nor are compared regions behind the count, and any number that is
not zero stands for true. A request is written as the one descriptor among them in which all of this
is zero and true is one.

* `CaptureRequest.decodeRequest_congr`: bytes that are ignored do not matter, the status among them.
* `CaptureRequest.getElem?_write_of_decodeRequest`: a request that was read is written as its
  descriptor was, in canonical form.
* `CaptureRequest.decode_encode_canonical`: **descriptors are read as the same request exactly when
  they have the same canonical form, and a request that was read is written as this form**.
-/

set_option autoImplicit false

namespace CaptureProtocol.CaptureRequest

/-! ## What each byte is for -/

/--
The bytes that are ignored when a descriptor is read: the pre-fences, the padding of the settings of
the video input, the status, the reserved end, and what comes after the descriptor.
-/
def IsIgnored (i : Nat) : Prop :=
  12 ≤ i ∧ i < 64 ∨ i = 87 ∨ i = 119 ∨ i = 143 ∨ 158 ≤ i ∧ i < 160 ∨ 220 ≤ i ∧ i < 224 ∨
    272 ≤ i ∧ i < 328 ∨ 344 ≤ i

instance (i : Nat) : Decidable (IsIgnored i) :=
  inferInstanceAs (Decidable (_ ∨ _))

/-- What byte `i` of a descriptor is for; one of them holds a truth value. -/
def useOf (i : Nat) : ByteUse :=
  if IsIgnored i then .reserved else if i = 118 then .truth else .data

theorem uses_eq : codec.uses = (List.range 384).map useOf := by
  decide +kernel

theorem getElem?_uses {i : Nat} (h : i < 384) : codec.uses[i]? = some (useOf i) := by
  rw [uses_eq, List.getElem?_map, List.getElem?_range h]
  rfl

/-- Bytes that are ignored do not matter. -/
theorem decodeRequest_congr {bytes other : Bytes} (hb : 384 ≤ bytes.length)
    (ho : 384 ≤ other.length) (h : ∀ i, ¬ IsIgnored i → bytes[i]? = other[i]?) :
    decodeRequest bytes = decodeRequest other := by
  have hread : codec.decode descriptorRecord bytes = codec.decode descriptorRecord other := by
    refine codec.decode_congr descriptorRecord (by rw [size_codec]; exact hb)
      (by rw [size_codec]; exact ho) fun i hi hu => h i fun hignored => hu ?_
    rw [size_codec] at hi
    rw [getElem?_uses hi, useOf, if_pos hignored]
  rw [decodeRequest, decodeRequest, hread]

/-! ## What was read -/

variable {sequence : UInt32} {flags : FlagSet .capture} {start completion : UInt16}
  {vi : ViSettings} {diagnostics : Pfsd.Words} {engine output : UInt64} {mark : WatermarkPlace}
  {r : CaptureRequest}

/-- Only what is forgotten of the diagnostics is not kept. -/
theorem words_of_ofWords
    (h : ofWords (sequence, flags, start, completion, vi, diagnostics, engine, output, mark) =
      .ok r) :
    ∃ p, Pfsd.ofWords diagnostics = .ok p ∧ (∀ q, r.pfsd = some q → q ≠ {} ∧ q = p) ∧
      r.words = (sequence, flags, start, completion, vi, p.words, engine, output, mark) := by
  obtain ⟨p, hp, h⟩ := CaptureError.bind_eq_ok.mp h
  cases h
  refine ⟨p, hp, fun q hq => ?_, ?_⟩
  · simp only [Option.ite_none_left_eq_some, Option.some.injEq] at hq
    obtain ⟨hne, rfl⟩ := hq
    exact ⟨hne, rfl⟩
  · by_cases hempty : p = {} <;> simp [words, hempty]

theorem length_write (words : Words) : (codec.write words).length = 384 :=
  (codec.size_write words).trans size_codec

/-- The compared regions stand between parts of fixed length. -/
theorem codec_write_regions (sequence : UInt32) (flags : FlagSet .capture)
    (start completion : UInt16) (vi : ViSettings) (region : ReplaceRegion) (pattern count : UInt32)
    (engine output : UInt64) (mark : WatermarkPlace) :
    ∃ front back, front.length = 240 ∧ ∀ expected,
      codec.write (sequence, flags, start, completion, vi, (region, pattern, count, expected),
          engine, output, mark) =
        front ++ ((Pfsd.expectedCodec.array Layout.faultRegions).write expected ++ back) := by
  refine ⟨Codec.u32.write sequence ++ ((Codec.flags .capture).write flags ++
      (Codec.u16.write start ++ (Codec.u16.write completion ++ (Bytes.zeros 52 ++
        (ViSettings.codec.write vi ++ (Pfsd.regionCodec.write region ++
          (Codec.u32.write pattern ++ Codec.u32.write count))))))),
    Codec.u64.write engine ++ (Bytes.zeros 56 ++ (Codec.u64.write output ++
      (watermarkCodec.write mark ++ Bytes.zeros 40))), ?_, ?_⟩
  · simp only [List.length_append, Codec.size_write, Bytes.length_zeros, Codec.size_u16,
      Codec.size_u32, Codec.size_flags, ViSettings.size_codec, Pfsd.regionCodec, Codec.size_iso,
      Codec.size_pair]
  · intro expected
    simp only [codec, Pfsd.codec, Codec.write_pair, Codec.write_gap, List.append_assoc]

/-- The count of compared regions is the number at its place. -/
theorem toNat_count_of_decode {region : ReplaceRegion} {pattern count : UInt32}
    {expected : Vector ExpectedRegion Layout.faultRegions} {bytes : Bytes}
    (h : codec.decode descriptorRecord bytes =
      .ok (sequence, flags, start, completion, vi, (region, pattern, count, expected), engine,
        output, mark)) :
    count.toNat = bytes.numberAt 236 4 := by
  simp only [Codec.decode, codec, Pfsd.codec, Pfsd.regionCodec, Codec.decodeAt_pair_eq_ok,
    Codec.decodeAt_gap_eq_ok, Codec.size_iso, Codec.size_pair, Codec.size_gap, Codec.size_flags,
    Codec.size_u16, Codec.size_u32, ViSettings.size_codec, Nat.reduceAdd] at h
  obtain ⟨-, -, -, -, -, ⟨-, -, hcount, -⟩, -⟩ := h
  exact Codec.toNat_of_decodeAt_u32 hcount

/--
Byte `i` of the canonical form of a descriptor: what is ignored and the compared regions behind the
count are zero, and what stands for true is one.
-/
def canonicalByte (record : Bytes) (i : Nat) : Option UInt8 :=
  if IsIgnored i ∨ 240 + 12 * record.numberAt 236 4 ≤ i ∧ i < 264 then some 0
  else if i = 118 then record[118]?.map fun b => if b = 0 then 0 else 1
  else record[i]?

/-- A request that was read is written as its descriptor was, in canonical form. -/
theorem getElem?_write_of_decodeRequest {bytes : Bytes} (h : decodeRequest bytes = .ok r)
    {i : Nat} (hi : i < 384) : (codec.write r.words)[i]? = canonicalByte bytes i := by
  obtain ⟨w, hw, hr⟩ := CaptureError.bind_eq_ok.mp h
  obtain ⟨sequence, flags, start, completion, vi, ⟨region, pattern, count, expected⟩, engine,
    output, mark⟩ := w
  obtain ⟨p, hp, -, hwords⟩ := words_of_ofWords (CaptureError.ofRule_eq_ok.mp hr)
  obtain ⟨hcount, -, hpwords⟩ := Pfsd.words_of_ofWords hp
  obtain ⟨front, back, hfront, hwrite⟩ := codec_write_regions sequence flags start completion vi
    region pattern count engine output mark
  have hregions := Tables.getElem?_append_write_entries
    (show Pfsd.expectedCodec.write {} = Bytes.zeros Pfsd.expectedCodec.size from rfl) expected
    hcount front back i
  have hsize : Pfsd.expectedCodec.size = 12 := rfl
  have hend : 240 + Layout.faultRegions * 12 = 264 := rfl
  rw [hfront, hsize, hend, ← hwrite, ← hwrite, toNat_count_of_decode hw,
    Nat.mul_comm _ 12] at hregions
  obtain ⟨hroom, -⟩ := Codec.decodeAt_eq_ok hw
  have hlen : i < bytes.length := by
    rw [size_codec] at hroom
    omega
  rw [hwords, hpwords, hregions, Codec.getElem?_write_canonical hw, getElem?_uses hi, useOf,
    canonicalByte, List.getElem?_eq_getElem hlen]
  by_cases hignored : IsIgnored i
  · simp [hignored, ByteUse.canonical]
  · by_cases htruth : i = 118
    · subst htruth
      simp [hignored, ByteUse.canonical, List.getElem?_eq_getElem hlen]
    · simp [hignored, htruth, ByteUse.canonical]

/-- A request that was read would be read again from its words. -/
theorem ofWords_words_of_decode {bytes : Bytes} (h : decodeRequest bytes = .ok r) :
    ofWords r.words = .ok r := by
  obtain ⟨w, -, hr⟩ := CaptureError.bind_eq_ok.mp h
  obtain ⟨p, hp, hpfsd, -⟩ := words_of_ofWords (CaptureError.ofRule_eq_ok.mp hr)
  obtain ⟨hcount, hlen, -⟩ := Pfsd.words_of_ofWords hp
  refine ofWords_words fun q hq => ?_
  obtain ⟨hne, rfl⟩ := hpfsd q hq
  exact ⟨hne, Nat.le_trans (Nat.le_of_eq hlen) hcount⟩

/-- Descriptors are read as the same request exactly when they have the same canonical form. -/
theorem eq_iff_canonicalByte {a b : Bytes} {s : CaptureRequest} (ha : decodeRequest a = .ok r)
    (hb : decodeRequest b = .ok s) :
    r = s ↔ ∀ i < 384, canonicalByte a i = canonicalByte b i := by
  constructor
  · rintro rfl i hi
    rw [← getElem?_write_of_decodeRequest ha hi, getElem?_write_of_decodeRequest hb hi]
  · intro h
    have hwrite : codec.write r.words = codec.write s.words := by
      apply List.ext_getElem?
      intro i
      by_cases hi : i < 384
      · rw [getElem?_write_of_decodeRequest ha hi, getElem?_write_of_decodeRequest hb hi, h i hi]
      · rw [List.getElem?_eq_none (by rw [length_write]; omega),
          List.getElem?_eq_none (by rw [length_write]; omega)]
    have hr := ofWords_words_of_decode ha
    rw [codec.write_injective hwrite, ofWords_words_of_decode hb] at hr
    exact (Except.ok.inj hr).symm

/--
**Descriptors in canonical form.** A request that was read from some bytes and is written for some
channel fills its slot with the canonical form of these bytes. Bytes that are long enough and differ
only where they are ignored are read alike, be it as a request or as an error. And bytes that are
read as requests are read as the same one exactly when they have the same canonical form.
-/
theorem decode_encode_canonical :
    (∀ (bytes slot : Bytes) (r : CaptureRequest) (config : ChannelConfig),
      decodeRequest bytes = .ok r → r.encodeFor config = .ok slot →
        slot.length = config.requestBytes ∧
          ∀ i < config.requestBytes, slot[i]? = canonicalByte bytes i) ∧
    (∀ a b : Bytes, 384 ≤ a.length → 384 ≤ b.length → (∀ i, ¬ IsIgnored i → a[i]? = b[i]?) →
      decodeRequest a = decodeRequest b) ∧
    ∀ (a b : Bytes) (r s : CaptureRequest), decodeRequest a = .ok r → decodeRequest b = .ok s →
      (r = s ↔ ∀ i < 384, canonicalByte a i = canonicalByte b i) := by
  refine ⟨fun bytes slot r config hd he => ?_, fun a b ha hb h => decodeRequest_congr ha hb h,
    fun a b r s ha hb => eq_iff_canonicalByte ha hb⟩
  obtain ⟨-, rfl⟩ := encodeFor_eq_ok.mp he
  refine ⟨r.length_slotBytes config.descriptor_le, fun i hi => ?_⟩
  have hsize := length_write r.words
  rw [slotBytes]
  by_cases hrecord : i < 384
  · rw [List.getElem?_append_left (by omega), getElem?_write_of_decodeRequest hd hrecord]
  · have hignored : IsIgnored i := by
      unfold IsIgnored
      omega
    rw [List.getElem?_append_right (by omega), hsize, size_codec, Bytes.zeros,
      List.getElem?_replicate_of_lt (by omega), canonicalByte, if_pos (.inl hignored)]

/-- A request that has one region compared. -/
def markedRequest : CaptureRequest :=
  { wideRequest with
    pfsd := some { pattern := 0x123, expected := [{ offset := 16, length := 255 }] } }

/--
Its descriptor with bytes in the pre-fences, the padding, the region that is not counted, the status
and the end, and with another number for true.
-/
def scribbledRecord : Bytes :=
  [(12, 1), (87, 2), (118, 3), (119, 4), (143, 5), (159, 6), (220, 7), (252, 8), (263, 9),
    (272, 10), (344, 11), (383, 12)].foldl (fun bytes p => bytes.overwrite p.1 [p.2])
    (markedRequest.slotBytes 384)

/-- Such a descriptor is read, whatever its status, and written without what is ignored. -/
theorem decode_encode_canonical_scribbled :
    ∃ slot, decodeRequest scribbledRecord = .ok markedRequest ∧
      markedRequest.encodeFor wideChannel = .ok slot ∧ slot.length = 448 ∧
      slot[118]? = some 1 ∧ slot[252]? = some 0 ∧ slot[272]? = some 0 ∧
      decodeRequest (scribbledRecord.overwrite 272 (Bytes.zeros 56)) = .ok markedRequest ∧
      ∀ i < 384, canonicalByte scribbledRecord i =
        canonicalByte (scribbledRecord.overwrite 272 (Bytes.zeros 56)) i := by
  obtain ⟨hcanonical, hcongr, hexact⟩ := decode_encode_canonical
  have hd : decodeRequest scribbledRecord = .ok markedRequest := rfl
  have he : markedRequest.encodeFor wideChannel = .ok (markedRequest.slotBytes 448) :=
    encodeFor_eq_ok.mpr ⟨by decide, rfl⟩
  obtain ⟨hlen, hbytes⟩ := hcanonical _ _ _ _ hd he
  have hsize : scribbledRecord.length = 384 := by decide +kernel
  have hfits : 272 + (Bytes.zeros 56).length ≤ scribbledRecord.length := by
    rw [hsize, Bytes.length_zeros]
    decide
  have hlength := (Bytes.length_overwrite hfits).trans hsize
  have hstatus : decodeRequest (scribbledRecord.overwrite 272 (Bytes.zeros 56)) =
      .ok markedRequest := by
    rw [← hd]
    refine hcongr _ _ (Nat.le_of_eq hlength.symm) (Nat.le_of_eq hsize.symm) fun i hi => ?_
    rw [Bytes.getElem?_overwrite hfits, if_neg]
    rw [Bytes.length_zeros]
    unfold IsIgnored at hi
    omega
  refine ⟨_, hd, he, hlen, ?_, ?_, ?_, hstatus, (hexact _ _ _ _ hd hstatus).mp rfl⟩
  · rw [hbytes 118 (by decide)]
    decide +kernel
  · rw [hbytes 252 (by decide)]
    decide +kernel
  · rw [hbytes 272 (by decide)]
    decide +kernel

end CaptureProtocol.CaptureRequest
