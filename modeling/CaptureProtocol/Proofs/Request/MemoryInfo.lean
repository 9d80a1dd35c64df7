import CaptureProtocol.Proofs.Record.Field
import CaptureProtocol.Request.MemoryInfo

/-!
# Memory information and its record

The size of the engine status surface has 64 bits, and 32 in the record. A rule keeps it from being
cut off, so memory information that has a record is read back from it. In the other direction, the
bytes of a record that are not reserved are the memory information that is read from them.

* `LegalSurface`: what is asked of the numbers of a surface.
* `MemoryInfo.accepted_iff`: memory information keeps the rules exactly when it is `Acceptable`.
* `MemoryInfo.exists_decode_iff`: bytes are accepted exactly when they are a `LegalRecord`.
* `MemoryInfo.record_of_surfaces`: **memory information has a record exactly when it is acceptable,
  and is read back from it; what is read from a record is written as the record, with zeros for the
  reserved bytes**.
-/

set_option autoImplicit false

namespace CaptureProtocol

/-- What is asked of a surface of `size` bytes at `base`. -/
structure LegalSurface (base size : Nat) : Prop where
  base_aligned : 16 ∣ base
  size_aligned : 16 ∣ size
  base_ne : size ≠ 0 → base ≠ 0

/-- A surface that is used has room for an engine status. -/
theorem LegalSurface.room {base size : Nat} (h : LegalSurface base size) :
    size = 0 ∨ 16 ≤ size := by
  obtain ⟨n, rfl⟩ := h.size_aligned
  omega

namespace Surface

/-- What is asked of a surface. -/
def Legal (s : Surface) : Prop := LegalSurface s.base.toNat s.size.toNat

theorem accepted_iff {field : String} {s : Surface} : Rule.Accepted (s.rules field) ↔ s.Legal := by
  rw [rules, Rule.accepted_surface]
  constructor
  · rintro ⟨hbase, hsize, hne⟩
    exact ⟨hbase, hsize, hne⟩
  · rintro ⟨hbase, hsize, hne⟩
    exact ⟨hbase, hsize, hne⟩

/-- A surface that was read is legal exactly when the numbers at its place are. -/
theorem legal_at {record : String} {offset : Nat} {bytes : Bytes} {s : Surface}
    (h : codec.decodeAt record offset bytes = .ok s) :
    s.Legal ↔ LegalSurface (bytes.numberAt offset 8) (bytes.numberAt (offset + 8) 8) := by
  simp only [codec, Codec.decodeAt_iso_eq_ok, Codec.decodeAt_pair_eq_ok] at h
  obtain ⟨hbase, hsize⟩ := h
  rw [Legal, Codec.toNat_of_decodeAt_u64 hbase, Codec.toNat_of_decodeAt_u64 hsize]
  rfl

end Surface

namespace MemoryInfo

/-! ## Acceptance -/

/-- What is asked of memory information. -/
structure Acceptable (info : MemoryInfo) : Prop where
  surfaces : ∀ s ∈ info.surfaces.toList, s.Legal
  engineStatus : info.engineStatus.Legal
  engineStatus_fits : info.engineStatus.size.toNat < 2 ^ 32
  watermark : info.watermark.Legal

theorem engineStatusRule_holds {size : UInt64} :
    (engineStatusRule size).holds = true ↔ size.toNat = 0 ∨ 16 ≤ size.toNat := by
  rw [engineStatusRule, Bool.or_eq_true, beq_iff_eq, decide_eq_true_iff, ← UInt64.toNat_inj,
    UInt64.le_iff_toNat_le]
  rfl

/-- Each of the surfaces has a name to be reported under. -/
theorem accepted_surfaces {surfaces : Vector Surface Layout.outputSurfaces} :
    Rule.Accepted ((surfaceFields.toList.zip surfaces.toList).flatMap fun p => p.2.rules p.1) ↔
      ∀ s ∈ surfaces.toList, s.Legal := by
  have hall : (surfaceFields.toList.zip surfaces.toList).map Prod.snd = surfaces.toList :=
    List.map_snd_zip (by rw [Vector.length_toList, Vector.length_toList])
  calc Rule.Accepted ((surfaceFields.toList.zip surfaces.toList).flatMap fun p => p.2.rules p.1)
      ↔ ∀ p ∈ surfaceFields.toList.zip surfaces.toList, p.2.Legal := by
        simp only [Rule.accepted_flatMap, Surface.accepted_iff]
    _ ↔ ∀ s ∈ (surfaceFields.toList.zip surfaces.toList).map Prod.snd, s.Legal :=
        List.forall_mem_map.symm
    _ ↔ ∀ s ∈ surfaces.toList, s.Legal := by rw [hall]

/-- The rules ask that memory information be acceptable, and nothing more. -/
theorem accepted_iff {info : MemoryInfo} : Rule.Accepted info.rules ↔ info.Acceptable := by
  have hmax : maxEngineStatusBytes.toNat = 2 ^ 32 - 1 := rfl
  simp only [rules, Rule.accepted_append, Rule.accepted_cons, accepted_surfaces,
    Surface.accepted_iff, engineStatusRule_holds, Rule.atMost_holds, Rule.accepted_nil, and_true]
  constructor
  · rintro ⟨⟨⟨hsurfaces, hengine⟩, -, hfits⟩, hmark⟩
    exact ⟨hsurfaces, hengine, by omega, hmark⟩
  · rintro ⟨hsurfaces, hengine, hfits, hmark⟩
    -- What is aligned and not empty is large enough.
    exact ⟨⟨⟨hsurfaces, hengine⟩, LegalSurface.room hengine, by omega⟩, hmark⟩

theorem validate_eq_ok {info : MemoryInfo} : info.validate = .ok () ↔ info.Acceptable := by
  rw [← accepted_iff, validate, Rule.enforce_eq_ok, exists_prop, and_iff_left rfl]

theorem encode_eq_ok {info : MemoryInfo} {record : Bytes} :
    info.encode = .ok record ↔ info.Acceptable ∧ info.bytes = record := by
  rw [← validate_eq_ok, encode_eq]
  cases info.validate <;> simp [CaptureError.ofRule, Except.map]

/-! ## Records -/

theorem words_of_ofWords (w : Words) : (ofWords w).words = w := by
  obtain ⟨surfaces, base, size, watermark⟩ := w
  simp [ofWords, words]

/-- What is read from a record has these words and is acceptable. -/
theorem decode_eq_ok {bytes : Bytes} {info : MemoryInfo} :
    decode bytes = .ok info ↔
      codec.decode "capture_descriptor_memoryinfo" bytes = .ok info.words ∧ info.Acceptable := by
  rw [← accepted_iff, decode, CaptureError.bind_eq_ok]
  constructor
  · rintro ⟨w, hw, h⟩
    obtain ⟨haccepted, rfl⟩ := Rule.enforce_eq_ok.mp (CaptureError.ofRule_eq_ok.mp h)
    rw [words_of_ofWords]
    exact ⟨hw, haccepted⟩
  · rintro ⟨hw, h⟩
    refine ⟨_, hw, CaptureError.ofRule_eq_ok.mpr ?_⟩
    rw [ofWords_words (engineStatus_size_le h)]
    exact Rule.enforce_of_accepted _ h

/-- What is asked of the bytes of a record. -/
structure LegalRecord (record : Bytes) : Prop where
  length_le : 128 ≤ record.length
  surfaces : ∀ k < 4, LegalSurface (record.numberAt (16 * k) 8) (record.numberAt (16 * k + 8) 8)
  engineStatus : LegalSurface (record.numberAt 64 8) (record.numberAt 72 4)
  watermark : LegalSurface (record.numberAt 80 8) (record.numberAt 88 8)

/-- The output surfaces stand one after another at the front of a record. -/
theorem surfaces_legal_iff {record : String} {bytes : Bytes}
    {surfaces : Vector Surface Layout.outputSurfaces}
    (h : (Surface.codec.array _).decodeAt record 0 bytes = .ok surfaces) :
    (∀ s ∈ surfaces.toList, s.Legal) ↔
      ∀ k < 4, LegalSurface (bytes.numberAt (16 * k) 8) (bytes.numberAt (16 * k + 8) 8) := by
  have heach : ∀ k, (hk : k < Layout.outputSurfaces) → (surfaces[k].Legal ↔
      LegalSurface (bytes.numberAt (16 * k) 8) (bytes.numberAt (16 * k + 8) 8)) := by
    intro k hk
    have hsurface := Surface.legal_at (Codec.decodeAt_array h k hk)
    rwa [Surface.size_codec, Nat.zero_add, Nat.mul_comm] at hsurface
  constructor
  · intro hall k hk
    exact (heach k hk).mp (hall _ (Vector.mem_toList_iff.mpr (Vector.getElem_mem hk)))
  · intro hall s hs
    obtain ⟨k, hk, rfl⟩ := Vector.getElem_of_mem (Vector.mem_toList_iff.mp hs)
    exact (heach k hk).mpr (hall k hk)

/-- The words that are read are acceptable exactly when the record is legal. -/
theorem acceptable_ofWords_iff {bytes : Bytes} {w : Words}
    (h : codec.decode "capture_descriptor_memoryinfo" bytes = .ok w) :
    (ofWords w).Acceptable ↔ LegalRecord bytes := by
  obtain ⟨hlen, -⟩ := Codec.decodeAt_eq_ok h
  rw [size_codec] at hlen
  obtain ⟨surfaces, base, size, watermark⟩ := w
  simp only [Codec.decode, codec, Codec.decodeAt_pair_eq_ok, Codec.decodeAt_gap_eq_ok,
    Codec.size_gap, Codec.size_u32, Codec.size_u64, Codec.size_array, Surface.size_codec,
    show Layout.outputSurfaces * 16 = 64 from rfl, Nat.reduceAdd] at h
  obtain ⟨hsurfaces, hbase, ⟨hsize, -⟩, hmark, -⟩ := h
  have houtput := surfaces_legal_iff hsurfaces
  have hwatermark := Surface.legal_at hmark
  have hengine : (⟨base, size.toUInt64⟩ : Surface).Legal ↔
      LegalSurface (bytes.numberAt 64 8) (bytes.numberAt 72 4) := by
    rw [Surface.Legal, UInt32.toNat_toUInt64, Codec.toNat_of_decodeAt_u64 hbase,
      Codec.toNat_of_decodeAt_u32 hsize]
  have hnarrow : size.toUInt64.toNat < 2 ^ 32 := by
    rw [UInt32.toNat_toUInt64]
    exact size.toNat_lt
  constructor
  · rintro ⟨hall, hstatus, -, hlegal⟩
    exact ⟨hlen, houtput.mp hall, hengine.mp hstatus, hwatermark.mp hlegal⟩
  · rintro ⟨-, hall, hstatus, hlegal⟩
    exact ⟨houtput.mpr hall, hengine.mpr hstatus, hnarrow, hwatermark.mpr hlegal⟩

/-- **A record is accepted exactly when the numbers at their places are legal.** -/
theorem exists_decode_iff (bytes : Bytes) :
    (∃ info, decode bytes = .ok info) ↔ LegalRecord bytes := by
  constructor
  · rintro ⟨info, h⟩
    obtain ⟨hw, hacceptable⟩ := decode_eq_ok.mp h
    rw [← ofWords_words (engineStatus_size_le (accepted_iff.mpr hacceptable))] at hacceptable
    exact (acceptable_ofWords_iff hw).mp hacceptable
  · intro hlegal
    obtain ⟨w, hw⟩ :=
      codec.exists_decode "capture_descriptor_memoryinfo" size_codec hlegal.length_le
    refine ⟨ofWords w, decode_eq_ok.mpr ⟨?_, (acceptable_ofWords_iff hw).mpr hlegal⟩⟩
    rw [words_of_ofWords]
    exact hw

/-! ## What was read -/

/-- The bytes that are ignored when a record is read: above the narrow size, and its end. -/
def IsReserved (i : Nat) : Prop := 76 ≤ i ∧ i < 80 ∨ 96 ≤ i ∧ i < 128

instance (i : Nat) : Decidable (IsReserved i) :=
  inferInstanceAs (Decidable (_ ∨ _))

theorem uses_eq :
    codec.uses = (List.range 128).map fun i => if IsReserved i then .reserved else .data := by
  decide +kernel

/-- Memory information that was read is written as its record, without what is ignored. -/
theorem getElem?_bytes_of_decode {bytes : Bytes} {info : MemoryInfo} (h : decode bytes = .ok info)
    {i : Nat} (hi : i < 128) : info.bytes[i]? = if IsReserved i then some 0 else bytes[i]? := by
  obtain ⟨hw, -⟩ := decode_eq_ok.mp h
  refine Codec.getElem?_write_of_decode hw ?_
  rw [uses_eq, List.getElem?_map, List.getElem?_range hi]
  rfl

/--
**Memory information and its record.** Memory information can be encoded exactly when it is
`Acceptable`. Then its record has 128 bytes, and it is read back whole from the record, whatever
follows. Bytes are read as memory information exactly when they are a `LegalRecord`, and what was
read is encoded as the record that it was read from, with zeros for the bytes that are reserved.
-/
theorem record_of_surfaces :
    (∀ info : MemoryInfo, ((∃ record, info.encode = .ok record) ↔ info.Acceptable) ∧
      ∀ record, info.encode = .ok record → record.length = 128 ∧
        ∀ rest, decode (record ++ rest) = .ok info) ∧
    ∀ bytes : Bytes, ((∃ info, decode bytes = .ok info) ↔ LegalRecord bytes) ∧
      ∀ info, decode bytes = .ok info → ∃ record, info.encode = .ok record ∧
        record.length = 128 ∧
        ∀ i < 128, record[i]? = if IsReserved i then some 0 else bytes[i]? := by
  refine ⟨fun info => ⟨?_, fun record h => ?_⟩, fun bytes => ⟨exists_decode_iff bytes, ?_⟩⟩
  · simp only [encode_eq_ok, exists_and_left, exists_eq', and_true]
  · obtain ⟨hacceptable, rfl⟩ := encode_eq_ok.mp h
    exact ⟨info.length_bytes, decode_bytes_append (accepted_iff.mpr hacceptable)⟩
  · intro info h
    exact ⟨info.bytes, encode_eq_ok.mpr ⟨(decode_eq_ok.mp h).2, rfl⟩, info.length_bytes,
      fun i hi => getElem?_bytes_of_decode h hi⟩

/-- Surfaces at the upper ends of their ranges. -/
def widestSurfaces : MemoryInfo where
  surfaces := Vector.replicate _ ⟨0xFFFFFFFFFFFFFFF0, 0xFFFFFFFFFFFFFFF0⟩
  engineStatus := ⟨0xFFFFFFFFFFFFFFF0, 0xFFFFFFF0⟩
  watermark := ⟨0xFFFFFFFFFFFFFFF0, 0⟩

/-- Their record with something in the reserved bytes above the narrow size. -/
def scribbledRecord : Bytes := widestSurfaces.bytes.overwrite 76 [1, 2, 3, 4]

/--
The widest surfaces are read back, from a scribbled record as well, and written without the
scribbles. An engine status surface of 2³² bytes, whose size would be cut off to zero, has no
record.
-/
theorem record_of_surfaces_widest :
    ∃ record, widestSurfaces.encode = .ok record ∧ decode record = .ok widestSurfaces ∧
      decode scribbledRecord = .ok widestSurfaces ∧ record[76]? = some 0 ∧
      ¬ ∃ other, { widestSurfaces with engineStatus.size := 0x100000000 }.encode = .ok other := by
  obtain ⟨hencode, hdecode⟩ := record_of_surfaces
  have hscribbled : decode scribbledRecord = .ok widestSurfaces := rfl
  obtain ⟨record, hrecord, -, hbytes⟩ := (hdecode scribbledRecord).2 _ hscribbled
  have hback := ((hencode widestSurfaces).2 record hrecord).2 []
  rw [List.append_nil] at hback
  refine ⟨record, hrecord, hback, hscribbled, hbytes 76 (by decide), fun h => ?_⟩
  exact absurd ((hencode _).1.mp h).engineStatus_fits (by decide)

end MemoryInfo

end CaptureProtocol
