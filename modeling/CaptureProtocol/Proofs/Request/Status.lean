import CaptureProtocol.Proofs.Decoding.Decoders
import CaptureProtocol.Proofs.Request.Canonical

/-!
# The status in a slot

The coprocessor writes the status into bytes 272 to 328 of a slot, and the host reads it there. All
of these bytes count, so what is read and what stands there determine each other. The host's part of
the slot is around them.

* `decodeStatus_eq_ok_iff`: a status is read exactly where its record stands.
* `decodeStatus_eq_invalid_iff`: a code that is refused is a number above 16 at bytes 276 to 280.
* `StatusWritten`: what a slot is after a status was written into it.
* `status_write_read`: **a written status is read back and leaves the request alone, and a status
  that was read and is written again changes nothing**.
-/

set_option autoImplicit false

namespace CaptureProtocol

/-- All bytes of a status count. -/
theorem CaptureStatus.uses_codec : codec.uses = List.replicate codec.size .data := rfl

/-- **A status is read exactly where its record stands.** -/
theorem decodeStatus_eq_ok_iff {slot : Bytes} {status : CaptureStatus} :
    decodeStatus slot = .ok status ↔ slot.slice statusOffset 56 = status.encode := by
  constructor
  · intro h
    obtain ⟨w, hw, hstatus⟩ := CaptureError.bind_eq_ok.mp h
    rw [CaptureStatus.encode, CaptureStatus.words_of_ofWords hstatus,
      Codec.write_of_decodeAt CaptureStatus.uses_codec hw, CaptureStatus.size_codec]
  · intro h
    exact CaptureError.bind_eq_ok.mpr
      ⟨_, Codec.decodeAt_of_slice h, CaptureStatus.ofWords_words status⟩

/-- A slot that a status was read from is long enough for it. -/
theorem status_fits_of_decode {slot : Bytes} {status : CaptureStatus}
    (h : decodeStatus slot = .ok status) : statusOffset + 56 ≤ slot.length := by
  have hlen := congrArg List.length (decodeStatus_eq_ok_iff.mp h)
  rw [Bytes.length_slice, status.length_encode] at hlen
  omega

theorem writeStatus_eq_ok {slot : Bytes} (h : statusOffset + 56 ≤ slot.length)
    (status : CaptureStatus) :
    writeStatus slot status = .ok (slot.overwrite statusOffset status.encode) :=
  if_pos h

/-! ## Codes that are refused -/

/-- The code stands behind the stream, the virtual channel and the frame. -/
theorem CaptureStatus.decodeAt_code {record : String} {offset : Nat} {bytes : Bytes} {w : Words}
    (h : codec.decodeAt record offset bytes = .ok w) :
    Codec.u32.decodeAt record (offset + 4) bytes = .ok w.2.2.2.1 := by
  obtain ⟨stream, channel, frame, code, rest⟩ := w
  simp only [codec, Codec.decodeAt_pair_eq_ok] at h
  obtain ⟨-, -, -, hcode, -⟩ := h
  exact hcode

/-- Where there is room for a status, the number of its code decides what is read. -/
theorem decodeStatus_cases {slot : Bytes} (h : statusOffset + 56 ≤ slot.length) :
    (slot.numberAt 276 4 ≤ 16 ∧ ∃ status, decodeStatus slot = .ok status) ∨
      16 < slot.numberAt 276 4 ∧ ∃ raw : UInt32, raw.toNat = slot.numberAt 276 4 ∧
        decodeStatus slot = .error (.invalidStatusCode "capture_status" raw) := by
  obtain ⟨w, hw⟩ :=
    CaptureStatus.codec.exists_decodeAt descriptorRecord CaptureStatus.size_codec h
  have hcode : w.2.2.2.1.toNat = slot.numberAt 276 4 :=
    Codec.toNat_of_decodeAt_u32 (CaptureStatus.decodeAt_code hw)
  have hread : decodeStatus slot = CaptureStatus.ofWords w := by
    rw [decodeStatus, hw]
    rfl
  obtain ⟨stream, channel, frame, code, rest⟩ := w
  rw [hread, ← hcode]
  cases hknown : StatusCode.ofRaw? code with
  | none =>
    refine .inr ⟨StatusCode.ofRaw?_eq_none_iff.mp hknown, code, rfl, ?_⟩
    simp only [CaptureStatus.ofWords, hknown]
  | some known =>
    have hle := known.raw_le
    rw [StatusCode.raw_of_ofRaw? hknown] at hle
    refine .inl ⟨hle, ⟨stream, channel, frame, known, rest.1, rest.2.1, rest.2.2.1, rest.2.2.2.1,
      rest.2.2.2.2.1, rest.2.2.2.2.2⟩, ?_⟩
    simp only [CaptureStatus.ofWords, hknown]

theorem exists_decodeStatus_iff {slot : Bytes} (h : statusOffset + 56 ≤ slot.length) :
    (∃ status, decodeStatus slot = .ok status) ↔ slot.numberAt 276 4 ≤ 16 := by
  rcases decodeStatus_cases h with ⟨hle, hstatus⟩ | ⟨hlt, raw, -, herror⟩
  · exact iff_of_true hstatus hle
  · simp only [herror, reduceCtorEq, exists_false, false_iff]
    omega

/-- **A code that is refused is a number above 16.** -/
theorem decodeStatus_eq_invalid_iff {slot : Bytes} {record : String} {raw : UInt32} :
    decodeStatus slot = .error (.invalidStatusCode record raw) ↔
      328 ≤ slot.length ∧ 16 < slot.numberAt 276 4 ∧ record = "capture_status" ∧
        raw.toNat = slot.numberAt 276 4 := by
  by_cases hroom : statusOffset + 56 ≤ slot.length
  · rcases decodeStatus_cases hroom with ⟨hle, status, hstatus⟩ | ⟨hlt, found, hfound, herror⟩
    · simp only [hstatus, reduceCtorEq, false_iff]
      omega
    · rw [herror, ← hfound, UInt32.toNat_inj]
      simp only [Except.error.injEq, CaptureError.invalidStatusCode.injEq]
      constructor
      · rintro ⟨rfl, rfl⟩
        exact ⟨hroom, hfound ▸ hlt, rfl, rfl⟩
      · rintro ⟨-, -, rfl, rfl⟩
        exact ⟨rfl, rfl⟩
  · rw [needsExactly_decodeStatus.short slot (Nat.lt_of_not_le hroom)]
    simp only [Except.error.injEq, reduceCtorEq, false_iff]
    rintro ⟨hlen, -⟩
    exact hroom hlen

/-! ## Writing and reading -/

/-- What a slot is after a status was written into it. -/
structure StatusWritten (slot : Bytes) (status : CaptureStatus) (written : Bytes) : Prop where
  length_eq : written.length = slot.length
  status : decodeStatus written = .ok status
  /-- What stands around the status stays. -/
  outside : ∀ i, i < 272 ∨ 328 ≤ i → written[i]? = slot[i]?
  request : decodeRequest written = decodeRequest slot
  sequence : storedSequence written = storedSequence slot

theorem statusWritten_overwrite {slot : Bytes} (h : 384 ≤ slot.length) (status : CaptureStatus) :
    StatusWritten slot status (slot.overwrite statusOffset status.encode) := by
  have hsize := status.length_encode
  have hoffset : statusOffset = 272 := rfl
  have hfits : statusOffset + status.encode.length ≤ slot.length := by omega
  have hlength := Bytes.length_overwrite hfits
  have houtside : ∀ i, i < 272 ∨ 328 ≤ i →
      (slot.overwrite statusOffset status.encode)[i]? = slot[i]? := by
    intro i hi
    rw [Bytes.getElem?_overwrite hfits, if_neg (by omega)]
  refine ⟨hlength, decodeStatus_overwrite (by omega) status, houtside, ?_,
    storedSequence_overwrite (by omega) status⟩
  refine CaptureRequest.decodeRequest_congr (by omega) h fun i hi => houtside i ?_
  unfold CaptureRequest.IsIgnored at hi
  omega

/-- A status that was read is written as it stands there. -/
theorem writeStatus_of_decodeStatus {slot : Bytes} {status : CaptureStatus}
    (h : decodeStatus slot = .ok status) : writeStatus slot status = .ok slot := by
  have hfits := status_fits_of_decode h
  rw [writeStatus_eq_ok hfits, ← decodeStatus_eq_ok_iff.mp h, Bytes.overwrite_slice hfits]

/--
**Statuses through a slot.** Whatever the status, it is written into every slot that holds a
descriptor; then it is read back, nothing around it has changed, and the slot has the same request
and the same sequence number. A status that was read from any slot and is written into it again
leaves every byte of it as it was. And a slot that holds a descriptor has a status exactly if the
number at bytes 276 to 280 is at most 16; a slot is refused for its status code exactly if there is
room for a status and this number is above 16, and the number is reported.
-/
theorem status_write_read :
    (∀ (slot : Bytes) (status : CaptureStatus), 384 ≤ slot.length →
      ∃ written, writeStatus slot status = .ok written ∧ StatusWritten slot status written) ∧
    (∀ (slot : Bytes) (status : CaptureStatus), decodeStatus slot = .ok status →
      writeStatus slot status = .ok slot) ∧
    (∀ slot : Bytes, 384 ≤ slot.length →
      ((∃ status, decodeStatus slot = .ok status) ↔ slot.numberAt 276 4 ≤ 16)) ∧
    ∀ (slot : Bytes) (record : String) (raw : UInt32),
      decodeStatus slot = .error (.invalidStatusCode record raw) ↔
        328 ≤ slot.length ∧ 16 < slot.numberAt 276 4 ∧ record = "capture_status" ∧
          raw.toNat = slot.numberAt 276 4 := by
  have hoffset : statusOffset = 272 := rfl
  refine ⟨fun slot status h => ?_, fun slot status => writeStatus_of_decodeStatus,
    fun slot h => exists_decodeStatus_iff (by omega),
    fun slot record raw => decodeStatus_eq_invalid_iff⟩
  exact ⟨_, writeStatus_eq_ok (by omega) status, statusWritten_overwrite h status⟩

/-- The status of a capture that was refused, with every bit of the other fields set. -/
def refusedCapture : CaptureStatus where
  stream := 0xFF
  virtualChannel := 0xFF
  frameId := 0xFFFF
  code := .invalidCapSettings
  startTime := 0xFFFFFFFFFFFFFFFF
  endTime := 0xFFFFFFFFFFFFFFFF
  errorData := 0xFFFFFFFF
  flags := ⟨0xFFFFFFFF⟩
  notifyBits := 0xFFFFFFFFFFFFFFFF
  receiver := ⟨0xFFFFFFFF, 0xFFFFFFFF, 0xFFFFFFFF, 0xFFFFFFFF⟩

/-- A descriptor with status code 17 is refused until a status is written over it. -/
theorem status_write_read_scribbled :
    ∃ slot written : Bytes, slot = CaptureRequest.scribbledRecord.overwrite 276 [17] ∧
      decodeStatus slot = .error (.invalidStatusCode "capture_status" 17) ∧
      writeStatus slot refusedCapture = .ok written ∧
      decodeStatus written = .ok refusedCapture ∧
      decodeRequest written = .ok CaptureRequest.markedRequest ∧
      writeStatus written refusedCapture = .ok written := by
  obtain ⟨hwrite, hagain, hknown, hinvalid⟩ := status_write_read
  have hlen : (CaptureRequest.scribbledRecord.overwrite 276 [17]).length = 384 := by
    decide +kernel
  have hnumber : (CaptureRequest.scribbledRecord.overwrite 276 [17]).numberAt 276 4 = 17 := by
    decide +kernel
  obtain ⟨written, hw, h⟩ := hwrite _ refusedCapture hlen.ge
  have hrequest := h.request
  rw [show decodeRequest (CaptureRequest.scribbledRecord.overwrite 276 [17]) =
    .ok CaptureRequest.markedRequest from rfl] at hrequest
  exact ⟨_, written, rfl,
    (hinvalid _ _ _).mpr ⟨by omega, by omega, rfl, hnumber.symm⟩, hw, h.status, hrequest,
    hagain _ _ h.status⟩

end CaptureProtocol
