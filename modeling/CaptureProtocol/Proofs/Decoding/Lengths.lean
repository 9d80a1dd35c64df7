import CaptureProtocol.Proofs.Isp.Refusal
import CaptureProtocol.Proofs.Request.Status

/-!
# How many bytes are asked for

A check asks for the bytes that are read behind it, not for the whole record that these belong to.
The check of a program's header asks for the six bytes of magic number and version, although the
front of a program has eight. Reading or writing the status of a slot asks for the bytes up to the
end of the status, although a slot holds a whole descriptor, which is what reading a request asks
for.

* `RefusedBelow`: bytes below a length are refused as too few.
* `refusedBelow_iff`: what needs fewer bytes than that lets the lengths between the two pass.
* `lengths_asked_for`: **the lengths at which an operation does not miss the rest of a front or of a
  descriptor**, and the lengths from which on it finds its bytes.
* `short_slot_accepted`: six bytes of a program and a slot of 328 bytes.
-/

set_option autoImplicit false

namespace CaptureProtocol

variable {α : Type}

/-- Fewer than `size` bytes are refused as too few. -/
def RefusedBelow (size : Nat) (bytes : Bytes) (result : Except CaptureError α) : Prop :=
  bytes.length < size → Misfits result

theorem refusedBelow_iff {bytes : Bytes} {result : Except CaptureError α} {need size : Nat}
    (h : Misfits result ↔ bytes.length < need) :
    RefusedBelow size bytes result ↔ ¬ (need ≤ bytes.length ∧ bytes.length < size) := by
  rw [RefusedBelow, h]
  omega

/-- A program that ends before its header is whole is too short, unless its version is wrong. -/
theorem IspProgram.misfits_decode_iff {bytes : Bytes} (h : bytes.length < 128) :
    Misfits (decode bytes) ↔ bytes.length < 6 ∨ HasHead bytes := by
  by_cases hshort : bytes.length < 6
  · exact iff_of_true ⟨_, _, _, decode_of_short_head hshort⟩ (.inl hshort)
  · have hlen : 6 ≤ bytes.length := Nat.le_of_not_lt hshort
    rw [or_iff_right hshort]
    obtain ⟨hhead, hcheck⟩ | ⟨hhead, -⟩ := checkHeader_cases hlen
    · exact iff_of_true ⟨_, _, _, decode_of_short_body hcheck h⟩ hhead
    · rw [decode_of_version hlen hhead]
      refine iff_of_false ?_ hhead
      rintro ⟨_, _, _, herror⟩
      cases herror

/-- A status is written into every slot that reaches to the end of the status. -/
theorem writeStatus_eq (slot : Bytes) (status : CaptureStatus) :
    writeStatus slot status =
      if 328 ≤ slot.length then .ok (slot.overwrite 272 status.encode)
      else .error (.layoutMismatch "capture_descriptor" 328 slot.length) := rfl

theorem misfits_writeStatus_iff {slot : Bytes} {status : CaptureStatus} :
    Misfits (writeStatus slot status) ↔ slot.length < 328 := by
  rw [writeStatus_eq]
  split
  · next h =>
    refine iff_of_false ?_ (Nat.not_lt_of_le h)
    rintro ⟨_, _, _, herror⟩
    cases herror
  · next h => exact iff_of_true ⟨_, _, _, rfl⟩ (Nat.lt_of_not_le h)

/--
**The lengths that are asked for.** Fewer than the eight bytes of a program's front are refused as
too few by the check of the header, except when there are six or seven of them; reading the program
refuses these as too few after all, except when their version is wrong. Fewer than the 384 bytes of
a descriptor are refused as too few when a status is read or written, except when there are at least
328; at these lengths, and at no others, reading a status and reading a request disagree about the
slot. For the header needs exactly six bytes, a status 328 and a request 384, and nothing is written
into a slot that is refused.
-/
theorem lengths_asked_for (bytes slot : Bytes) (status : CaptureStatus) :
    (RefusedBelow 8 bytes (IspProgram.checkHeader bytes) ↔
      ¬ (6 ≤ bytes.length ∧ bytes.length < 8)) ∧
    (RefusedBelow 8 bytes (IspProgram.decode bytes) ↔
      ¬ (6 ≤ bytes.length ∧ bytes.length < 8) ∨ IspProgram.HasHead bytes) ∧
    (RefusedBelow 384 slot (decodeStatus slot) ↔ ¬ (328 ≤ slot.length ∧ slot.length < 384)) ∧
    (RefusedBelow 384 slot (writeStatus slot status) ↔
      ¬ (328 ≤ slot.length ∧ slot.length < 384)) ∧
    ((Misfits (decodeStatus slot) ↔ Misfits (decodeRequest slot)) ↔
      ¬ (328 ≤ slot.length ∧ slot.length < 384)) ∧
    NeedsExactly IspProgram.checkHeader "isp5_program" 6 ∧
    NeedsExactly decodeStatus "capture_descriptor" 328 ∧
    NeedsExactly decodeRequest "capture_descriptor" 384 ∧
    writeStatus slot status =
      if 328 ≤ slot.length then .ok (slot.overwrite 272 status.encode)
      else .error (.layoutMismatch "capture_descriptor" 328 slot.length) := by
  have hhead := IspProgram.needsExactly_checkHeader
  have hstatus := needsExactly_decodeStatus
  have hrequest := needsExactly_decodeRequest
  refine ⟨refusedBelow_iff (hhead.misfits_iff bytes), ?_,
    refusedBelow_iff (hstatus.misfits_iff slot), refusedBelow_iff misfits_writeStatus_iff, ?_,
    hhead, hstatus, hrequest, writeStatus_eq slot status⟩
  · by_cases hlen : bytes.length < 8
    · rw [RefusedBelow, imp_iff_right hlen, IspProgram.misfits_decode_iff (by omega)]
      exact or_congr_left (by omega)
    · refine iff_of_true (fun h => absurd h hlen) (.inl ?_)
      omega
  · rw [hstatus.misfits_iff, hrequest.misfits_iff]
    omega

/--
Six bytes pass as the header of a program, and of another version they are not too short for one.
A slot of 328 bytes has a status to be read and to be written, and is too short for a request.
-/
theorem short_slot_accepted :
    IspProgram.checkHeader [0x49, 0x53, 0x50, 0x50, 3, 0] = .ok () ∧
      IspProgram.decode [0x49, 0x53, 0x50, 0x50, 4, 0] =
        .error (.unsupportedVersion "isp5_program" 0x50505349 4 0x50505349 3) ∧
      decodeStatus (Bytes.zeros 328) = .ok {} ∧
      writeStatus (Bytes.zeros 328) { stream := 1 } =
        .ok (Bytes.zeros 272 ++ (1 :: Bytes.zeros 55)) ∧
      decodeRequest (Bytes.zeros 328) =
        .error (.layoutMismatch "capture_descriptor" 384 328) := by
  have hlen := Bytes.length_zeros 328
  have hrequest := needsExactly_decodeRequest.short (Bytes.zeros 328) (by omega)
  rw [hlen] at hrequest
  refine ⟨rfl, rfl, by decide +kernel, ?_, hrequest⟩
  rw [writeStatus_eq, if_pos hlen.ge]
  decide +kernel

end CaptureProtocol
