import CaptureProtocol.Request.Descriptor

/-!
# What a request slot says

The host reads two things back out of a slot: the sequence number at its front and the status in its
middle. `Reports slot sequence status` says that a slot gives these two.

* `reports_slotBytes`: **the slot of a new request reports that nothing has happened yet**, whatever
  the memory held before.
* `Reports.overwrite`: a status that is written into a slot is the one that it reports from then on,
  for the same request.
-/

set_option autoImplicit false

namespace CaptureProtocol

namespace CaptureRequest

/-- A descriptor begins with the sequence number of its request. -/
theorem codec_write_front (words : Words) :
    ∃ rest, codec.write words = Codec.u32.write words.1 ++ rest :=
  ⟨_, Codec.write_pair _ _ _⟩

/-- The three parts that the host fills in; what is between and after them is zero. -/
theorem codec_write_parts (words : Words) :
    ∃ head body tail, head.length = 12 ∧ body.length = 208 ∧ tail.length = 16 ∧
      codec.write words = head ++ (Bytes.zeros 52 ++ (body ++ (Bytes.zeros 56 ++
        (tail ++ Bytes.zeros 40)))) := by
  obtain ⟨sequence, flags, startTimeout, completionTimeout, vi, pfsd, engine, output, mark⟩ := words
  refine ⟨Codec.u32.write sequence ++ ((Codec.flags .capture).write flags ++
      (Codec.u16.write startTimeout ++ Codec.u16.write completionTimeout)),
    ViSettings.codec.write vi ++ (Pfsd.codec.write pfsd ++ Codec.u64.write engine),
    Codec.u64.write output ++ watermarkCodec.write mark, ?_, ?_, ?_, ?_⟩
  · simp only [List.length_append, Codec.size_write, Codec.size_u16, Codec.size_u32,
      Codec.size_flags]
  · simp only [List.length_append, Codec.size_write, Codec.size_u64, ViSettings.size_codec,
      Pfsd.size_codec]
  · simp only [List.length_append, Codec.size_write, Codec.size_u64, watermarkCodec,
      Codec.size_iso, Codec.size_pair, Codec.size_u32]
  · simp only [codec, Codec.write_pair, Codec.write_gap, List.append_assoc]

/-- The host writes zeros where the status will stand. -/
theorem codec_write_status (words : Words) :
    ∃ front rest, codec.write words = front ++ (Bytes.zeros 56 ++ rest) ∧
      front.length = statusOffset := by
  obtain ⟨head, body, tail, hh, hb, -, hw⟩ := codec_write_parts words
  refine ⟨head ++ (Bytes.zeros 52 ++ body), tail ++ Bytes.zeros 40, ?_, ?_⟩
  · simp only [hw, List.append_assoc]
  · simp [hh, hb, statusOffset]

end CaptureRequest

/-! ## Status and sequence number of a slot -/

/-- A status that stands in its place is read, whatever is around it. -/
theorem decodeStatus_append {front : Bytes} (h : front.length = statusOffset)
    (status : CaptureStatus) (rest : Bytes) :
    decodeStatus (front ++ (status.encode ++ rest)) = .ok status := by
  unfold decodeStatus Codec.decodeAt
  rw [← h, List.drop_left, CaptureStatus.encode, CaptureStatus.codec.read_write_append]
  exact CaptureStatus.ofWords_words status

/-- The front of a slot decides its sequence number. -/
theorem storedSequence_append {front : Bytes} (h : 4 ≤ front.length) (rest : Bytes) :
    storedSequence (front ++ rest) = storedSequence front :=
  Codec.u32.decodeAt_append descriptorRecord 0 front rest (by rw [Codec.size_u32]; omega)

/-- What a slot says: for which request it stands, and what became of the request. -/
structure Reports (slot : Bytes) (sequence : UInt32) (status : CaptureStatus) : Prop where
  sequence : storedSequence slot = .ok sequence
  status : decodeStatus slot = .ok status

/-- The record of a status of which nothing is known yet is empty. -/
theorem CaptureStatus.encode_default : ({} : CaptureStatus).encode = Bytes.zeros 56 := by
  decide

/-- **The slot of a new request reports that nothing has happened yet.** -/
theorem reports_slotBytes (request : CaptureRequest) (size : Nat) :
    Reports (request.slotBytes size) request.sequence {} := by
  refine ⟨?_, ?_⟩
  · obtain ⟨rest, hw⟩ := CaptureRequest.codec_write_front request.words
    unfold CaptureRequest.slotBytes storedSequence
    rw [hw, List.append_assoc]
    exact Codec.u32.decode_write_append _ _ _
  · obtain ⟨front, rest, hw, hf⟩ := CaptureRequest.codec_write_status request.words
    unfold CaptureRequest.slotBytes
    rw [hw, List.append_assoc, List.append_assoc, ← CaptureStatus.encode_default]
    exact decodeStatus_append hf {} _

/-- The status stands behind the front of a slot. -/
theorem length_take_statusOffset {slot : Bytes} (h : statusOffset ≤ slot.length) :
    (slot.take statusOffset).length = statusOffset := by
  rw [List.length_take]
  omega

theorem decodeStatus_overwrite {slot : Bytes} (h : statusOffset ≤ slot.length)
    (status : CaptureStatus) :
    decodeStatus (slot.overwrite statusOffset status.encode) = .ok status :=
  decodeStatus_append (length_take_statusOffset h) status _

/-- The sequence number of a slot is not where its status is. -/
theorem storedSequence_overwrite {slot : Bytes} (h : statusOffset ≤ slot.length)
    (status : CaptureStatus) :
    storedSequence (slot.overwrite statusOffset status.encode) = storedSequence slot := by
  have h4 : 4 ≤ (slot.take statusOffset).length := by
    rw [length_take_statusOffset h, statusOffset]
    omega
  have hslot := storedSequence_append h4 (slot.drop statusOffset)
  rw [List.take_append_drop] at hslot
  rw [Bytes.overwrite, storedSequence_append h4, hslot]

/-- **A status that is written into a slot is the one that it reports.** -/
theorem Reports.overwrite {slot : Bytes} {sequence : UInt32} {old : CaptureStatus}
    (h : Reports slot sequence old) (hl : 384 ≤ slot.length) (status : CaptureStatus) :
    Reports (slot.overwrite statusOffset status.encode) sequence status := by
  have hfront : statusOffset ≤ slot.length := by
    rw [statusOffset]
    omega
  refine ⟨?_, decodeStatus_overwrite hfront status⟩
  rw [storedSequence_overwrite hfront]
  exact h.sequence

end CaptureProtocol
