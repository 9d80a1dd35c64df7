import CaptureProtocol.Outcome.Verdict
import CaptureProtocol.Proofs.Outcome.BitNames
import CaptureProtocol.Proofs.Outcome.NotifyWord

/-!
# What the findings about a capture tell

The findings about a finished capture come from its code, its notify word, the state of the channel
and the four error words of the receiver, in this order. Each kind of finding has a constructor of
its own, so which findings there are says what the status holds.

* `status_mem_iff` to `receiver_mem_iff`: when a finding of each kind is in the list.
* `diagnostics_lossless`: **the findings stand in reporting order, and two finished captures with
  the same findings agree in everything that findings are about**.
-/

set_option autoImplicit false

namespace CaptureProtocol

namespace ReceiverStatus

/-- The error word of a block. -/
def word (status : ReceiverStatus) : ReceiverBlock → UInt32
  | .stream => status.stream
  | .virtualChannel => status.virtualChannel
  | .cilA => status.cilA
  | .cilB => status.cilB

theorem ext_word {a b : ReceiverStatus} (h : ∀ block, a.word block = b.word block) : a = b :=
  ReceiverStatus.ext (h .stream) (h .virtualChannel) (h .cilA) (h .cilB)

theorem errors_eq (status : ReceiverStatus) :
    status.errors = [ReceiverBlock.stream, .virtualChannel, .cilA, .cilB].flatMap fun block =>
      errorsOf block (status.word block) := by
  simp [errors, word]

theorem mem_errors (status : ReceiverStatus) (e : ReceiverError) :
    e ∈ status.errors ↔ ∃ block, e ∈ errorsOf block (status.word block) := by
  rw [errors_eq, List.mem_flatMap]
  constructor
  · rintro ⟨block, -, h⟩
    exact ⟨block, h⟩
  · rintro ⟨block, h⟩
    exact ⟨block, by cases block <;> decide, h⟩

theorem named_mem_errors (status : ReceiverStatus) (block : ReceiverBlock) (name : String) :
    .named block name ∈ status.errors ↔ name ∈ block.errors.namesOf (status.word block) := by
  simp [mem_errors, errorsOf]

theorem unnamed_mem_errors (status : ReceiverStatus) (block : ReceiverBlock) (bits : UInt32) :
    .unnamed block bits ∈ status.errors ↔
      block.errors.leftover (status.word block) ≠ 0 ∧
        bits = block.errors.leftover (status.word block) := by
  simp [mem_errors, errorsOf]

end ReceiverStatus

/-- A value of which only the blank is left out of a report can be told from the report. -/
theorem eq_of_reported {α : Type} {blank a b : α}
    (h : ∀ x, a ≠ blank ∧ x = a ↔ b ≠ blank ∧ x = b) : a = b := by
  by_cases ha : a = blank
  · by_contra hne
    have hb : b ≠ blank := fun hb => hne (ha.trans hb.symm)
    exact ((h b).mpr ⟨hb, rfl⟩).1 ha
  · exact ((h a).mp ⟨ha, rfl⟩).2

namespace CaptureStatus

theorem channelInError_iff (s : CaptureStatus) :
    s.channelInError = true ↔ s.flags.bits.toNat.testBit 1 = true :=
  FlagSet.contains_iff_testBit rfl s.flags

theorem advisories_eq (s : CaptureStatus) :
    s.advisories = (if s.channelInError = true then [.channelInError] else []) ++
      [ReceiverBlock.stream, .virtualChannel, .cilA, .cilB].flatMap fun block =>
        (block.errors.rowsOf (s.receiver.word block)).map
            (fun row => .receiver (.named block row.2)) ++
          if block.errors.leftover (s.receiver.word block) = 0 then []
          else [.receiver (.unnamed block (block.errors.leftover (s.receiver.word block)))] := by
  rw [advisories, ReceiverStatus.errors_eq, List.map_flatMap]
  congr 2
  funext block
  rw [ReceiverStatus.errorsOf, BitNames.namesOf_eq, List.map_append, List.map_map, List.map_map]
  congr 1
  exact apply_ite _ _ _ _

section Finished

variable {s : CaptureStatus} (h : s.isFinal = true)
include h

theorem diagnostics_eq :
    s.classify.diagnostics =
      s.code.diagnostics ++ NotifyBit.diagnostics s.notifyBits ++ s.advisories := by
  have hc : s.code.isFinal = true := h
  simp [classify, CaptureProtocol.classify, h, hc]

theorem channelInError_mem_iff :
    .channelInError ∈ s.classify.diagnostics ↔ s.channelInError = true := by
  simp [diagnostics_eq h, StatusCode.diagnostics, NotifyBit.diagnostics, advisories]

theorem status_mem_iff (code : StatusCode) :
    .status code ∈ s.classify.diagnostics ↔ s.code ≠ .success ∧ code = s.code := by
  simp [diagnostics_eq h, StatusCode.diagnostics, NotifyBit.diagnostics, advisories]

theorem notify_mem_iff (bit : NotifyBit) :
    .notify bit ∈ s.classify.diagnostics ↔ bit ∈ NotifyBit.ofWord s.notifyBits := by
  simp [diagnostics_eq h, StatusCode.diagnostics, NotifyBit.diagnostics, advisories]

theorem unknownNotify_mem_iff (bits : UInt64) :
    .unknownNotify bits ∈ s.classify.diagnostics ↔
      s.notifyBits &&& ~~~NotifyBit.knownMask ≠ 0 ∧
        bits = s.notifyBits &&& ~~~NotifyBit.knownMask := by
  simp [diagnostics_eq h, StatusCode.diagnostics, NotifyBit.diagnostics, advisories]

theorem receiver_mem_iff (e : ReceiverError) :
    .receiver e ∈ s.classify.diagnostics ↔ e ∈ s.receiver.errors := by
  simp [diagnostics_eq h, StatusCode.diagnostics, NotifyBit.diagnostics, advisories]

end Finished

/-! ## What the list determines -/

section Determined

variable {s t : CaptureStatus} (hs : s.isFinal = true) (ht : t.isFinal = true)
  (h : s.classify.diagnostics = t.classify.diagnostics)
include hs ht h

theorem code_eq_of_diagnostics : s.code = t.code := by
  apply eq_of_reported
  intro code
  rw [← status_mem_iff hs, ← status_mem_iff ht, h]

theorem notifyBits_eq_of_diagnostics : s.notifyBits = t.notifyBits := by
  apply NotifyBit.eq_of_ofWord
  · intro bit
    rw [← notify_mem_iff hs, ← notify_mem_iff ht, h]
  · apply eq_of_reported
    intro bits
    rw [← unknownNotify_mem_iff hs, ← unknownNotify_mem_iff ht, h]

theorem channelInError_eq_of_diagnostics : s.channelInError = t.channelInError := by
  rw [Bool.eq_iff_iff, ← channelInError_mem_iff hs, ← channelInError_mem_iff ht, h]

theorem receiver_eq_of_diagnostics : s.receiver = t.receiver := by
  have hmem : ∀ e, e ∈ s.receiver.errors ↔ e ∈ t.receiver.errors := by
    intro e
    rw [← receiver_mem_iff hs, ← receiver_mem_iff ht, h]
  -- Two blocks may share a name, but a finding says which block it is about.
  apply ReceiverStatus.ext_word
  intro block
  apply block.isCatalogue.eq_of_names
  · intro name
    rw [← ReceiverStatus.named_mem_errors, ← ReceiverStatus.named_mem_errors, hmem]
  · apply eq_of_reported
    intro bits
    rw [← ReceiverStatus.unnamed_mem_errors, ← ReceiverStatus.unnamed_mem_errors, hmem]

end Determined

/--
**Findings are in order and lose nothing.** The findings about a finished capture are its code if it
is not `success`; the catalogued bits of its notify word, lowest first, and the word of the others
if there are any; the error state of the channel; and block by block the names of the error bits,
lowest first, and the word of those without a name if there are any. Whoever has the findings has
the code, the notify word, the error flag and the four error words.
-/
theorem diagnostics_lossless (s : CaptureStatus) (hs : s.isFinal = true) :
    (∃ (bits : List NotifyBit) (others : UInt64) (rows : ReceiverBlock → BitNames)
        (rest : ReceiverBlock → UInt32),
      NotifyBit.Splits s.notifyBits bits others ∧
      (∀ block : ReceiverBlock,
        block.errors.Splits (s.receiver.word block) (rows block) (rest block)) ∧
      s.classify.diagnostics =
        (if s.code = .success then [] else [.status s.code]) ++
        bits.map .notify ++ (if others = 0 then [] else [.unknownNotify others]) ++
        (if s.flags.bits.toNat.testBit 1 = true then [.channelInError] else []) ++
        [ReceiverBlock.stream, .virtualChannel, .cilA, .cilB].flatMap fun block =>
          (rows block).map (fun row => .receiver (.named block row.2)) ++
            if rest block = 0 then [] else [.receiver (.unnamed block (rest block))]) ∧
    ∀ t : CaptureStatus, t.isFinal = true → s.classify.diagnostics = t.classify.diagnostics →
      s.code = t.code ∧ s.notifyBits = t.notifyBits ∧ s.channelInError = t.channelInError ∧
        s.receiver = t.receiver := by
  constructor
  · refine ⟨NotifyBit.ofWord s.notifyBits, s.notifyBits &&& ~~~NotifyBit.knownMask,
      fun block => block.errors.rowsOf (s.receiver.word block),
      fun block => block.errors.leftover (s.receiver.word block),
      NotifyBit.splits_ofWord s.notifyBits, fun block => block.isCatalogue.splits _, ?_⟩
    rw [diagnostics_eq hs, advisories_eq]
    simp only [StatusCode.diagnostics, NotifyBit.diagnostics, channelInError_iff,
      List.append_assoc]
  · intro t ht h
    exact ⟨code_eq_of_diagnostics hs ht h, notifyBits_eq_of_diagnostics hs ht h,
      channelInError_eq_of_diagnostics hs ht h, receiver_eq_of_diagnostics hs ht h⟩

/-- A failed capture with every kind of finding; bit 0 of the notify word has no entry. -/
def failedCapture : CaptureStatus where
  code := .csimuxFrame
  flags := ⟨0x6⟩
  notifyBits := 0x30001
  receiver := { stream := 0x80000002, virtualChannel := 0x4 }

/-- Eight findings tell the whole of the failed capture. -/
theorem diagnostics_lossless_failedCapture :
    ∃ findings : List Diagnostic,
      findings = [.status .csimuxFrame, .notify .csiFaultPhEccSingleBitErr,
        .notify .csiFaultPdCrcErr, .unknownNotify 0x1, .channelInError,
        .receiver (.named .stream "PH_BOTH_CRC_ERR"), .receiver (.unnamed .stream 0x80000000),
        .receiver (.named .virtualChannel "PD_CRC_ERR")] ∧
      failedCapture.classify.diagnostics = findings ∧
      ∀ t : CaptureStatus, t.isFinal = true → t.classify.diagnostics = findings →
        t.code = .csimuxFrame ∧ t.notifyBits = 0x30001 ∧ t.channelInError = true ∧
          t.receiver = failedCapture.receiver := by
  refine ⟨_, rfl, by decide, ?_⟩
  intro t ht h
  have hs : failedCapture.classify.diagnostics = t.classify.diagnostics := by
    rw [h]
    decide
  obtain ⟨-, hall⟩ := diagnostics_lossless failedCapture (by decide)
  obtain ⟨hcode, hbits, hflag, hreceiver⟩ := hall t ht hs
  exact ⟨hcode.symm, hbits.symm, hflag.symm, hreceiver.symm⟩

end CaptureStatus

end CaptureProtocol
