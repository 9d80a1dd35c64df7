import CaptureProtocol.Proofs.Ring.Delivery
import CaptureProtocol.Proofs.Ring.InPlace

/-!
# Submission and the encoders

A request can be encoded for itself, and so can memory information. `submit` neither calls these
encoders nor shares their buffers, but it agrees with them.

* `submit_eq_encode`: outside a reset, and for a free slot, submission is the encoders one after the
  other, of which the first error is reported.
* `Submitted`: what a submission leaves behind, told by the encoders.
* `submit_agrees_with_encoders`: both, for every ring that a run leads to.
-/

set_option autoImplicit false

namespace CaptureProtocol

theorem CaptureRequest.timeout?_eq_some {request : CaptureRequest} {ms : Nat} :
    request.timeout? = some ms ↔ request.startTimeout ≠ 0 ∧ request.completionTimeout ≠ 0 ∧
      ms = request.startTimeout.toNat + request.completionTimeout.toNat := by
  unfold timeout?
  split
  · next h =>
    constructor
    · intro hnone
      cases hnone
    · rintro ⟨hstart, hcompletion, -⟩
      exact absurd h (by simp [hstart, hcompletion])
  · next h =>
    obtain ⟨hstart, hcompletion⟩ := not_or.mp h
    simp [hstart, hcompletion, eq_comm]

namespace Ring

/-! ## What is refused -/

section

variable {r : Ring} (hr : r.resetting = false) (hs : r.slotState? r.nextSlot = some .free)
  (request : CaptureRequest) (info : Option MemoryInfo)

include hr hs

theorem submit_eq_encode :
    r.submit request info = (do
      let _ ← info.mapM MemoryInfo.encode
      let _ ← request.encodeFor r.config
      .ok (r.place request info, ⟨r.nextSlot, r.nextSequence, request.timeout?⟩)) := by
  have hfree : r.holder? r.nextSlot = none := by
    rw [holder?, hs]
    rfl
  rw [submit_of_free hr hfree, CaptureRequest.encodeFor_eq]
  cases info with
  | none =>
    simp only [submissionRules, List.nil_append, Rule.enforce_const]
    cases Rule.firstBroken (request.rules r.config) <;> rfl
  | some m =>
    simp only [submissionRules, Rule.enforce_const, Rule.firstBroken_append, Option.mapM_some,
      MemoryInfo.encode_eq, MemoryInfo.validate]
    cases Rule.firstBroken m.rules with
    | none => cases Rule.firstBroken (request.rules r.config) <;> rfl
    | some broken => rfl

theorem submit_eq_ok_iff_encode :
    (∃ r' ticket, r.submit request info = .ok (r', ticket)) ↔
      (∀ m ∈ info, ∃ record, m.encode = .ok record) ∧
        ∃ slot, request.encodeFor r.config = .ok slot := by
  rw [submit_eq_encode hr hs]
  cases info with
  | none => cases request.encodeFor r.config <;> simp [bind, Except.bind, pure, Except.pure]
  | some m =>
    cases hm : m.encode <;> cases request.encodeFor r.config <;> simp [hm, bind, Except.bind]

theorem submit_eq_error_iff_encode (error : CaptureError) :
    r.submit request info = .error error ↔
      (∃ m ∈ info, CaptureError.ofRule m.validate = .error error) ∨
        ((∀ m ∈ info, m.validate = .ok ()) ∧ request.encodeFor r.config = .error error) := by
  rw [submit_eq_encode hr hs]
  cases info with
  | none => cases request.encodeFor r.config <;> simp [bind, Except.bind, pure, Except.pure]
  | some m =>
    cases hm : m.validate <;> cases request.encodeFor r.config <;>
      simp [MemoryInfo.encode_eq, hm, CaptureError.ofRule, Except.map, bind, Except.bind]

end

/-! ## What is left behind -/

theorem WellFormed.infoSlot_place {r : Ring} (h : r.WellFormed) (request : CaptureRequest)
    (info : Option MemoryInfo) :
    (r.place request info).infoSlot r.nextSlot = memoryInfoSlot info r.config.memoryInfoBytes :=
  Bytes.slice_overwrite_of_length (r.length_placedInfo info) (h.infoSlot_fits r.nextSlot_lt)

/-- A submission, told by the encoders. -/
structure Submitted (r : Ring) (request : CaptureRequest) (info : Option MemoryInfo) (r' : Ring)
    (ticket : Ticket) : Prop where
  /-- The slot is the request as it is encoded for itself with the sequence number of the ring. -/
  slot : { request with sequence := r.nextSequence }.encodeFor r.config = .ok (r'.slot r.nextSlot)
  /-- The memory-info slot is the record as it is encoded for itself and zeros. -/
  infoSlot : ∀ m ∈ info, ∃ record, m.encode = .ok record ∧ record.length = 128 ∧
    r'.infoSlot r.nextSlot = record ++ Bytes.zeros (r.config.memoryInfoBytes - 128)
  noInfoSlot : info = none → r'.infoSlot r.nextSlot = Bytes.zeros r.config.memoryInfoBytes
  state : r'.slotState? r.nextSlot = some (.coprocessor r.nextSequence)
  nextSequence : r'.nextSequence.toNat = (r.nextSequence.toNat + 1) % UInt32.size
  inFlight : r'.inFlight = r.inFlight + 1
  index : ticket.index = r.nextSlot
  sequence : ticket.sequence = r.nextSequence
  timeout : ∀ ms, ticket.timeout = some ms ↔
    request.startTimeout ≠ 0 ∧ request.completionTimeout ≠ 0 ∧
      ms = request.startTimeout.toNat + request.completionTimeout.toNat
  others : ∀ i, i ≠ r.nextSlot →
    r'.slot i = r.slot i ∧ r'.infoSlot i = r.infoSlot i ∧ r'.slotState? i = r.slotState? i
  rest : r'.config = r.config ∧ r'.resetting = false

theorem WellFormed.submitted {r : Ring} (h : r.WellFormed) {request : CaptureRequest}
    {info : Option MemoryInfo} {r' : Ring} {ticket : Ticket}
    (hsubmit : r.submit request info = .ok (r', ticket)) :
    r.Submitted request info r' ticket := by
  obtain ⟨hr, -, haccepted, rfl, rfl⟩ := submit_eq_ok hsubmit
  obtain ⟨hinfo, hrequest⟩ := Rule.accepted_append.mp haccepted
  exact {
    slot := by
      rw [h.slot_place]
      exact CaptureRequest.encodeFor_eq_ok.mpr ⟨hrequest, rfl⟩
    infoSlot := by
      rintro m rfl
      refine ⟨m.bytes, ?_, m.length_bytes, ?_⟩
      · rw [m.encode_eq, MemoryInfo.validate, Rule.enforce_of_accepted _ hinfo]
        rfl
      · rw [h.infoSlot_place, memoryInfoSlot, MemoryInfo.size_codec]
    noInfoSlot := by
      rintro rfl
      exact h.infoSlot_place request none
    state := by
      rw [h.slotState?_place, if_pos rfl]
    nextSequence := UInt32.toNat_add _ _
    inFlight := rfl
    index := rfl
    sequence := rfl
    timeout := fun _ => CaptureRequest.timeout?_eq_some
    others := fun i hi => by
      refine ⟨?_, ?_, ?_⟩
      · exact h.slot_place_of_ne request info hi
      · exact h.infoSlot_place_of_ne request info hi
      · rw [h.slotState?_place, if_neg hi]
    rest := ⟨rfl, hr⟩ }

/--
**Submission agrees with the encoders.** In every ring that a run leads to, outside a reset and when
the next slot is free, a request is taken exactly when its memory information, if there is any, and
the request itself can be encoded. Otherwise the error is the one of the memory information if that
breaks a rule, and else the one of encoding the request. A submission that succeeds leaves in the
slots, whatever they held before, what the encoders give for themselves. All this is what comes of
writing the records in place.
-/
theorem submit_agrees_with_encoders (config : ChannelConfig) (first : UInt32)
    (actions : List Action) :
    let r := (startingAt config first).run actions
    r.resetting = false → r.slotState? (config.depth.slotOf r.nextSequence) = some .free →
    ∀ request info,
      ((∃ r' ticket, r.submit request info = .ok (r', ticket)) ↔
        (∀ m ∈ info, ∃ record, m.encode = .ok record) ∧
          ∃ slot, request.encodeFor config = .ok slot) ∧
      (∀ error, r.submit request info = .error error ↔
        (∃ m ∈ info, CaptureError.ofRule m.validate = .error error) ∨
          ((∀ m ∈ info, m.validate = .ok ()) ∧ request.encodeFor config = .error error)) ∧
      (∀ r' ticket, r.submit request info = .ok (r', ticket) →
        r.Submitted request info r' ticket) ∧
      (r.submitChecked request info).run = some (r.submit request info) := by
  intro r hr hs request info
  have h : r.Accounted := accounted_run config first actions
  have hc : r.config = config := config_run (startingAt config first) actions
  have hfree : r.slotState? r.nextSlot = some .free := by
    rw [nextSlot, hc]
    exact hs
  have hok := submit_eq_ok_iff_encode hr hfree request info
  have herror := submit_eq_error_iff_encode hr hfree request info
  rw [hc] at hok herror
  exact ⟨hok, herror, fun r' ticket => h.wellFormed.submitted, h.run_submitChecked request info⟩

/-- The last sequence number, in a slot that has something else in its memory. -/
theorem submit_agrees_with_encoders_at_wrap :
    let r := (startingAt .threeSlots 0xFFFFFFFF).run [.write 0 [1, 2, 3, 4]]
    let request : CaptureRequest := { startTimeout := 100, completionTimeout := 50 }
    let info : MemoryInfo := { engineStatus := ⟨0x1000, 64⟩ }
    r.resetting = false ∧
      r.slotState? (ChannelConfig.threeSlots.depth.slotOf r.nextSequence) = some .free ∧
      ∃ r' ticket, r.submit request (some info) = .ok (r', ticket) ∧
        r.Submitted request (some info) r' ticket ∧ r'.nextSequence.toNat = 0 ∧
        ticket.timeout = some 150 := by
  intro r request info
  have hr : r.resetting = false := by decide +kernel
  have hs : r.slotState? (ChannelConfig.threeSlots.depth.slotOf r.nextSequence) = some .free := by
    decide +kernel
  obtain ⟨hok, -, hsubmitted, -⟩ := submit_agrees_with_encoders .threeSlots 0xFFFFFFFF
    [.write 0 [1, 2, 3, 4]] hr hs request (some info)
  have hinfo : info.validate = .ok () := Rule.enforce_of_accepted _ (by decide)
  have hrequest := CaptureRequest.encodeFor_eq_ok.mpr
    ⟨(by decide : Rule.Accepted (request.rules .threeSlots)), rfl⟩
  have hrecord : ∀ m ∈ some info, ∃ record, m.encode = .ok record := by
    intro m hm
    cases hm
    exact ⟨info.bytes, by rw [info.encode_eq, hinfo]; rfl⟩
  obtain ⟨r', ticket, hsubmit⟩ := hok.mpr ⟨hrecord, _, hrequest⟩
  have hdone := hsubmitted r' ticket hsubmit
  exact ⟨hr, hs, r', ticket, hsubmit, hdone, hdone.nextSequence.trans (by decide +kernel),
    (hdone.timeout 150).mpr (by decide)⟩

end Ring

end CaptureProtocol
