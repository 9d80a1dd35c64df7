import CaptureProtocol.Proofs.Request.Slot
import CaptureProtocol.Proofs.Ring.Ownership
import CaptureProtocol.Proofs.Ring.SingleWriter

/-!
# What a host is told about a request

A host that submitted a request polls the slot of its ticket. Meanwhile other requests come and go,
resets begin, and the coprocessor writes into other slots; the `Spares` of an action says that it is
one of these. What the slot reports is then what the coprocessor put there for this very request.

* `Awaits.step`, `Awaits.report`: what a waiting host is going to be told changes only by a report.
* `Keeps.step`: a collected status can be read again until it is given back.
* `status_delivered`: **a request is pending until its status is reported, completes with exactly that
  status, and keeps it until it is released**.
-/

set_option autoImplicit false

namespace CaptureProtocol

namespace Bytes

/-- A patch that lies within a slice is written into the slice. -/
theorem slice_overwrite_within {bytes patch : Bytes} {start size offset : Nat}
    (hp : offset + patch.length ≤ size) (hs : start + size ≤ bytes.length) :
    (bytes.overwrite (start + offset) patch).slice start size =
      (bytes.slice start size).overwrite offset patch := by
  have hl : (bytes.slice start size).length = size := length_slice_of_le hs
  apply List.ext_getElem?
  intro i
  rw [getElem?_slice, getElem?_overwrite (by omega), getElem?_overwrite (by omega), getElem?_slice]
  by_cases hi : i < size
  · rw [if_pos hi, if_pos hi]
    by_cases hin : offset ≤ i ∧ i < offset + patch.length
    · rw [if_pos hin, if_pos (by omega)]
      congr 1
      omega
    · rw [if_neg hin, if_neg (by omega)]
  · rw [if_neg hi, if_neg hi, if_neg (by omega)]

end Bytes

namespace Action

/-- Whether an action is neither about a ticket nor about its slot. -/
def Spares (config : ChannelConfig) (ticket : Ticket) : Action → Prop
  | .complete other _ => other ≠ ticket
  | .acknowledgeReset => False
  | .write offset bytes => ¬ (write offset bytes).WritesInto config ticket.index
  | _ => True

/-- Whether an action neither gives a completed slot back nor writes into it. -/
def Retains (config : ChannelConfig) (completed : CompletedSlot) : Action → Prop
  | .release other => other ≠ completed
  | .write offset bytes => ¬ (write offset bytes).WritesInto config completed.index
  | _ => True

theorem Spares.not_writesInto {config : ChannelConfig} {ticket : Ticket} {action : Action}
    (h : action.Spares config ticket) : ¬ action.WritesInto config ticket.index := by
  cases action with
  | write _ _ => exact h
  | _ => exact id

/-- A report in another slot spares a ticket. -/
theorem spares_report {config : ChannelConfig} {ticket : Ticket} {index : Nat}
    (h : index ≠ ticket.index) (status : CaptureStatus) :
    (report config index status).Spares config ticket := by
  rintro ⟨k, hk, hl, hr⟩
  have hd := Ring.slots_disjoint h config.requestBytes
  have hc := config.descriptor_le
  rw [status.length_encode] at hk
  rw [statusOffset] at hl hr
  omega

theorem Retains.not_writesInto {config : ChannelConfig} {completed : CompletedSlot}
    {action : Action} (h : action.Retains config completed) :
    ¬ action.WritesInto config completed.index := by
  cases action with
  | write _ _ => exact h
  | _ => exact id

end Action

namespace Ring

/-! ## The memory of a slot -/

/-- The ring after a status was put into a slot. -/
def withStatus (r : Ring) (index : Nat) (status : CaptureStatus) : Ring :=
  { r with requests := r.requests.overwrite (r.slotStart index + statusOffset) status.encode }

/-- The status lies within its slot. -/
theorem status_fits (r : Ring) (status : CaptureStatus) :
    statusOffset + status.encode.length ≤ r.config.requestBytes := by
  have hd := r.config.descriptor_le
  rw [status.length_encode, statusOffset]
  omega

theorem WellFormed.writeMemory?_status {r : Ring} (h : r.WellFormed) {index : Nat}
    (hi : index < r.config.depth.slots) (status : CaptureStatus) :
    r.writeMemory? (r.slotStart index + statusOffset) status.encode =
      some (r.withStatus index status) := by
  have hf := r.status_fits status
  have hs := h.slot_fits hi
  exact if_pos (by omega)

theorem WellFormed.writeStatus?_eq {r : Ring} (h : r.WellFormed) {index : Nat}
    (hi : index < r.config.depth.slots) (status : CaptureStatus) :
    r.writeStatus? index status = some (r.withStatus index status) := by
  unfold writeStatus? writeSlot? ifSlot
  rw [if_pos (r.status_fits status), if_pos hi]
  exact h.writeMemory?_status hi status

theorem WellFormed.slot_place {r : Ring} (h : r.WellFormed) (request : CaptureRequest)
    (info : Option MemoryInfo) :
    (r.place request info).slot r.nextSlot =
      { request with sequence := r.nextSequence }.slotBytes r.config.requestBytes :=
  Bytes.slice_overwrite_of_length (r.length_placedRequest _) (h.slot_fits r.nextSlot_lt)

theorem WellFormed.slot_withStatus {r : Ring} (h : r.WellFormed) {index : Nat}
    (hi : index < r.config.depth.slots) (status : CaptureStatus) :
    (r.withStatus index status).slot index =
      (r.slot index).overwrite statusOffset status.encode :=
  Bytes.slice_overwrite_within (r.status_fits status) (h.slot_fits hi)

/-- The slot of a new request reports that nothing has happened to it. -/
theorem WellFormed.reports_place {r : Ring} (h : r.WellFormed) (request : CaptureRequest)
    (info : Option MemoryInfo) :
    Reports ((r.place request info).slot r.nextSlot) r.nextSequence {} := by
  rw [h.slot_place]
  exact reports_slotBytes _ _

theorem WellFormed.reports_withStatus {r : Ring} (h : r.WellFormed) {index : Nat}
    (hi : index < r.config.depth.slots) {sequence : UInt32} {old : CaptureStatus}
    (hr : Reports (r.slot index) sequence old) (status : CaptureStatus) :
    Reports ((r.withStatus index status).slot index) sequence status := by
  rw [h.slot_withStatus hi]
  exact hr.overwrite (h.descriptor_le_slot hi) status

/-- What a ticket gets whose slot reports a status. -/
theorem complete_of_reports {r : Ring} {ticket : Ticket} {status : CaptureStatus}
    (hh : r.honours ticket = true) (hr : Reports (r.slot ticket.index) ticket.sequence status) :
    r.complete ticket ticket.sequence =
      if status.isFinal then
        (r.finish ticket, .ready ⟨ticket.index, ticket.sequence, status, status.classify⟩)
      else (r, .pending ticket) :=
  complete_of_status hh (statusFor_eq_ok_iff.mpr ⟨hr.sequence, hr.status⟩)

end Ring

namespace Session

/-! ## A host that waits -/

/-- The host holds a good ticket, whose slot reports a status. -/
structure Awaits (config : ChannelConfig) (ticket : Ticket) (status : CaptureStatus)
    (w : Session) : Prop where
  config_eq : w.ring.config = config
  live : ticket ∈ w.tickets
  honoured : w.ring.honours ticket = true
  reports : Reports (w.ring.slot ticket.index) ticket.sequence status

theorem Move.mem_tickets {w w' : Session} {action : Action} (hm : w.Move action w')
    {config : ChannelConfig} {ticket : Ticket} (hs : action.Spares config ticket)
    (ht : ticket ∈ w.tickets) : ticket ∈ w'.tickets := by
  cases hm with
  | submitted _ => exact List.mem_cons_of_mem _ ht
  | kept ht' => exact (List.perm_cons_erase ht').mem_iff.mp ht
  | voided _ _ => exact (List.mem_erase_of_ne (Ne.symm hs)).mpr ht
  | collected _ _ _ _ => exact (List.mem_erase_of_ne (Ne.symm hs)).mpr ht
  | _ => exact ht

/-- A good ticket that is still held is still good, unless a reset was acknowledged. -/
theorem Move.honours {w w' : Session} {action : Action} (hm : w.Move action w') (h : w.Owned)
    {ticket : Ticket} (ht : ticket ∈ w'.tickets) (hh : w.ring.honours ticket = true)
    (hr : action ≠ .acknowledgeReset) : w'.ring.honours ticket = true := by
  cases hd : w'.ring.honours ticket with
  | true => rfl
  | false =>
    obtain ⟨-, hd₀ | ⟨hr₀, -⟩⟩ := stale_step h hm ht hd
    · rw [hh] at hd₀
      cases hd₀
    · exact absurd hr₀ hr

theorem awaits_submitted {w w' : Session} {request : CaptureRequest} {info : Option MemoryInfo}
    {ring : Ring} {ticket : Ticket} (h : w.Owned)
    (hs : w.ring.submit request info = .ok (ring, ticket))
    (hw : w.step? (.submit request info) = some w') :
    w'.Awaits w.ring.config ticket {} := by
  simp only [step?, hs] at hw
  cases hw
  obtain ⟨-, -, -, rfl, rfl⟩ := Ring.submit_eq_ok hs
  refine ⟨rfl, List.mem_cons_self, ?_, h.wellFormed.reports_place request info⟩
  exact Ring.honours_iff.mpr ((h.wellFormed.slotState?_place request info _).trans (if_pos rfl))

/-- **What is not about a ticket changes nothing for it.** -/
theorem Awaits.step {config : ChannelConfig} {ticket : Ticket} {status : CaptureStatus}
    {w w' : Session} {action : Action} (ha : w.Awaits config ticket status) (h : w.Owned)
    (hs : action.Spares config ticket) (hw : w.step? action = some w') :
    w'.Awaits config ticket status := by
  have hm := step?_move hw
  have hc := step?_change hw
  have hlive := hm.mem_tickets hs ha.live
  have hheld := Ring.holder?_eq_some.mpr (.inl (Ring.honours_iff.mp ha.honoured))
  have hslot : w'.ring.slot ticket.index = w.ring.slot ticket.index := by
    refine hc.slot_eq h.wellFormed hheld ?_
    rw [ha.config_eq]
    exact hs.not_writesInto
  refine ⟨hc.config_eq.trans ha.config_eq, hlive, hm.honours h hlive ha.honoured ?_, ?_⟩
  · rintro rfl
    exact hs
  · rw [hslot]
    exact ha.reports

/-- The coprocessor can always report to a host that waits. -/
theorem Awaits.step?_report {config : ChannelConfig} {ticket : Ticket} {old : CaptureStatus}
    {w : Session} (ha : w.Awaits config ticket old) (h : w.Owned) (status : CaptureStatus) :
    w.step? (.report config ticket.index status) =
      some { w with ring := w.ring.withStatus ticket.index status } := by
  have hi := h.wellFormed.lt_depth (Ring.honours_iff.mp ha.honoured)
  rw [← ha.config_eq]
  exact congrArg (Option.map _) (h.wellFormed.writeMemory?_status hi status)

/-- **What is reported is what the host is going to be told.** -/
theorem Awaits.report {config : ChannelConfig} {ticket : Ticket} {old : CaptureStatus}
    {w : Session} (ha : w.Awaits config ticket old) (h : w.Owned) (status : CaptureStatus) :
    { w with ring := w.ring.withStatus ticket.index status }.Awaits config ticket status :=
  ⟨ha.config_eq, ha.live, ha.honoured,
    h.wellFormed.reports_withStatus (h.wellFormed.lt_depth (Ring.honours_iff.mp ha.honoured))
      ha.reports status⟩

theorem Awaits.run? {config : ChannelConfig} {first : UInt32} {ticket : Ticket}
    {status : CaptureStatus} {w w' : Session} {actions : List Action}
    (ha : w.Awaits config ticket status) (h : w.Consistent first)
    (hs : ∀ action ∈ actions, action.Spares config ticket) (hr : w.run? actions = some w')
    (hl : w'.issued.length < UInt32.size) : w'.Awaits config ticket status :=
  (run?_induction (P := fun w => w.Awaits config ticket status ∧ w.Consistent first)
    (fun h hs hw hl => ⟨h.1.step h.2.owned hs hw, h.2.step hw hl⟩) hs hr hl ⟨ha, h⟩).1

/-- Whatever is reported in the meantime, the host goes on waiting. -/
theorem Awaits.run?_reported {config : ChannelConfig} {first : UInt32} {ticket : Ticket}
    {old : CaptureStatus} {w w' : Session} {actions : List Action}
    (ha : w.Awaits config ticket old) (h : w.Consistent first)
    (hs : ∀ action ∈ actions, action.Spares config ticket ∨
      ∃ status, action = .report config ticket.index status)
    (hr : w.run? actions = some w') (hl : w'.issued.length < UInt32.size) :
    ∃ status, w'.Awaits config ticket status := by
  refine (run?_induction (P := fun w => (∃ status, w.Awaits config ticket status) ∧
    w.Consistent first) ?_ hs hr hl ⟨⟨old, ha⟩, h⟩).1
  rintro w w' action ⟨⟨old, ha⟩, h⟩ hs hw hl
  refine ⟨?_, h.step hw hl⟩
  rcases hs with hs | ⟨status, rfl⟩
  · exact ⟨old, ha.step h.owned hs hw⟩
  · rw [ha.step?_report h.owned] at hw
    cases hw
    exact ⟨status, ha.report h.owned status⟩

/-! ## A host that keeps a result -/

/-- The host holds a completed slot, and its status still stands in memory. -/
structure Keeps (config : ChannelConfig) (completed : CompletedSlot) (w : Session) : Prop where
  config_eq : w.ring.config = config
  live : completed ∈ w.completions
  status : w.ring.readStatus completed = .ok completed.status

theorem Move.mem_completions {w w' : Session} {action : Action} (hm : w.Move action w')
    {config : ChannelConfig} {completed : CompletedSlot} (hs : action.Retains config completed)
    (hc : completed ∈ w.completions) : completed ∈ w'.completions := by
  cases hm with
  | collected _ _ _ _ => exact List.mem_cons_of_mem _ hc
  | released _ => exact (List.mem_erase_of_ne (Ne.symm hs)).mpr hc
  | _ => exact hc

/-- **A collected status can be read again until it is given back.** -/
theorem Keeps.step {config : ChannelConfig} {completed : CompletedSlot} {w w' : Session}
    {action : Action} (hk : w.Keeps config completed) (h : w.Owned)
    (hs : action.Retains config completed) (hw : w.step? action = some w') :
    w'.Keeps config completed := by
  have hc := step?_change hw
  have hheld := Ring.holder?_eq_some.mpr (.inr (h.matched completed hk.live))
  have hslot : w'.ring.slot completed.index = w.ring.slot completed.index := by
    refine hc.slot_eq h.wellFormed hheld ?_
    rw [hk.config_eq]
    exact hs.not_writesInto
  refine ⟨hc.config_eq.trans hk.config_eq, (step?_move hw).mem_completions hs hk.live, ?_⟩
  unfold Ring.readStatus
  rw [hslot]
  exact hk.status

theorem Keeps.run? {config : ChannelConfig} {first : UInt32} {completed : CompletedSlot}
    {w w' : Session} {actions : List Action} (hk : w.Keeps config completed)
    (h : w.Consistent first) (hs : ∀ action ∈ actions, action.Retains config completed)
    (hr : w.run? actions = some w') (hl : w'.issued.length < UInt32.size) :
    w'.Keeps config completed :=
  (run?_induction (P := fun w => w.Keeps config completed ∧ w.Consistent first)
    (fun h hs hw hl => ⟨h.1.step h.2.owned hs hw, h.2.step hw hl⟩) hs hr hl ⟨hk, h⟩).1

/-- A completion that finds a final status makes a result of the ticket, which the host keeps. -/
theorem Awaits.collect {config : ChannelConfig} {ticket : Ticket} {status : CaptureStatus}
    {w : Session} (ha : w.Awaits config ticket status) (hf : status.isFinal = true) :
    let completed := ⟨ticket.index, ticket.sequence, status, status.classify⟩
    ∃ w', w.step? (.complete ticket ticket.sequence) = some w' ∧
      w.ring.complete ticket ticket.sequence = (w'.ring, .ready completed) ∧
      w'.issued = w.issued ∧ w'.Keeps config completed := by
  have hc := Ring.complete_of_reports ha.honoured ha.reports
  rw [if_pos hf] at hc
  simp only [step?, if_pos ha.live, hc]
  exact ⟨_, rfl, rfl, rfl, ha.config_eq, List.mem_cons_self, ha.reports.status⟩

/-! ## Delivery -/

/--
**What a host is told about its request.** In a session that takes fewer than `2 ^ 32` requests, take
any request that is accepted, and let then anything happen that is neither about its ticket nor about
its slot. As long as no status was reported in the slot, the ticket is pending, whatever the slot
held before. When the coprocessor reports a status there, and it always can, the ticket is pending if
the status is not final, and otherwise completes with exactly this status and the verdict on it. From
then on the status can be read again until the completed slot is given back.
-/
theorem status_delivered (config : ChannelConfig) (first : UInt32) (before : List Action)
    (w : Session) (hr : (start config first).run? before = some w)
    (request : CaptureRequest) (info : Option MemoryInfo) (ring : Ring) (ticket : Ticket)
    (hs : w.ring.submit request info = .ok (ring, ticket)) :
    ∀ early w₁,
      (∀ action ∈ early, action.Spares config ticket ∨
        ∃ status, action = .report config ticket.index status) →
      w.run? (.submit request info :: early) = some w₁ → w₁.issued.length < UInt32.size →
      -- Nothing was reported.
      ((∀ action ∈ early, action.Spares config ticket) →
        w₁.ring.complete ticket ticket.sequence = (w₁.ring, .pending ticket)) ∧
      -- A status is reported.
      ∀ status, ∃ w₂, w₁.step? (.report config ticket.index status) = some w₂ ∧
        w₁.ring.writeStatus? ticket.index status = some w₂.ring ∧
        ∀ late w₃, (∀ action ∈ late, action.Spares config ticket) →
          w₂.run? late = some w₃ → w₃.issued.length < UInt32.size →
          (status.code = .unknown →
            w₃.ring.complete ticket ticket.sequence = (w₃.ring, .pending ticket)) ∧
          (status.code ≠ .unknown →
            let completed := ⟨ticket.index, ticket.sequence, status, status.classify⟩
            ∃ w₄, w₃.step? (.complete ticket ticket.sequence) = some w₄ ∧
              w₃.ring.complete ticket ticket.sequence = (w₄.ring, .ready completed) ∧
              -- The status is collected and not yet given back.
              ∀ rest w₅, (∀ action ∈ rest, action.Retains config completed) →
                w₄.run? rest = some w₅ → w₅.issued.length < UInt32.size →
                w₅.ring.readStatus completed = .ok status) := by
  intro early w₁ hearly hrun hl₁
  obtain ⟨w₀, hstep, hrun⟩ := run?_cons_eq_some.mp hrun
  have hl₀ := Nat.lt_of_le_of_lt (run?_issued_le hrun) hl₁
  have hl := Nat.lt_of_le_of_lt (step?_move hstep).issued_le hl₀
  have h := (consistent_start config first).run? hr hl
  have h₀ := h.step hstep hl₀
  have h₁ := h₀.run? hrun hl₁
  have ha₀ : w₀.Awaits config ticket {} := by
    rw [← run?_config hr]
    exact awaits_submitted h.owned hs hstep
  refine ⟨?_, ?_⟩
  · intro hspares
    have ha₁ := ha₀.run? h₀ hspares hrun hl₁
    exact Ring.complete_of_reports ha₁.honoured ha₁.reports
  · intro status
    obtain ⟨old, ha₁⟩ := ha₀.run?_reported h₀ hearly hrun hl₁
    have hreport := ha₁.step?_report h₁.owned status
    have hi := h₁.owned.wellFormed.lt_depth (Ring.honours_iff.mp ha₁.honoured)
    refine ⟨_, hreport, h₁.owned.wellFormed.writeStatus?_eq hi status, ?_⟩
    intro late w₃ hlate hrun₃ hl₃
    have hl₂ := Nat.lt_of_le_of_lt (run?_issued_le hrun₃) hl₃
    have h₂ := h₁.step hreport hl₂
    have ha₃ := (ha₁.report h₁.owned status).run? h₂ hlate hrun₃ hl₃
    have h₃ := h₂.run? hrun₃ hl₃
    refine ⟨?_, ?_⟩
    · intro hunknown
      have hf : ¬ status.isFinal = true := by
        simp [CaptureStatus.isFinal, StatusCode.isFinal, hunknown]
      exact (Ring.complete_of_reports ha₃.honoured ha₃.reports).trans (if_neg hf)
    · intro hknown
      have hf : status.isFinal = true := by
        simpa [CaptureStatus.isFinal, StatusCode.isFinal] using hknown
      obtain ⟨w₄, hcollect, hready, hissued, hk₄⟩ := ha₃.collect hf
      refine ⟨w₄, hcollect, hready, ?_⟩
      intro rest w₅ hrest hrun₅ hl₅
      have h₄ := h₃.step hcollect (by rw [hissued]; exact hl₃)
      exact (hk₄.run? h₄ hrest hrun₅ hl₅).status

/-- The slot 0 was used and released, and the next two requests wait. -/
def firstSlotReleased : List Action :=
  [.submit {} none, .report .threeSlots 0 { code := .success }, .complete ⟨0, 0, none⟩ 0,
    .release ⟨0, 0, { code := .success }, CaptureStatus.classify { code := .success }⟩,
    .submit {} none, .submit {} none]

/-- The next request for the slot 0 is pending while the old status is in memory, and then fails. -/
theorem status_delivered_in_reused_slot :
    ∃ w w₁ w₂ w₃ w₄ w₅ : Session, (start .threeSlots 0).run? firstSlotReleased = some w ∧
      w.run? [.submit {} none, .complete ⟨1, 1, none⟩ 7, .beginReset] = some w₁ ∧
      w₁.ring.complete ⟨0, 3, none⟩ 3 = (w₁.ring, .pending ⟨0, 3, none⟩) ∧
      w₁.step? (.report .threeSlots 0 { code := .csimuxFrame }) = some w₂ ∧
      w₂.run? [.report .threeSlots 1 { code := .success }] = some w₃ ∧
      w₃.ring.complete ⟨0, 3, none⟩ 3 = (w₄.ring, .ready ⟨0, 3, { code := .csimuxFrame },
        ⟨.corrupted, [.status .csimuxFrame], false⟩⟩) ∧
      w₄.run? [.acknowledgeReset] = some w₅ ∧
      w₅.ring.readStatus ⟨0, 3, { code := .csimuxFrame },
        ⟨.corrupted, [.status .csimuxFrame], false⟩⟩ = .ok { code := .csimuxFrame } := by
  have hrun : ((start .threeSlots 0).run? (firstSlotReleased ++
      ([.submit {} none, .complete ⟨1, 1, none⟩ 7, .beginReset] ++
        (.report .threeSlots 0 { code := .csimuxFrame } ::
          ([.report .threeSlots 1 { code := .success }] ++
            (.complete ⟨0, 3, none⟩ 3 :: [.acknowledgeReset])))))).map (·.issued.length) =
      some 4 := by
    decide +kernel
  have hticket : ((start .threeSlots 0).run? firstSlotReleased).bind
      (fun w => (w.ring.submit {} none).toOption.map (·.2)) = some ⟨0, 3, none⟩ := by
    decide +kernel
  obtain ⟨w₅, hrun, hl₅⟩ := Option.map_eq_some_iff.mp hrun
  obtain ⟨w, hr, hrun⟩ := run?_append_eq_some.mp hrun
  obtain ⟨w₁, hr₁, hrun⟩ := run?_append_eq_some.mp hrun
  obtain ⟨w₂, hr₂, hrun⟩ := run?_cons_eq_some.mp hrun
  obtain ⟨w₃, hr₃, hrun⟩ := run?_append_eq_some.mp hrun
  obtain ⟨w₄, hr₄, hr₅⟩ := run?_cons_eq_some.mp hrun
  have hl₃ := Nat.le_trans (step?_move hr₄).issued_le (run?_issued_le hr₅)
  have hl₁ := Nat.le_trans (step?_move hr₂).issued_le (run?_issued_le hr₃)
  have hsize : 4 < UInt32.size := by decide
  rw [hr, Option.bind_some] at hticket
  cases hs : w.ring.submit {} none with
  | error error =>
    rw [hs] at hticket
    cases hticket
  | ok p =>
    obtain ⟨ring, ticket⟩ := p
    rw [hs] at hticket
    cases hticket
    obtain ⟨hpending, hreported⟩ := status_delivered .threeSlots 0 _ w hr {} none ring _ hs
      [.complete ⟨1, 1, none⟩ 7, .beginReset] w₁ (by simp [Action.Spares]) hr₁ (by omega)
    obtain ⟨w₂', hr₂', -, hlater⟩ := hreported { code := .csimuxFrame }
    cases hr₂.symm.trans hr₂'
    obtain ⟨-, hready⟩ := hlater _ w₃ (by simp [Action.spares_report]) hr₃ (by omega)
    obtain ⟨w₄', hr₄', hcollected, hkept⟩ := hready (by decide)
    cases hr₄.symm.trans hr₄'
    exact ⟨w, w₁, w₂, w₃, w₄, w₅, hr, hr₁, hpending (by simp [Action.Spares]), hr₂, hr₃,
      hcollected, hr₅, hkept _ w₅ (by simp [Action.Retains]) hr₅ (by omega)⟩

end Session

end CaptureProtocol
