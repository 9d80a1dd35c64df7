import CaptureProtocol.Ring.Basic

/-!
# Runs of a ring

`Action` is everything that the host and the coprocessor can do to a ring, `perform` is the ring
after one action and `run` the ring after a list of them, in whatever order. Tickets and completed
slots are taken as they come: what is proved here holds of a host that forges or repeats them.

* `submit_of_resetting`, `submit_of_held`, `submit_of_free`: what decides on a submission, in turn.
* `complete_cases`: the five outcomes of a completion, with what each one presupposes.
* `perform_change`: **everything an action can do to a ring**. Invariants are proved by cases on
  `Change` and never by unfolding an operation.
* `Change.slotState?_cases`: where the state of a slot comes from.
* `wellFormed_run`: the two memories and the slot table keep the sizes of the configuration.
-/

set_option autoImplicit false

namespace CaptureProtocol

/-- One thing that the host or the coprocessor does to a ring. -/
inductive Action where
  | submit (request : CaptureRequest) (info : Option MemoryInfo)
  | complete (ticket : Ticket) (notice : UInt32)
  | readStatus (completed : CompletedSlot)
  | release (completed : CompletedSlot)
  | beginReset
  | acknowledgeReset
  /-- The coprocessor writes bytes anywhere into the request ring. -/
  | write (offset : Nat) (bytes : Bytes)
  deriving DecidableEq

namespace Action

/-- Whether the action is the host's. -/
def isHost : Action → Bool
  | write _ _ => false
  | _ => true

/-- The coprocessor reports a status in a slot. -/
def report (config : ChannelConfig) (index : Nat) (status : CaptureStatus) : Action :=
  .write (index * config.requestBytes + statusOffset) status.encode

end Action

namespace ChannelConfig

/-- The channel of the worked examples, with three slots, which do not divide `2 ^ 32`. -/
def threeSlots : ChannelConfig where
  settings := { requests := 0x80000000, memoryInfo := 0x80010000, queueDepth := 3 }
  accepted := by decide

end ChannelConfig

namespace Ring

/-- The ring after an action; a refused one leaves it as it is. -/
def perform (r : Ring) : Action → Ring
  | .submit request info =>
    match r.submit request info with
    | .ok (r', _) => r'
    | .error _ => r
  | .complete ticket notice => (r.complete ticket notice).1
  | .readStatus _ => r
  | .release completed => r.release completed
  | .beginReset => r.beginReset
  | .acknowledgeReset => r.acknowledgeReset
  | .write offset bytes => (r.writeMemory? offset bytes).getD r

/-- The ring after some actions, in order. -/
def run (r : Ring) (actions : List Action) : Ring := actions.foldl perform r

/-- The request that a slot holds, whether with the coprocessor or completed. -/
def holder? (r : Ring) (index : Nat) : Option UInt32 := (r.slotState? index).bind SlotState.sequence?

/-- The bytes of a memory-info slot. -/
def infoSlot (r : Ring) (index : Nat) : Bytes :=
  r.memoryInfo.slice (index * r.config.memoryInfoBytes) r.config.memoryInfoBytes

/-! ## What the operations do -/

theorem submit_of_resetting {r : Ring} (hr : r.resetting = true) (request : CaptureRequest)
    (info : Option MemoryInfo) :
    r.submit request info = .error (.channelResetting r.inFlight) := by
  simp [submit, hr]

theorem submit_of_held {r : Ring} (hr : r.resetting = false) {sequence : UInt32}
    (hs : r.holder? r.nextSlot = some sequence) (request : CaptureRequest)
    (info : Option MemoryInfo) :
    r.submit request info = .error (.slotBusy r.nextSlot sequence) := by
  unfold holder? at hs
  simp only [submit, hr, hs, Bool.false_eq_true, if_false]

/-- Outside a reset, and for a free slot, only the rules decide. -/
theorem submit_of_free {r : Ring} (hr : r.resetting = false) (hs : r.holder? r.nextSlot = none)
    (request : CaptureRequest) (info : Option MemoryInfo) :
    r.submit request info =
      CaptureError.ofRule (Rule.enforce (r.submissionRules request info) fun _ =>
        (r.place request info, ⟨r.nextSlot, r.nextSequence, request.timeout?⟩)) := by
  unfold holder? at hs
  simp only [submit, hr, hs, Bool.false_eq_true, if_false]

theorem submit_eq_ok {r r' : Ring} {request : CaptureRequest} {info : Option MemoryInfo}
    {ticket : Ticket} (h : r.submit request info = .ok (r', ticket)) :
    r.resetting = false ∧ r.holder? r.nextSlot = none ∧
      Rule.Accepted (r.submissionRules request info) ∧ r' = r.place request info ∧
      ticket = ⟨r.nextSlot, r.nextSequence, request.timeout?⟩ := by
  cases hr : r.resetting with
  | true =>
    rw [submit_of_resetting hr] at h
    cases h
  | false =>
    cases hs : r.holder? r.nextSlot with
    | some sequence =>
      rw [submit_of_held hr hs] at h
      cases h
    | none =>
      rw [submit_of_free hr hs] at h
      obtain ⟨ha, hp⟩ := Rule.enforce_eq_ok.mp (CaptureError.ofRule_eq_ok.mp h)
      cases hp
      exact ⟨rfl, rfl, ha, rfl, rfl⟩

theorem submit_eq_slotBusy {r : Ring} {request : CaptureRequest} {info : Option MemoryInfo}
    {index : Nat} {sequence : UInt32}
    (h : r.submit request info = .error (.slotBusy index sequence)) :
    index = r.nextSlot ∧ r.holder? r.nextSlot = some sequence := by
  cases hr : r.resetting with
  | true =>
    rw [submit_of_resetting hr] at h
    cases h
  | false =>
    cases hs : r.holder? r.nextSlot with
    | some busy =>
      rw [submit_of_held hr hs] at h
      cases h
      exact ⟨rfl, rfl⟩
    | none =>
      rw [submit_of_free hr hs, Rule.enforce_const] at h
      cases hb : Rule.firstBroken (r.submissionRules request info) with
      | none => rw [hb] at h; cases h
      | some broken => rw [hb] at h; cases h

theorem honours_iff {r : Ring} {ticket : Ticket} :
    r.honours ticket = true ↔ r.slotState? ticket.index = some (.coprocessor ticket.sequence) := by
  simp [honours]

theorem complete_of_stale {r : Ring} {ticket : Ticket}
    (h : r.slotState? ticket.index ≠ some (.coprocessor ticket.sequence)) (notice : UInt32) :
    r.complete ticket notice =
      (r, .rejected (.sequenceMismatch ticket.index ticket.sequence (r.occupant ticket.index))
        none) := by
  have hh : r.honours ticket = false := Bool.eq_false_iff.mpr (mt honours_iff.mp h)
  simp only [complete, hh, Bool.not_false, if_true]

theorem statusFor_eq_ok_iff {r : Ring} {ticket : Ticket} {status : CaptureStatus} :
    r.statusFor ticket = .ok status ↔
      storedSequence (r.slot ticket.index) = .ok ticket.sequence ∧
        decodeStatus (r.slot ticket.index) = .ok status := by
  unfold statusFor
  cases hfound : storedSequence (r.slot ticket.index) with
  | error error => exact iff_of_false nofun fun h => nomatch h.1
  | ok found =>
    show (if found = ticket.sequence then decodeStatus (r.slot ticket.index)
      else .error (.sequenceMismatch ticket.index ticket.sequence found)) = .ok status ↔ _
    rw [Except.ok.injEq]
    split
    · next heq => rw [and_iff_right heq]
    · next hne => exact iff_of_false nofun fun h => hne h.1

/-- What an honoured ticket gets, with its own notice, for the status in its slot. -/
theorem complete_of_status {r : Ring} {ticket : Ticket} {status : CaptureStatus}
    (hh : r.honours ticket = true) (hs : r.statusFor ticket = .ok status) :
    r.complete ticket ticket.sequence =
      if status.isFinal then
        (r.finish ticket, .ready ⟨ticket.index, ticket.sequence, status, status.classify⟩)
      else (r, .pending ticket) := by
  unfold complete
  rw [hh, hs]
  simp

/-- The outcomes of a completion: what each presupposes and what it gives. -/
inductive Completion (r : Ring) (ticket : Ticket) (notice : UInt32) :
    Ring × CompletionResult → Prop where
  /-- The slot is no longer the ticket's, which is used up. -/
  | stale : r.honours ticket = false →
      Completion r ticket notice
        (r, .rejected (.sequenceMismatch ticket.index ticket.sequence (r.occupant ticket.index))
          none)
  /-- The notice is for another request. -/
  | misnamed : r.honours ticket = true → notice ≠ ticket.sequence →
      Completion r ticket notice
        (r, .rejected (.noticeMismatch ticket.sequence notice) (some ticket))
  /-- The memory of the slot cannot be made out. -/
  | unreadable {error : CaptureError} : r.honours ticket = true → notice = ticket.sequence →
      r.statusFor ticket = .error error →
      Completion r ticket notice (r, .rejected error (some ticket))
  /-- The coprocessor has not finished. -/
  | pending {status : CaptureStatus} : r.honours ticket = true → notice = ticket.sequence →
      r.statusFor ticket = .ok status → status.isFinal = false →
      Completion r ticket notice (r, .pending ticket)
  /-- The request is completed. -/
  | ready {status : CaptureStatus} : r.honours ticket = true → notice = ticket.sequence →
      r.statusFor ticket = .ok status → status.isFinal = true →
      Completion r ticket notice
        (r.finish ticket, .ready ⟨ticket.index, ticket.sequence, status, status.classify⟩)

theorem complete_cases (r : Ring) (ticket : Ticket) (notice : UInt32) :
    Completion r ticket notice (r.complete ticket notice) := by
  unfold complete
  split
  · rename_i h
    exact .stale (by simpa using h)
  rename_i h
  have hh : r.honours ticket = true := by simpa using h
  split
  · rename_i hn
    exact .misnamed hh hn
  rename_i hn
  have hn : notice = ticket.sequence := Classical.not_not.mp hn
  split
  · rename_i error hs
    exact .unreadable hh hn hs
  · rename_i status hs
    split
    · rename_i hf
      exact .ready hh hn hs hf
    · rename_i hf
      exact .pending hh hn hs (by simpa using hf)

/-- Everything that an action can do to a ring, with what it takes. -/
inductive Change (r : Ring) : Action → Ring → Prop where
  /-- Nothing happens: the action is refused, or only reads. -/
  | idle (action : Action) : Change r action r
  /-- A request goes into the next slot. -/
  | placed {request : CaptureRequest} {info : Option MemoryInfo} : r.resetting = false →
      r.holder? r.nextSlot = none → Rule.Accepted (r.submissionRules request info) →
      Change r (.submit request info) (r.place request info)
  /-- A final status is collected. -/
  | finished {ticket : Ticket} {notice : UInt32} {status : CaptureStatus} :
      r.honours ticket = true → r.statusFor ticket = .ok status → status.isFinal = true →
      Change r (.complete ticket notice) (r.finish ticket)
  /-- A completed slot is given back. -/
  | freed {completed : CompletedSlot} :
      r.slotState? completed.index = some (.completed completed.sequence) →
      Change r (.release completed) { r with slots := r.slots.set completed.index .free }
  /-- A reset begins. -/
  | resetting : r.inFlight ≠ 0 → Change r .beginReset { r with resetting := true }
  /-- The coprocessor has lost its slots. -/
  | reclaimed : Change r .acknowledgeReset r.acknowledgeReset
  /-- The coprocessor writes. -/
  | written {offset : Nat} {bytes : Bytes} : offset + bytes.length ≤ r.requests.length →
      Change r (.write offset bytes) { r with requests := r.requests.overwrite offset bytes }

theorem perform_change (r : Ring) (action : Action) : r.Change action (r.perform action) := by
  cases action with
  | submit request info =>
    unfold perform
    dsimp only
    split
    · rename_i r' ticket h
      obtain ⟨hr, hf, ha, rfl, -⟩ := submit_eq_ok h
      exact .placed hr hf ha
    · exact .idle _
  | complete ticket notice =>
    show r.Change _ (r.complete ticket notice).1
    have hc := r.complete_cases ticket notice
    generalize r.complete ticket notice = outcome at hc
    cases hc with
    | stale _ => exact .idle _
    | misnamed _ _ => exact .idle _
    | unreadable _ _ _ => exact .idle _
    | pending _ _ _ _ => exact .idle _
    | ready hh _ hs hf => exact .finished hh hs hf
  | readStatus completed => exact .idle _
  | release completed =>
    show r.Change _ (r.release completed)
    unfold release
    split
    · rename_i h
      exact .freed h
    · exact .idle _
  | beginReset =>
    show r.Change _ r.beginReset
    unfold beginReset
    split
    · exact .idle _
    · rename_i h
      exact .resetting h
  | acknowledgeReset => exact .reclaimed
  | write offset bytes =>
    show r.Change _ ((r.writeMemory? offset bytes).getD r)
    unfold writeMemory?
    split
    · rename_i h
      exact .written h
    · exact .idle _

/-! ## The slot table -/

theorem holder?_eq_some {r : Ring} {index : Nat} {sequence : UInt32} :
    r.holder? index = some sequence ↔
      r.slotState? index = some (.coprocessor sequence) ∨
        r.slotState? index = some (.completed sequence) := by
  unfold holder?
  cases h : r.slotState? index with
  | none => simp
  | some state => cases state <;> simp [SlotState.sequence?]

/-- Setting one slot of the table leaves the others as they are. -/
theorem getElem?_slots_set {r : Ring} {index : Nat} (h : index < r.slots.length)
    (state : SlotState) (i : Nat) :
    (r.slots.set index state)[i]? = if i = index then some state else r.slotState? i := by
  rw [List.getElem?_set]
  by_cases hi : i = index
  · subst hi
    rw [if_pos rfl, if_pos h, if_pos rfl]
  · rw [if_neg (Ne.symm hi), if_neg hi]
    rfl

/-- A slot of a table in which one was set is that one, or is as it was. -/
theorem slot_set_cases {r : Ring} {index i : Nat} {new state : SlotState}
    (h : (if i = index then some new else r.slotState? i) = some state) :
    (i = index ∧ new = state) ∨ (i ≠ index ∧ r.slotState? i = some state) := by
  by_cases hi : i = index
  · rw [if_pos hi] at h
    exact .inl ⟨hi, Option.some.inj h⟩
  · rw [if_neg hi] at h
    exact .inr ⟨hi, h⟩

/-- A slot that is not in the state of the one that is set is another one. -/
theorem slot_set_of_ne {r : Ring} {index i : Nat} {old new state : SlotState}
    (h : r.slotState? index = some old) (hi : r.slotState? i = some state) (hne : state ≠ old) :
    (if i = index then some new else r.slotState? i) = some state := by
  rw [if_neg, hi]
  rintro rfl
  rw [h] at hi
  exact hne (Option.some.inj hi).symm

theorem lt_length_of_slotState? {r : Ring} {index : Nat} {state : SlotState}
    (h : r.slotState? index = some state) : index < r.slots.length :=
  (List.getElem?_eq_some_iff.mp h).1

theorem slotState?_finish {r : Ring} {ticket : Ticket} (h : r.honours ticket = true) (i : Nat) :
    (r.finish ticket).slotState? i =
      if i = ticket.index then some (.completed ticket.sequence) else r.slotState? i :=
  getElem?_slots_set (lt_length_of_slotState? (honours_iff.mp h)) _ i

theorem slotState?_release {r : Ring} {completed : CompletedSlot}
    (h : r.slotState? completed.index = some (.completed completed.sequence)) (i : Nat) :
    (r.release completed).slotState? i = if i = completed.index then some .free else r.slotState? i := by
  unfold release
  rw [if_pos h]
  exact getElem?_slots_set (lt_length_of_slotState? h) _ i

theorem slotState?_beginReset (r : Ring) (i : Nat) :
    r.beginReset.slotState? i = r.slotState? i := by
  unfold beginReset
  split <;> rfl

theorem slotState?_acknowledgeReset (r : Ring) (i : Nat) :
    r.acknowledgeReset.slotState? i = (r.slotState? i).map SlotState.reclaimed :=
  List.getElem?_map

/-! ## Sizes -/

/-- The memories and the slot table have the sizes that the configuration gives them. -/
structure WellFormed (r : Ring) : Prop where
  requests : r.requests.length = r.config.requestRingBytes
  memoryInfo : r.memoryInfo.length = r.config.memoryInfoRingBytes
  slots : r.slots.length = r.config.depth.slots

theorem slot_end_le {index depth : Nat} (h : index < depth) (size : Nat) :
    index * size + size ≤ depth * size := by
  rw [← Nat.succ_mul]
  exact Nat.mul_le_mul_right size h

/-- Slots of one size in a row do not overlap. -/
theorem slots_disjoint {i j : Nat} (h : i ≠ j) (size : Nat) :
    i * size + size ≤ j * size ∨ j * size + size ≤ i * size := by
  rcases Nat.lt_or_gt_of_ne h with h | h
  · exact .inl (slot_end_le h size)
  · exact .inr (slot_end_le h size)

theorem nextSlot_lt (r : Ring) : r.nextSlot < r.config.depth.slots :=
  r.config.depth.slotOf_lt r.nextSequence

theorem WellFormed.slot_fits {r : Ring} (h : r.WellFormed) {index : Nat}
    (hi : index < r.config.depth.slots) :
    r.slotStart index + r.config.requestBytes ≤ r.requests.length := by
  rw [h.requests]
  exact slot_end_le hi _

theorem WellFormed.infoSlot_fits {r : Ring} (h : r.WellFormed) {index : Nat}
    (hi : index < r.config.depth.slots) :
    index * r.config.memoryInfoBytes + r.config.memoryInfoBytes ≤ r.memoryInfo.length := by
  rw [h.memoryInfo]
  exact slot_end_le hi _

theorem WellFormed.length_slot {r : Ring} (h : r.WellFormed) {index : Nat}
    (hi : index < r.config.depth.slots) : (r.slot index).length = r.config.requestBytes :=
  Bytes.length_slice_of_le (h.slot_fits hi)

theorem WellFormed.length_infoSlot {r : Ring} (h : r.WellFormed) {index : Nat}
    (hi : index < r.config.depth.slots) : (r.infoSlot index).length = r.config.memoryInfoBytes :=
  Bytes.length_slice_of_le (h.infoSlot_fits hi)

theorem WellFormed.descriptor_le_slot {r : Ring} (h : r.WellFormed) {index : Nat}
    (hi : index < r.config.depth.slots) : 384 ≤ (r.slot index).length := by
  rw [h.length_slot hi]
  exact r.config.descriptor_le

theorem WellFormed.lt_depth {r : Ring} (h : r.WellFormed) {index : Nat} {state : SlotState}
    (hs : r.slotState? index = some state) : index < r.config.depth.slots := by
  rw [← h.slots]
  exact lt_length_of_slotState? hs

theorem WellFormed.exists_slotState? {r : Ring} (h : r.WellFormed) {index : Nat}
    (hi : index < r.config.depth.slots) : ∃ state, r.slotState? index = some state :=
  ⟨_, List.getElem?_eq_getElem (by rw [h.slots]; exact hi)⟩

/-- A slot of the table that no request holds is free. -/
theorem WellFormed.slotState?_of_holder? {r : Ring} (h : r.WellFormed) {index : Nat}
    (hi : index < r.config.depth.slots) (hf : r.holder? index = none) :
    r.slotState? index = some .free := by
  obtain ⟨state, hs⟩ := h.exists_slotState? hi
  unfold holder? at hf
  rw [hs] at hf ⊢
  cases state with
  | free => rfl
  | coprocessor sequence => cases hf
  | completed sequence => cases hf

theorem WellFormed.slotState?_place {r : Ring} (h : r.WellFormed) (request : CaptureRequest)
    (info : Option MemoryInfo) (i : Nat) :
    (r.place request info).slotState? i =
      if i = r.nextSlot then some (.coprocessor r.nextSequence) else r.slotState? i :=
  getElem?_slots_set (by rw [h.slots]; exact r.nextSlot_lt) _ i

/-- The bytes put into a request slot fill it. -/
theorem length_placedRequest (r : Ring) (request : CaptureRequest) :
    (request.slotBytes r.config.requestBytes).length = r.config.requestBytes :=
  request.length_slotBytes r.config.descriptor_le

/-- The bytes put into a memory-info slot fill it. -/
theorem length_placedInfo (r : Ring) (info : Option MemoryInfo) :
    (memoryInfoSlot info r.config.memoryInfoBytes).length = r.config.memoryInfoBytes := by
  have h := r.config.memoryInfo_le
  cases info with
  | none => exact Bytes.length_zeros _
  | some info =>
    rw [memoryInfoSlot, List.length_append, MemoryInfo.length_bytes, Bytes.length_zeros,
      MemoryInfo.size_codec]
    omega

theorem slotState?_startingAt {config : ChannelConfig} {first : UInt32} {i : Nat}
    {state : SlotState} (h : (startingAt config first).slotState? i = some state) :
    state = .free :=
  List.eq_of_mem_replicate (List.mem_of_getElem? h)

theorem wellFormed_startingAt (config : ChannelConfig) (sequence : UInt32) :
    (startingAt config sequence).WellFormed :=
  ⟨Bytes.length_zeros _, Bytes.length_zeros _, List.length_replicate⟩

theorem Change.config_eq {r r' : Ring} {action : Action} (h : r.Change action r') :
    r'.config = r.config := by
  cases h <;> rfl

theorem Change.wellFormed {r r' : Ring} {action : Action} (hw : r.WellFormed)
    (h : r.Change action r') : r'.WellFormed := by
  cases h with
  | idle => exact hw
  | placed _ _ _ =>
    have hr := hw.slot_fits r.nextSlot_lt
    have hm := hw.infoSlot_fits r.nextSlot_lt
    refine ⟨?_, ?_, ?_⟩
    · exact (Bytes.length_overwrite (by rw [length_placedRequest]; exact hr)).trans hw.requests
    · exact (Bytes.length_overwrite (by rw [length_placedInfo]; exact hm)).trans hw.memoryInfo
    · exact List.length_set.trans hw.slots
  | finished _ _ _ => exact ⟨hw.requests, hw.memoryInfo, List.length_set.trans hw.slots⟩
  | freed _ => exact ⟨hw.requests, hw.memoryInfo, List.length_set.trans hw.slots⟩
  | resetting _ => exact ⟨hw.requests, hw.memoryInfo, hw.slots⟩
  | reclaimed => exact ⟨hw.requests, hw.memoryInfo, (List.length_map _).trans hw.slots⟩
  | written hb => exact ⟨(Bytes.length_overwrite hb).trans hw.requests, hw.memoryInfo, hw.slots⟩

/-- A slot is what it was before an action, or it was freed, given to a new request, or completed. -/
theorem Change.slotState?_cases {r r' : Ring} {action : Action} (hw : r.WellFormed)
    (h : r.Change action r') {i : Nat} {state : SlotState} (hi : r'.slotState? i = some state) :
    r.slotState? i = some state ∨ state = .free ∨
      (i = r.nextSlot ∧ state = .coprocessor r.nextSequence ∧
        r'.nextSequence = r.nextSequence + 1) ∨
      ∃ sequence, r.slotState? i = some (.coprocessor sequence) ∧ state = .completed sequence := by
  cases h with
  | placed _ _ _ =>
    rw [hw.slotState?_place] at hi
    rcases slot_set_cases hi with ⟨hin, rfl⟩ | ⟨-, hi⟩
    · exact .inr (.inr (.inl ⟨hin, rfl, rfl⟩))
    · exact .inl hi
  | finished hh _ _ =>
    rw [slotState?_finish hh] at hi
    rcases slot_set_cases hi with ⟨rfl, rfl⟩ | ⟨-, hi⟩
    · exact .inr (.inr (.inr ⟨_, honours_iff.mp hh, rfl⟩))
    · exact .inl hi
  | freed hc =>
    have hs := getElem?_slots_set (lt_length_of_slotState? hc) .free i
    rcases slot_set_cases (hs.symm.trans hi) with ⟨-, rfl⟩ | ⟨-, hi⟩
    · exact .inr (.inl rfl)
    · exact .inl hi
  | reclaimed =>
    rw [slotState?_acknowledgeReset] at hi
    obtain ⟨old, hold, rfl⟩ := Option.map_eq_some_iff.mp hi
    cases old with
    | coprocessor _ => exact .inr (.inl rfl)
    | free => exact .inl hold
    | completed _ => exact .inl hold
  | _ => exact .inl hi

/-- The next number moves on only when a free slot is taken. -/
theorem Change.nextSequence_cases {r r' : Ring} {action : Action} (h : r.Change action r') :
    r'.nextSequence = r.nextSequence ∨
      (r.holder? r.nextSlot = none ∧ r'.nextSequence = r.nextSequence + 1) := by
  cases h with
  | placed _ hf _ => exact .inr ⟨hf, rfl⟩
  | _ => exact .inl rfl

/-! ## Runs -/

/-- What an action keeps, a run keeps. -/
theorem run_induction {P : Ring → Prop}
    (step : ∀ {r r' : Ring} {action : Action}, P r → r.Change action r' → P r')
    (actions : List Action) {r : Ring} (h : P r) : P (r.run actions) := by
  induction actions generalizing r with
  | nil => exact h
  | cons action actions ih => exact ih (step h (r.perform_change action))

theorem config_run (r : Ring) (actions : List Action) : (r.run actions).config = r.config :=
  run_induction (P := fun r' => r'.config = r.config)
    (fun h hc => hc.config_eq.trans h) actions rfl

/-- **Every ring that a run leads to has the sizes of its configuration.** -/
theorem wellFormed_run (config : ChannelConfig) (first : UInt32) (actions : List Action) :
    ((startingAt config first).run actions).WellFormed :=
  run_induction (fun h hc => hc.wellFormed h) actions (wellFormed_startingAt config first)

end Ring

end CaptureProtocol
