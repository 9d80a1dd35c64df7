import CaptureProtocol.Proofs.Ring.InPlace

/-!
# Faults of a ring

A ring slices its two memories and indexes its slot table without checks, with numbers that come
from its configuration and from tickets. Here are its operations step by step, as `submitChecked`
is, with a fault for a slice or an index out of bounds, for an offset that does not fit in a word,
for a count of requests that goes below zero, and for a record that is found too short where its
length is taken for granted. Resets only touch the slot table as a whole and cannot fault.

* `WellFormed.run_statusChecked`, `WellFormed.occupantChecked_eq`: the memory of a slot is read
  without a fault, whatever the coprocessor left there.
* `Accounted.run_completeChecked`, `WellFormed.run_readStatusChecked`,
  `WellFormed.run_releaseChecked`: the operations do not fault on a slot that the ring has.
* `Issues.index_lt`, `HandsOut.index_lt`: what a ring gives out names such a slot.
* `never_faults`: **no ring faults**, wherever a run led it.
-/

set_option autoImplicit false

namespace CaptureProtocol

namespace Checked

variable {α : Type}

def minus (a b : Nat) : Checked Nat := if b ≤ a then pure (a - b) else fault

/-- What is read where the bytes must be there: that they are too few is a fault. -/
def fitting (x : Checked α) : Checked α := ExceptT.mk <| x.run.bind fun
  | .error (.layoutMismatch ..) => none
  | result => some result

/-- What code gives, an error being a value like any other. -/
def outcome (x : Checked α) : Checked (Except CaptureError α) := ExceptT.lift x.run

theorem run_fitting {x : Checked α} {result : Except CaptureError α} (h : x.run = some result)
    (hfit : ¬ Misfits result) : (fitting x).run = some result := by
  show x.run.bind _ = _
  rw [h]
  cases result with
  | ok a => rfl
  | error e =>
    cases e with
    | layoutMismatch record expected actual => exact absurd ⟨record, expected, actual, rfl⟩ hfit
    | _ => rfl

theorem outcome_eq {x : Checked α} {result : Except CaptureError α} (h : x.run = some result) :
    outcome x = pure result := by
  rw [outcome, h]
  rfl

end Checked

open Checked

namespace Ring

/-! ## The operations step by step -/

def startingAtChecked (config : ChannelConfig) (sequence : UInt32) : Checked Ring := do
  let requestRing ← word (config.depth.slots * config.requestBytes)
  let memoryInfoRing ← word (config.depth.slots * config.memoryInfoBytes)
  pure {
    config := config
    requests := Bytes.zeros requestRing
    memoryInfo := Bytes.zeros memoryInfoRing
    slots := List.replicate config.depth.slots .free
    nextSequence := sequence
    inFlight := 0
    resetting := false }

/-- The bytes of a request slot. -/
def slotChecked (r : Ring) (index : Nat) : Checked Bytes := do
  let (start, stop) ← slotRange index r.config.requestBytes
  range r.requests start stop

/-- The sequence number at the front of a slot. -/
def storedSequenceChecked (slot : Bytes) : Checked UInt32 :=
  (Cursor.take .u32).within descriptorRecord 0 4 slot

def occupantChecked (r : Ring) (index : Nat) : Checked UInt32 :=
  match (r.slotState? index).bind SlotState.sequence? with
  | some sequence => pure sequence
  | none => do
    let slot ← r.slotChecked index
    fitting (storedSequenceChecked slot)

def statusChecked (slot : Bytes) (ticket : Ticket) : Checked CaptureStatus := do
  let found ← fitting (storedSequenceChecked slot)
  if found = ticket.sequence then fitting (decodeStatusChecked slot)
  else throw (.sequenceMismatch ticket.index ticket.sequence found)

def completeChecked (r : Ring) (ticket : Ticket) (notice : UInt32) :
    Checked (Ring × CompletionResult) :=
  if r.slotState? ticket.index = some (.coprocessor ticket.sequence) then
    if notice ≠ ticket.sequence then
      pure (r, .rejected (.noticeMismatch ticket.sequence notice) (some ticket))
    else do
      let slot ← r.slotChecked ticket.index
      match ← outcome (statusChecked slot ticket) with
      | .error error => pure (r, .rejected error (some ticket))
      | .ok status =>
        if status.isFinal then do
          let slots ← setEntry r.slots ticket.index (.completed ticket.sequence)
          let inFlight ← minus r.inFlight 1
          pure ({ r with
              slots := slots
              inFlight := inFlight
              resetting := r.resetting && inFlight != 0 },
            .ready ⟨ticket.index, ticket.sequence, status, status.classify⟩)
        else pure (r, .pending ticket)
  else do
    let found ← r.occupantChecked ticket.index
    pure (r, .rejected (.sequenceMismatch ticket.index ticket.sequence found) none)

def readStatusChecked (r : Ring) (completed : CompletedSlot) : Checked CaptureStatus := do
  let slot ← r.slotChecked completed.index
  fitting (decodeStatusChecked slot)

def releaseChecked (r : Ring) (completed : CompletedSlot) : Checked Ring := do
  let state ← entry r.slots completed.index
  if state = .completed completed.sequence then do
    let slots ← setEntry r.slots completed.index .free
    pure { r with slots := slots }
  else pure r

/-- One action step by step. Neither a reset nor the coprocessor does anything that may fault. -/
def performChecked (r : Ring) : Action → Checked Ring
  | .submit request info => do
    match ← outcome (r.submitChecked request info) with
    | .ok (r', _) => pure r'
    | .error _ => pure r
  | .complete ticket notice => do
    let (r', _) ← r.completeChecked ticket notice
    pure r'
  | .readStatus completed => do
    let _ ← outcome (r.readStatusChecked completed)
    pure r
  | .release completed => r.releaseChecked completed
  | .beginReset => pure r.beginReset
  | .acknowledgeReset => pure r.acknowledgeReset
  | .write offset bytes => pure ((r.writeMemory? offset bytes).getD r)

def runChecked (r : Ring) (actions : List Action) : Checked Ring := actions.foldlM performChecked r

theorem run_startingAtChecked (config : ChannelConfig) (sequence : UInt32) :
    (startingAtChecked config sequence).run = some (.ok (startingAt config sequence)) := by
  obtain ⟨hrequests, hinfo⟩ := config.ringBytes_le
  unfold ChannelConfig.requestRingBytes at hrequests
  unfold ChannelConfig.memoryInfoRingBytes at hinfo
  rw [startingAtChecked, word_eq (by unfold UInt32.size; omega),
    word_eq (by unfold UInt32.size; omega)]
  rfl

/-! ## Reading a slot -/

theorem WellFormed.slotChecked_eq {r : Ring} (h : r.WellFormed) {index : Nat}
    (hi : index < r.config.depth.slots) : r.slotChecked index = pure (r.slot index) := by
  simp only [slotChecked, h.requestRange hi, pure_bind]
  exact range_eq (h.slot_fits hi)

theorem run_storedSequenceChecked (slot : Bytes) :
    (storedSequenceChecked slot).run = some (storedSequence slot) := by
  have h := Cursor.run_within Codec.size_u32 (by decide)
    (fun cursor a rest (h : Codec.u32.read cursor = some (a, rest)) => ⟨rest, Cursor.take_eq h⟩)
    descriptorRecord 0 slot
  exact h.trans (congrArg some (bind_pure _))

theorem not_misfits_storedSequence {slot : Bytes} (h : 384 ≤ slot.length) :
    ¬ Misfits (storedSequence slot) := by
  rintro ⟨_, _, _, herror⟩
  have hshort := ((Codec.decodeAt_eq_error_iff _ _ _ _ _).mp herror).1
  rw [Codec.size_u32] at hshort
  omega

theorem exists_storedSequence {slot : Bytes} (h : 384 ≤ slot.length) :
    ∃ sequence, storedSequence slot = .ok sequence := by
  cases hstored : storedSequence slot with
  | ok sequence => exact ⟨sequence, rfl⟩
  | error e =>
    obtain ⟨-, rfl⟩ := (Codec.decodeAt_eq_error_iff _ _ _ _ _).mp hstored
    exact absurd ⟨_, _, _, hstored⟩ (not_misfits_storedSequence h)

theorem not_misfits_decodeStatus {slot : Bytes} (h : 384 ≤ slot.length) :
    ¬ Misfits (decodeStatus slot) :=
  needsExactly_decodeStatus.long slot (by omega)

theorem WellFormed.run_statusChecked {r : Ring} (h : r.WellFormed) {ticket : Ticket}
    (hi : ticket.index < r.config.depth.slots) :
    (statusChecked (r.slot ticket.index) ticket).run = some (r.statusFor ticket) := by
  have hlen := h.descriptor_le_slot hi
  refine run_bind (run_fitting (run_storedSequenceChecked _) (not_misfits_storedSequence hlen))
    fun found _ => ?_
  by_cases hf : found = ticket.sequence
  · simp only [hf, if_true]
    exact run_fitting (run_decodeStatusChecked _) (not_misfits_decodeStatus hlen)
  · simp only [hf, if_false]
    rfl

/-- The sequence number of a stale slot is always there to be read. -/
theorem WellFormed.occupantChecked_eq {r : Ring} (h : r.WellFormed) {index : Nat}
    (hi : index < r.config.depth.slots) : r.occupantChecked index = pure (r.occupant index) := by
  unfold occupantChecked occupant
  cases (r.slotState? index).bind SlotState.sequence? with
  | some sequence => rfl
  | none =>
    have hfit := not_misfits_storedSequence (h.descriptor_le_slot hi)
    have hrun := run_fitting (run_storedSequenceChecked (r.slot index)) hfit
    obtain ⟨sequence, hstored⟩ := exists_storedSequence (h.descriptor_le_slot hi)
    rw [hstored] at hrun
    simp only [h.slotChecked_eq hi, pure_bind, hstored]
    exact hrun

/-! ## Operations on a slot that the ring has -/

theorem Accounted.run_completeChecked {r : Ring} (h : r.Accounted) {ticket : Ticket}
    (hi : ticket.index < r.config.depth.slots) (notice : UInt32) :
    (r.completeChecked ticket notice).run = some (.ok (r.complete ticket notice)) := by
  have hw := h.wellFormed
  have hslot : ticket.index < r.slots.length := by
    rw [hw.slots]
    exact hi
  have hstatus := outcome_eq (hw.run_statusChecked hi)
  have hcomplete := r.complete_cases ticket notice
  unfold completeChecked
  generalize r.complete ticket notice = result at hcomplete
  cases hcomplete with
  | stale hh =>
    have hs : ¬ r.slotState? ticket.index = some (.coprocessor ticket.sequence) := by
      rw [← honours_iff, hh]
      decide
    rw [if_neg hs, hw.occupantChecked_eq hi]
    rfl
  | misnamed hh hn =>
    rw [if_pos (honours_iff.mp hh), if_pos hn]
    rfl
  | unreadable hh hn hs =>
    rw [hs] at hstatus
    rw [if_pos (honours_iff.mp hh), if_neg (not_not.mpr hn), hw.slotChecked_eq hi, pure_bind,
      hstatus]
    rfl
  | pending hh hn hs hf =>
    rw [hs] at hstatus
    rw [if_pos (honours_iff.mp hh), if_neg (not_not.mpr hn), hw.slotChecked_eq hi, pure_bind,
      hstatus, pure_bind]
    simp only [hf]
    rfl
  | ready hh hn hs hf =>
    -- The count includes the request that is collected.
    have hcount : minus r.inFlight 1 = pure (r.inFlight - 1) := if_pos (h.inFlight_pos hh)
    rw [hs] at hstatus
    rw [if_pos (honours_iff.mp hh), if_neg (not_not.mpr hn), hw.slotChecked_eq hi, pure_bind,
      hstatus, pure_bind]
    simp only [hf, if_true, setEntry_eq hslot, hcount, pure_bind]
    rfl

theorem WellFormed.run_readStatusChecked {r : Ring} (h : r.WellFormed) {completed : CompletedSlot}
    (hi : completed.index < r.config.depth.slots) :
    (r.readStatusChecked completed).run = some (r.readStatus completed) := by
  simp only [readStatusChecked, h.slotChecked_eq hi, pure_bind]
  exact run_fitting (run_decodeStatusChecked _)
    (not_misfits_decodeStatus (h.descriptor_le_slot hi))

theorem WellFormed.run_releaseChecked {r : Ring} (h : r.WellFormed) {completed : CompletedSlot}
    (hi : completed.index < r.config.depth.slots) :
    (r.releaseChecked completed).run = some (.ok (r.release completed)) := by
  obtain ⟨state, hstate⟩ := h.exists_slotState? hi
  simp only [releaseChecked, release, entry_eq hstate, hstate, pure_bind,
    setEntry_eq (lt_length_of_slotState? hstate), Option.some.injEq]
  split <;> rfl

/-- The premise is needed: a ticket for a slot that the ring lacks is a fault. -/
example : ((startingAt .threeSlots 0).completeChecked ⟨3, 0, none⟩ 0).run.isNone = true := by
  decide +kernel

/-! ## What a ring gives out -/

/-- A run gives out a ticket, which may have been used up or become stale since. -/
def Issues (r : Ring) (actions : List Action) (ticket : Ticket) : Prop :=
  ∃ before request info after r', actions = before ++ .submit request info :: after ∧
    (r.run before).submit request info = .ok (r', ticket)

/-- A run gives out a completed slot, which may have been released since. -/
def HandsOut (r : Ring) (actions : List Action) (completed : CompletedSlot) : Prop :=
  ∃ before ticket notice after, actions = before ++ .complete ticket notice :: after ∧
    ((r.run before).complete ticket notice).2 = .ready completed

/-- A run has given out what an action uses. -/
def Gives (r : Ring) (actions : List Action) : Action → Prop
  | .complete ticket _ => r.Issues actions ticket
  | .readStatus completed | .release completed => r.HandsOut actions completed
  | _ => True

/-- Every action of a run uses what the run has given out before. -/
def Honest (r : Ring) (actions : List Action) : Prop :=
  ∀ before action after, actions = before ++ action :: after → r.Gives before action

variable {config : ChannelConfig} {first : UInt32} {actions : List Action}

theorem Issues.index_lt {ticket : Ticket} (h : (startingAt config first).Issues actions ticket) :
    ticket.index < config.depth.slots := by
  obtain ⟨before, request, info, after, r', -, hsubmit⟩ := h
  obtain ⟨-, -, -, -, rfl⟩ := submit_eq_ok hsubmit
  have hlt := ((startingAt config first).run before).nextSlot_lt
  rw [config_run] at hlt
  exact hlt

theorem HandsOut.index_lt {completed : CompletedSlot}
    (h : (startingAt config first).HandsOut actions completed) :
    completed.index < config.depth.slots := by
  obtain ⟨before, ticket, notice, after, -, hready⟩ := h
  have hc := ((startingAt config first).run before).complete_cases ticket notice
  generalize ((startingAt config first).run before).complete ticket notice = result at hc hready
  cases hc with
  | ready hh _ _ _ =>
    cases hready
    have hlt := (wellFormed_run config first before).lt_depth (honours_iff.mp hh)
    rw [config_run] at hlt
    exact hlt
  | _ => cases hready

/-! ## Whole runs -/

/-- An action that uses what the ring has given out does not fault. -/
theorem run_performChecked {action : Action}
    (h : (startingAt config first).Gives actions action) :
    let r := (startingAt config first).run actions
    (r.performChecked action).run = some (.ok (r.perform action)) := by
  intro r
  have ha : r.Accounted := accounted_run config first actions
  have hc : r.config = config := config_run (startingAt config first) actions
  cases action with
  | submit request info =>
    have hsubmit := outcome_eq (ha.run_submitChecked request info)
    simp only [performChecked, perform, hsubmit, pure_bind]
    cases r.submit request info <;> rfl
  | complete ticket notice =>
    have hcomplete : r.completeChecked ticket notice = pure (r.complete ticket notice) :=
      ha.run_completeChecked (hc ▸ h.index_lt) notice
    rw [performChecked, hcomplete]
    rfl
  | readStatus completed =>
    have hread := outcome_eq (ha.wellFormed.run_readStatusChecked (hc ▸ h.index_lt))
    simp only [performChecked, hread, pure_bind]
    rfl
  | release completed => exact ha.wellFormed.run_releaseChecked (hc ▸ h.index_lt)
  | beginReset => rfl
  | acknowledgeReset => rfl
  | write offset bytes => rfl

theorem Honest.of_concat {r : Ring} {action : Action} (h : r.Honest (actions ++ [action])) :
    r.Honest actions ∧ r.Gives actions action := by
  refine ⟨?_, h actions action [] rfl⟩
  rintro before action' after rfl
  exact h before action' (after ++ [action]) (by simp)

theorem run_runChecked (h : (startingAt config first).Honest actions) :
    ((startingAt config first).runChecked actions).run =
      some (.ok ((startingAt config first).run actions)) := by
  induction actions using List.reverseRecOn with
  | nil => rfl
  | append_singleton actions action ih =>
    obtain ⟨hbefore, hgives⟩ := h.of_concat
    rw [runChecked, List.foldlM_append, run_concat]
    have hrun : actions.foldlM performChecked (startingAt config first) =
        pure ((startingAt config first).run actions) := ih hbefore
    have hstep : ((startingAt config first).run actions).performChecked action =
        pure (((startingAt config first).run actions).perform action) := run_performChecked hgives
    rw [hrun, pure_bind, List.foldlM_cons, hstep]
    rfl

/--
**No ring faults.** A ring can be made for every configuration, and in every ring that a run leads
to, whatever the coprocessor wrote in it, no operation faults and each gives what it is modelled to
give: a submission of any request; the completion of any ticket that the ring gave out, be it stale
or used up, with any notice; and reading or releasing any completed slot that it gave out. So a run
that uses only what the ring gave out goes through step by step, resets included. The memories and
the slot table keep the sizes that the configuration gives them, at most 16 MiB for each memory.
-/
theorem never_faults (config : ChannelConfig) (first : UInt32) (actions : List Action) :
    (startingAtChecked config first).run = some (.ok (startingAt config first)) ∧
    let r := (startingAt config first).run actions
    (r.requests.length = config.depth.slots * config.requestBytes ∧
      r.requests.length ≤ 16 * 1024 * 1024) ∧
    (r.memoryInfo.length = config.depth.slots * config.memoryInfoBytes ∧
      r.memoryInfo.length ≤ 16 * 1024 * 1024) ∧
    r.slots.length = config.depth.slots ∧
    (∀ request info, (r.submitChecked request info).run = some (r.submit request info)) ∧
    (∀ ticket, (startingAt config first).Issues actions ticket → ∀ notice,
      (r.completeChecked ticket notice).run = some (.ok (r.complete ticket notice))) ∧
    (∀ completed, (startingAt config first).HandsOut actions completed →
      (r.readStatusChecked completed).run = some (r.readStatus completed) ∧
      (r.releaseChecked completed).run = some (.ok (r.release completed))) ∧
    ((startingAt config first).Honest actions →
      ((startingAt config first).runChecked actions).run = some (.ok r)) := by
  refine ⟨run_startingAtChecked config first, ?_⟩
  intro r
  have h : r.Accounted := accounted_run config first actions
  have hc : r.config = config := config_run (startingAt config first) actions
  have hw := h.wellFormed
  obtain ⟨hrequests, hinfo⟩ := config.ringBytes_le
  have hlen := hw.requests
  have hinfoLen := hw.memoryInfo
  have hslots := hw.slots
  rw [hc] at hlen hinfoLen hslots
  refine ⟨⟨hlen, hlen ▸ hrequests⟩, ⟨hinfoLen, hinfoLen ▸ hinfo⟩, hslots,
    h.run_submitChecked, ?_, ?_, run_runChecked⟩
  · intro ticket hissued notice
    exact h.run_completeChecked (hc ▸ hissued.index_lt) notice
  · intro completed hgiven
    have hi : completed.index < r.config.depth.slots := hc ▸ hgiven.index_lt
    exact ⟨hw.run_readStatusChecked hi, hw.run_releaseChecked hi⟩

/-- The first ticket of a ring is still judged without a fault when a reset has taken its slot. -/
theorem never_faults_on_stale_ticket :
    let actions := [.submit {} none, .acknowledgeReset, .write 0 [7, 0, 0, 0]]
    let r := (startingAt .threeSlots 0).run actions
    (startingAt .threeSlots 0).Issues actions ⟨0, 0, none⟩ ∧
      (r.completeChecked ⟨0, 0, none⟩ 0).run = some (.ok (r.complete ⟨0, 0, none⟩ 0)) ∧
      (r.complete ⟨0, 0, none⟩ 0).2 = .rejected (.sequenceMismatch 0 0 7) none := by
  intro actions r
  have hissued : (startingAt .threeSlots 0).Issues actions ⟨0, 0, none⟩ :=
    ⟨[], {}, none, _, _, rfl, rfl⟩
  obtain ⟨-, -, -, -, -, hcomplete, -⟩ := never_faults .threeSlots 0 actions
  exact ⟨hissued, hcomplete _ hissued 0, by decide +kernel⟩

end Ring

end CaptureProtocol
