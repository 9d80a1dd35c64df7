import CaptureProtocol.Proofs.Ring.Atomicity
import CaptureProtocol.Proofs.Ring.Ownership

/-!
# What a sequence mismatch reports

A sequence mismatch names the number that was expected and the number that was found. When the
memory of a held slot was overwritten they differ. When the slot of a ticket was reclaimed, the
number that is found is whatever the slot has left in its memory, and that may be the number of the
ticket: an acknowledged reset does not clear the slots that it takes back.

* `WellFormed.occupant_eq_iff`: when a slot that is no longer a ticket's still shows its number.
* `Session.Unspent`: no ticket of a host is for a request whose result was collected.
* `mismatch_found_iff`: **a mismatch finds the expected number exactly if the slot of a stale ticket
  is free and still has the number in its memory**.
* `mismatch_with_itself`: such a mismatch.
-/

set_option autoImplicit false

namespace CaptureProtocol

namespace Ring

/-- A slot that is no longer a ticket's shows the number of the ticket. -/
def Echoes (r : Ring) (ticket : Ticket) : Prop :=
  r.slotState? ticket.index = some .free ∧
      storedSequence (r.slot ticket.index) = .ok ticket.sequence ∨
    r.slotState? ticket.index = some (.completed ticket.sequence)

theorem WellFormed.occupant_eq_iff {r : Ring} (h : r.WellFormed) {ticket : Ticket}
    (hi : ticket.index < r.config.depth.slots)
    (hs : r.slotState? ticket.index ≠ some (.coprocessor ticket.sequence)) :
    r.occupant ticket.index = ticket.sequence ↔ r.Echoes ticket := by
  obtain ⟨state, hstate⟩ := h.exists_slotState? hi
  unfold occupant Echoes
  rw [hstate] at hs ⊢
  cases state with
  | free =>
    obtain ⟨stored, hstored⟩ := exists_storedSequence (h.descriptor_le_slot hi)
    simp [SlotState.sequence?, hstored]
  | coprocessor sequence =>
    have hne : sequence ≠ ticket.sequence := by simpa using hs
    simp [SlotState.sequence?, hne]
  | completed sequence => simp [SlotState.sequence?]

/-- A mismatch names its ticket, and finds the number of the ticket only in a slot that was lost. -/
theorem WellFormed.mismatch {r : Ring} (h : r.WellFormed) {ticket : Ticket}
    (hi : ticket.index < r.config.depth.slots) {notice : UInt32} {index : Nat}
    {expected found : UInt32} {back : Option Ticket}
    (hm : (r.complete ticket notice).2 = .rejected (.sequenceMismatch index expected found) back) :
    index = ticket.index ∧ expected = ticket.sequence ∧
      (found = expected ↔ back = none ∧ r.Echoes ticket) := by
  cases h.rejected_iff.mp hm with
  | stale hs => exact ⟨rfl, rfl, by simp [h.occupant_eq_iff hi hs]⟩
  | overwritten _ _ _ hne => exact ⟨rfl, rfl, by simp [hne]⟩

/-- **A reset that leaves the memory of a slot alone makes its ticket mismatch with itself.** -/
theorem complete_acknowledgeReset {r : Ring} {ticket : Ticket}
    (hs : r.slotState? ticket.index = some (.coprocessor ticket.sequence))
    (hm : storedSequence (r.slot ticket.index) = .ok ticket.sequence) (notice : UInt32) :
    r.acknowledgeReset.complete ticket notice =
      (r.acknowledgeReset,
        .rejected (.sequenceMismatch ticket.index ticket.sequence ticket.sequence) none) := by
  have hfree : r.acknowledgeReset.slotState? ticket.index = some .free := by
    rw [slotState?_acknowledgeReset, hs]
    rfl
  have hmemory : storedSequence (r.acknowledgeReset.slot ticket.index) = .ok ticket.sequence := hm
  have hfound : r.acknowledgeReset.occupant ticket.index = ticket.sequence := by
    simp [occupant, hfree, SlotState.sequence?, hmemory]
  rw [complete_of_stale (by simp [hfree]), hfound]

end Ring

namespace Session

/-! ## Tickets of collected requests -/

/-- No ticket of the host is for a request whose result was collected. -/
def Unspent (w : Session) : Prop :=
  ∀ i sequence, w.ring.slotState? i = some (.completed sequence) →
    ∀ ticket ∈ w.tickets, ¬ ticket.isFor i sequence = true

theorem unspent_start (config : ChannelConfig) (first : UInt32) : (start config first).Unspent := by
  intro i sequence _ ticket ht
  cases ht

theorem Move.unspent {w w' : Session} {action : Action} (h : w.Unspent) (ho : w.Owned)
    (hm : w.Move action w') : w'.Unspent := by
  intro i sequence hi other hother
  cases hm with
  | refused _ _ => exact h i sequence hi other hother
  | reread _ => exact h i sequence hi other hother
  | @submitted request info hfree =>
    have hi : (w.ring.place request info).slotState? i = some (.completed sequence) := hi
    rw [ho.wellFormed.slotState?_place] at hi
    rcases Ring.slot_set_cases hi with ⟨-, hnew⟩ | ⟨hin, hi⟩
    · cases hnew
    · rcases List.mem_cons.mp hother with rfl | hother
      · exact fun hp => hin (Ticket.isFor_iff.mp hp).1.symm
      · exact h i sequence hi other hother
  | kept ht => exact h i sequence hi other ((List.perm_cons_erase ht).mem_iff.mpr hother)
  | voided _ _ => exact h i sequence hi other (List.mem_of_mem_erase hother)
  | @collected ticket _ _ ht hh _ _ =>
    have hi : (w.ring.finish ticket).slotState? i = some (.completed sequence) := hi
    rw [Ring.slotState?_finish hh] at hi
    rcases Ring.slot_set_cases hi with ⟨rfl, hnew⟩ | ⟨-, hi⟩
    · cases hnew
      -- The ticket that was used up was the only one for the request.
      have hspent := not_of_mem_erase (ho.held _ _ (Ring.honours_iff.mp hh)) ht
        (Ticket.isFor_iff.mpr ⟨rfl, rfl⟩) hother
      exact hspent
    · exact h i sequence hi other (List.mem_of_mem_erase hother)
  | @released completed hc =>
    have hi : (w.ring.release completed).slotState? i = some (.completed sequence) := hi
    rw [Ring.slotState?_release (ho.matched completed hc)] at hi
    rcases Ring.slot_set_cases hi with ⟨-, hnew⟩ | ⟨-, hi⟩
    · cases hnew
    · exact h i sequence hi other hother
  | resetting =>
    have hi : w.ring.beginReset.slotState? i = some (.completed sequence) := hi
    rw [Ring.slotState?_beginReset] at hi
    exact h i sequence hi other hother
  | reclaimed =>
    have hi : w.ring.acknowledgeReset.slotState? i = some (.completed sequence) := hi
    rw [Ring.slotState?_acknowledgeReset] at hi
    obtain ⟨state, hi, hr⟩ := Option.map_eq_some_iff.mp hi
    cases state with
    | completed q =>
      cases hr
      exact h i sequence hi other hother
    | free => cases hr
    | coprocessor q => cases hr
  | written _ => exact h i sequence hi other hother

theorem unspent_run {config : ChannelConfig} {first : UInt32} {actions : List Action}
    {w : Session} (hr : (start config first).run? actions = some w)
    (hl : w.issued.length < UInt32.size) : w.Unspent :=
  (run?_induction (P := fun w => w.Unspent ∧ w.Consistent first) (Q := fun _ => True)
    (fun h _ hs hl => ⟨(step?_move hs).unspent h.1 h.2.owned, h.2.step hs hl⟩)
    (fun _ _ => trivial) hr hl ⟨unspent_start config first, consistent_start config first⟩).1

/--
**When a mismatch finds the expected number.** In every ring that a run leads to, to complete a
ticket that the run has given out, whatever the notice, is refused as a sequence mismatch only with
the index and the number of the ticket. The number that is found is another one, unless the ticket
is stale and its slot shows the number all the same: the slot is free and has it in its memory, or
holds a completed request of that number. The latter does not happen in a session in which fewer
than `2 ^ 32` requests were taken; the former happens to live tickets only after an acknowledged
reset, which took the slot, and to every ticket whose slot a reset takes with its number in memory.
-/
theorem mismatch_found_iff (config : ChannelConfig) (first : UInt32) (actions : List Action) :
    let r := (Ring.startingAt config first).run actions
    (∀ ticket, (Ring.startingAt config first).Issues actions ticket →
      ∀ notice index expected found back,
        (r.complete ticket notice).2 = .rejected (.sequenceMismatch index expected found) back →
        index = ticket.index ∧ expected = ticket.sequence ∧
          (found = expected ↔ back = none ∧ r.Echoes ticket)) ∧
    (∀ w, (start config first).run? actions = some w → w.issued.length < UInt32.size →
      ∀ ticket ∈ w.tickets, r.Echoes ticket →
        r.slotState? ticket.index = some .free ∧
          ∃ before after w₁, actions = before ++ .acknowledgeReset :: after ∧
            (start config first).run? before = some w₁ ∧ ticket ∈ w₁.tickets ∧
            w₁.ring.slotState? ticket.index = some (.coprocessor ticket.sequence)) ∧
    ∀ ticket, r.slotState? ticket.index = some (.coprocessor ticket.sequence) →
      storedSequence (r.slot ticket.index) = .ok ticket.sequence → ∀ notice,
        r.acknowledgeReset.complete ticket notice =
          (r.acknowledgeReset,
            .rejected (.sequenceMismatch ticket.index ticket.sequence ticket.sequence) none) := by
  intro r
  have hw : r.WellFormed := Ring.wellFormed_run config first actions
  have hc : r.config = config := Ring.config_run (Ring.startingAt config first) actions
  refine ⟨?_, ?_, fun ticket hs hm => Ring.complete_acknowledgeReset hs hm⟩
  · intro ticket hissued notice index expected found back hm
    exact hw.mismatch (hc ▸ hissued.index_lt) hm
  · intro w hr hl ticket ht hechoes
    have hring : w.ring = r := run?_ring hr
    have hfree : r.slotState? ticket.index = some .free := by
      rcases hechoes with ⟨hfree, -⟩ | hdone
      · exact hfree
      · rw [← hring] at hdone
        exact absurd (Ticket.isFor_iff.mpr ⟨rfl, rfl⟩) (unspent_run hr hl _ _ hdone ticket ht)
    have hd : w.ring.honours ticket = false := by simp [Ring.honours, hring, hfree]
    refine ⟨hfree, ?_⟩
    rcases stale_origin (consistent_start config first) hr hl ht hd with
      ⟨hnone, -⟩ | ⟨before, after, w₁, ha, hb, ht₁, hh₁⟩
    · cases hnone
    · exact ⟨before, after, w₁, ha, hb, ht₁, Ring.honours_iff.mp hh₁⟩

/-- After a reset, the ticket of request 5 is refused because its slot holds request 5. -/
theorem mismatch_with_itself :
    ∃ w : Session, (start .threeSlots 5).run? [.submit {} none, .acknowledgeReset] = some w ∧
      ⟨2, 5, none⟩ ∈ w.tickets ∧
      (w.ring.complete ⟨2, 5, none⟩ 5).2 = .rejected (.sequenceMismatch 2 5 5) none := by
  have hrun : ((start .threeSlots 5).run? [.submit {} none, .acknowledgeReset]).map
      (fun w => (w.tickets, (w.ring.complete ⟨2, 5, none⟩ 5).2)) =
        some ([⟨2, 5, none⟩], .rejected (.sequenceMismatch 2 5 5) none) := by
    decide +kernel
  obtain ⟨w, hr, hw⟩ := Option.map_eq_some_iff.mp hrun
  obtain ⟨ht, hcomplete⟩ := Prod.mk.inj hw
  exact ⟨w, hr, by simp [ht], hcomplete⟩

end Session

end CaptureProtocol
