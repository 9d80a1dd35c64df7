import CaptureProtocol.Proofs.Ring.Session

/-!
# Who owns a slot

The slot table of a ring says who has each slot; the host of a session knows it by the tickets and
completed slots that it holds. As long as fewer than `2 ^ 32` requests were taken, so that no
sequence number came twice, the two agree.

* `Numbered`: the tickets that were given out are numbered one after another.
* `Owned`: the table and what the host holds agree. `Consistent.run?`: they do so in every session
  that a run leads to.
* `stale_step`, `stale_origin`: a ticket that its slot does not honour stays so, and an acknowledged
  reset made it so.
* `slot_ownership`: **every slot of the coprocessor has exactly one ticket and every completed slot
  exactly one completed-slot token**, and the tickets beyond that are those that a reset took.
-/

set_option autoImplicit false

namespace CaptureProtocol

namespace Session

/-! ## Numbers of tickets -/

/-- The tickets that were given out have the numbers from `first` on, up to the next one. -/
structure Numbered (first : UInt32) (w : Session) : Prop where
  next : w.ring.nextSequence = first + UInt32.ofNat w.issued.length
  older : ∀ ticket ∈ w.issued, ∃ k < w.issued.length, ticket.sequence = first + UInt32.ofNat k

theorem numbered_start (config : ChannelConfig) (first : UInt32) :
    (start config first).Numbered first where
  next := (UInt32.add_zero first).symm
  older _ h := by cases h

theorem Numbered.of_eq {first : UInt32} {w w' : Session} (h : w.Numbered first)
    (hn : w'.ring.nextSequence = w.ring.nextSequence) (hi : w'.issued = w.issued) :
    w'.Numbered first where
  next := by rw [hn, hi]; exact h.next
  older := by rw [hi]; exact h.older

theorem Move.numbered {first : UInt32} {w w' : Session} {action : Action}
    (h : w.Numbered first) (hm : w.Move action w') : w'.Numbered first := by
  cases hm with
  | submitted _ =>
    refine ⟨?_, ?_⟩
    · show w.ring.nextSequence + 1 = _
      rw [h.next, UInt32.add_assoc, List.length_cons, UInt32.ofNat_add]
      rfl
    · intro ticket ht
      rcases List.mem_cons.mp ht with rfl | ht
      · exact ⟨w.issued.length, Nat.lt_succ_self _, h.next⟩
      · obtain ⟨k, hk, hs⟩ := h.older ticket ht
        exact ⟨k, Nat.lt_succ_of_lt hk, hs⟩
  | released hc =>
    refine h.of_eq ?_ rfl
    show (w.ring.release _).nextSequence = _
    unfold Ring.release
    split <;> rfl
  | resetting =>
    refine h.of_eq ?_ rfl
    show w.ring.beginReset.nextSequence = _
    unfold Ring.beginReset
    split <;> rfl
  | _ => exact h.of_eq rfl rfl

/-- While there are numbers left, the next one is new. -/
theorem Numbered.fresh {first : UInt32} {w : Session} (h : w.Numbered first)
    (hl : w.issued.length < UInt32.size) {ticket : Ticket} (ht : ticket ∈ w.issued) :
    ticket.sequence ≠ w.ring.nextSequence := by
  obtain ⟨k, hk, hs⟩ := h.older ticket ht
  intro he
  rw [hs, h.next, UInt32.add_right_inj] at he
  have hkn := congrArg UInt32.toNat he
  rw [UInt32.toNat_ofNat_of_lt' (Nat.lt_trans hk hl), UInt32.toNat_ofNat_of_lt' hl] at hkn
  omega

/-! ## The table and the tokens -/

/-- The slot table and what the host holds agree. -/
structure Owned (w : Session) : Prop where
  wellFormed : w.ring.WellFormed
  /-- The host has no ticket but those that it was given. -/
  issued : ∀ ticket ∈ w.tickets, ticket ∈ w.issued
  /-- A slot of the coprocessor has one ticket. -/
  held : ∀ i sequence, w.ring.slotState? i = some (.coprocessor sequence) →
    w.tickets.countP (·.isFor i sequence) = 1
  /-- A completed slot has one completed-slot token. -/
  collected : ∀ i sequence, w.ring.slotState? i = some (.completed sequence) →
    w.completions.countP (·.isFor i sequence) = 1
  /-- A completed-slot token has its slot. -/
  matched : ∀ completed ∈ w.completions,
    w.ring.slotState? completed.index = some (.completed completed.sequence)

theorem owned_start (config : ChannelConfig) (first : UInt32) : (start config first).Owned := by
  refine ⟨Ring.wellFormed_startingAt config first, ?_, ?_, ?_, ?_⟩
  · intro ticket h
    cases h
  · intro i sequence h
    cases Ring.slotState?_startingAt h
  · intro i sequence h
    cases Ring.slotState?_startingAt h
  · intro completed h
    cases h

/-- Using up a token of another kind does not change how many there are of this one. -/
theorem countP_erase_of_not {α : Type} [BEq α] [LawfulBEq α] {p : α → Bool} {l : List α} {a : α}
    (ha : a ∈ l) (hp : ¬ p a = true) : (l.erase a).countP p = l.countP p := by
  rw [(List.perm_cons_erase ha).countP_eq p, List.countP_cons_of_neg hp]

/-- The only token of a kind is used up for good. -/
theorem not_of_mem_erase {α : Type} [BEq α] [LawfulBEq α] {p : α → Bool} {l : List α} {a b : α}
    (h : l.countP p = 1) (ha : a ∈ l) (hp : p a = true) (hb : b ∈ l.erase a) : ¬ p b = true := by
  rw [(List.perm_cons_erase ha).countP_eq p, List.countP_cons_of_pos hp] at h
  exact List.countP_eq_zero.mp (Nat.succ.inj h) b hb

/-- Of two good tickets, one used up and one left, each has a slot of its own. -/
theorem Owned.ticket_index_ne {w : Session} (h : w.Owned) {used ticket : Ticket}
    (hu : used ∈ w.tickets) (hused : w.ring.honours used = true)
    (ht : ticket ∈ w.tickets.erase used)
    (hi : w.ring.slotState? ticket.index = some (.coprocessor ticket.sequence)) :
    ticket.index ≠ used.index := by
  intro hidx
  have hown := Ring.honours_iff.mp hused
  have hq : used.sequence = ticket.sequence := by
    rw [hidx, hown] at hi
    simpa using hi
  exact not_of_mem_erase (h.held _ _ hown) hu (Ticket.isFor_iff.mpr ⟨rfl, rfl⟩) ht
    (Ticket.isFor_iff.mpr ⟨hidx, hq.symm⟩)

/-- Of two completed slots, one given back and one kept, each is another slot. -/
theorem Owned.completed_index_ne {w : Session} (h : w.Owned) {used completed : CompletedSlot}
    (hu : used ∈ w.completions) (hc : completed ∈ w.completions.erase used) :
    completed.index ≠ used.index := by
  intro hidx
  have hown := h.matched used hu
  have hi := h.matched completed (List.mem_of_mem_erase hc)
  have hq : used.sequence = completed.sequence := by
    rw [hidx, hown] at hi
    simpa using hi
  exact not_of_mem_erase (h.collected _ _ hown) hu (CompletedSlot.isFor_iff.mpr ⟨rfl, rfl⟩) hc
    (CompletedSlot.isFor_iff.mpr ⟨hidx, hq.symm⟩)

theorem Move.owned {w w' : Session} {action : Action} (h : w.Owned)
    (hf : ∀ ticket ∈ w.issued, ticket.sequence ≠ w.ring.nextSequence)
    (hw : w'.ring.WellFormed) (hm : w.Move action w') : w'.Owned := by
  cases hm with
  | refused _ _ => exact h
  | reread _ => exact h
  | @submitted request info hfree =>
    have hs := h.wellFormed.slotState?_place request info
    have hnext := h.wellFormed.slotState?_of_holder? w.ring.nextSlot_lt hfree
    refine ⟨hw, ?_, ?_, ?_, ?_⟩
    · intro ticket ht
      rcases List.mem_cons.mp ht with rfl | ht
      · exact List.mem_cons_self
      · exact List.mem_cons_of_mem _ (h.issued ticket ht)
    · intro i sequence hi
      rw [hs] at hi
      rcases Ring.slot_set_cases hi with ⟨rfl, hnew⟩ | ⟨hin, hi⟩
      · cases hnew
        -- No other ticket has the new number.
        have hz : w.tickets.countP (·.isFor w.ring.nextSlot w.ring.nextSequence) = 0 := by
          refine List.countP_eq_zero.mpr fun ticket ht hp => ?_
          exact hf ticket (h.issued ticket ht) (Ticket.isFor_iff.mp hp).2
        have hself : (w.nextTicket request).isFor w.ring.nextSlot w.ring.nextSequence = true :=
          Ticket.isFor_iff.mpr ⟨rfl, rfl⟩
        rw [List.countP_cons, hz, if_pos hself]
      · rw [List.countP_cons, if_neg (fun hp => hin (Ticket.isFor_iff.mp hp).1.symm)]
        exact h.held i sequence hi
    · intro i sequence hi
      rw [hs] at hi
      rcases Ring.slot_set_cases hi with ⟨-, hnew⟩ | ⟨-, hi⟩
      · cases hnew
      · exact h.collected i sequence hi
    · intro completed hc
      rw [hs]
      exact Ring.slot_set_of_ne hnext (h.matched completed hc) (by simp)
  | @kept ticket _ ht =>
    have hp := List.perm_cons_erase ht
    refine ⟨hw, ?_, ?_, h.collected, h.matched⟩
    · intro other ho
      exact h.issued other (hp.mem_iff.mpr ho)
    · intro i sequence hi
      rw [← hp.countP_eq]
      exact h.held i sequence hi
  | @voided ticket _ ht hh =>
    refine ⟨hw, fun other ho => h.issued other (List.mem_of_mem_erase ho), ?_, h.collected,
      h.matched⟩
    intro i sequence hi
    rw [countP_erase_of_not ht]
    · exact h.held i sequence hi
    · intro hp
      obtain ⟨rfl, rfl⟩ := Ticket.isFor_iff.mp hp
      rw [Ring.honours_iff.mpr hi] at hh
      cases hh
  | @collected ticket _ status ht hh _ _ =>
    have hs := Ring.slotState?_finish hh
    have hown := Ring.honours_iff.mp hh
    refine ⟨hw, fun other ho => h.issued other (List.mem_of_mem_erase ho), ?_, ?_, ?_⟩
    · intro i sequence hi
      rw [hs] at hi
      rcases Ring.slot_set_cases hi with ⟨-, hnew⟩ | ⟨hit, hi⟩
      · cases hnew
      · rw [countP_erase_of_not ht (fun hp => hit (Ticket.isFor_iff.mp hp).1.symm)]
        exact h.held i sequence hi
    · intro i sequence hi
      rw [hs] at hi
      rcases Ring.slot_set_cases hi with ⟨rfl, hnew⟩ | ⟨hit, hi⟩
      · cases hnew
        -- No completed-slot token can be for a slot that the coprocessor had.
        have hz : w.completions.countP (·.isFor ticket.index ticket.sequence) = 0 := by
          refine List.countP_eq_zero.mpr fun completed hc hp => ?_
          have hm := h.matched completed hc
          rw [(CompletedSlot.isFor_iff.mp hp).1, hown] at hm
          cases hm
        rw [List.countP_cons, hz, if_pos (CompletedSlot.isFor_iff.mpr ⟨rfl, rfl⟩)]
      · rw [List.countP_cons, if_neg (fun hp => hit (CompletedSlot.isFor_iff.mp hp).1.symm)]
        exact h.collected i sequence hi
    · intro completed hc
      rw [hs]
      rcases List.mem_cons.mp hc with rfl | hc
      · exact if_pos rfl
      · exact Ring.slot_set_of_ne hown (h.matched completed hc) (by simp)
  | @released completed hc =>
    have hs := Ring.slotState?_release (h.matched completed hc)
    refine ⟨hw, h.issued, ?_, ?_, ?_⟩
    · intro i sequence hi
      rw [hs] at hi
      rcases Ring.slot_set_cases hi with ⟨-, hnew⟩ | ⟨-, hi⟩
      · cases hnew
      · exact h.held i sequence hi
    · intro i sequence hi
      rw [hs] at hi
      rcases Ring.slot_set_cases hi with ⟨-, hnew⟩ | ⟨hic, hi⟩
      · cases hnew
      · rw [countP_erase_of_not hc (fun hp => hic (CompletedSlot.isFor_iff.mp hp).1.symm)]
        exact h.collected i sequence hi
    · intro other ho
      rw [hs, if_neg (h.completed_index_ne hc ho)]
      exact h.matched other (List.mem_of_mem_erase ho)
  | resetting =>
    have hs := w.ring.slotState?_beginReset
    refine ⟨hw, h.issued, ?_, ?_, ?_⟩
    · intro i sequence hi
      rw [hs] at hi
      exact h.held i sequence hi
    · intro i sequence hi
      rw [hs] at hi
      exact h.collected i sequence hi
    · intro completed hc
      rw [hs]
      exact h.matched completed hc
  | reclaimed =>
    have hs := w.ring.slotState?_acknowledgeReset
    refine ⟨hw, h.issued, ?_, ?_, ?_⟩
    · intro i sequence hi
      rw [hs] at hi
      obtain ⟨state, -, hr⟩ := Option.map_eq_some_iff.mp hi
      cases state <;> cases hr
    · intro i sequence hi
      rw [hs] at hi
      obtain ⟨state, hi, hr⟩ := Option.map_eq_some_iff.mp hi
      cases state with
      | free => cases hr
      | coprocessor _ => cases hr
      | completed _ =>
        cases hr
        exact h.collected _ _ hi
    · intro completed hc
      rw [hs, h.matched completed hc]
      rfl
  | written _ => exact ⟨hw, h.issued, h.held, h.collected, h.matched⟩

/-- The invariant of a session in which no sequence number was given twice. -/
structure Consistent (first : UInt32) (w : Session) : Prop where
  numbered : w.Numbered first
  owned : w.Owned

theorem consistent_start (config : ChannelConfig) (first : UInt32) :
    (start config first).Consistent first :=
  ⟨numbered_start config first, owned_start config first⟩

theorem Consistent.step {first : UInt32} {w w' : Session} {action : Action}
    (h : w.Consistent first) (hs : w.step? action = some w') (hl : w'.issued.length < UInt32.size) :
    w'.Consistent first := by
  have hm := step?_move hs
  have hl := Nat.lt_of_le_of_lt hm.issued_le hl
  have hw := (step?_change hs).wellFormed h.owned.wellFormed
  exact ⟨hm.numbered h.numbered, hm.owned h.owned (fun _ ht => h.numbered.fresh hl ht) hw⟩

theorem Consistent.run? {first : UInt32} {w w' : Session} {actions : List Action}
    (h : w.Consistent first) (hr : w.run? actions = some w') (hl : w'.issued.length < UInt32.size) :
    w'.Consistent first :=
  run?_induction (Q := fun _ => True) (fun h _ hs hl => h.step hs hl)
    (fun _ _ => trivial) hr hl h

/-! ## Stale tickets -/

/-- A ticket that was given out and that its slot does not honour. -/
structure Stale (w : Session) (ticket : Ticket) : Prop where
  issued : ticket ∈ w.issued
  dishonoured : w.ring.honours ticket = false

theorem Move.mem_issued {w w' : Session} {action : Action} (hm : w.Move action w')
    {ticket : Ticket} (ht : ticket ∈ w.issued) : ticket ∈ w'.issued := by
  cases hm with
  | submitted _ => exact List.mem_cons_of_mem _ ht
  | _ => exact ht

/-- **A stale ticket stays stale**, since its number does not come again. -/
theorem Stale.step {first : UInt32} {w w' : Session} {action : Action} {ticket : Ticket}
    (ht : w.Stale ticket) (h : w.Consistent first) (hs : w.step? action = some w')
    (hl : w'.issued.length < UInt32.size) : w'.Stale ticket := by
  have hm := step?_move hs
  refine ⟨hm.mem_issued ht.issued, Bool.eq_false_iff.mpr fun hh => ?_⟩
  have hcases := (step?_change hs).slotState?_cases h.owned.wellFormed (Ring.honours_iff.mp hh)
  -- The slot comes to the coprocessor only with a new request, which has another number.
  rcases hcases with hi | hfree | ⟨-, hnew, -⟩ | ⟨_, -, hdone⟩
  · have hd := ht.dishonoured
    rw [Ring.honours_iff.mpr hi] at hd
    cases hd
  · cases hfree
  · exact h.numbered.fresh (Nat.lt_of_le_of_lt hm.issued_le hl) ht.issued
      (SlotState.coprocessor.inj hnew)
  · cases hdone

theorem Stale.run? {first : UInt32} {w w' : Session} {actions : List Action} {ticket : Ticket}
    (ht : w.Stale ticket) (h : w.Consistent first) (hr : w.run? actions = some w')
    (hl : w'.issued.length < UInt32.size) : w'.Stale ticket :=
  (run?_induction (P := fun w => w.Stale ticket ∧ w.Consistent first) (Q := fun _ => True)
    (fun h _ hs hl => ⟨h.1.step h.2 hs hl, h.2.step hs hl⟩) (fun _ _ => trivial) hr hl ⟨ht, h⟩).1

/-- **Only an acknowledged reset makes a live ticket stale.** -/
theorem stale_step {w w' : Session} {action : Action} {ticket : Ticket} (h : w.Owned)
    (hm : w.Move action w') (ht : ticket ∈ w'.tickets) (hd : w'.ring.honours ticket = false) :
    ticket ∈ w.tickets ∧
      (w.ring.honours ticket = false ∨
        action = .acknowledgeReset ∧ w.ring.honours ticket = true) := by
  -- Where a step leaves the ticket's slot to the coprocessor, the ticket was stale before.
  have before : ticket ∈ w.tickets →
      (w.ring.slotState? ticket.index = some (.coprocessor ticket.sequence) →
        w'.ring.slotState? ticket.index = some (.coprocessor ticket.sequence)) →
      ticket ∈ w.tickets ∧
        (w.ring.honours ticket = false ∨
          action = .acknowledgeReset ∧ w.ring.honours ticket = true) := by
    intro hmem hkeep
    refine ⟨hmem, .inl (Bool.eq_false_iff.mpr fun hh => ?_)⟩
    rw [Ring.honours_iff.mpr (hkeep (Ring.honours_iff.mp hh))] at hd
    cases hd
  cases hm with
  | refused _ _ => exact before ht id
  | reread _ => exact before ht id
  | @submitted request info hfree =>
    have hs := h.wellFormed.slotState?_place request info
    have hnext := h.wellFormed.slotState?_of_holder? w.ring.nextSlot_lt hfree
    rcases List.mem_cons.mp ht with rfl | ht
    · have hh : (w.ring.place request info).honours (w.nextTicket request) = true :=
        Ring.honours_iff.mpr ((hs _).trans (if_pos rfl))
      rw [hh] at hd
      cases hd
    · exact before ht fun hi => (hs _).trans (Ring.slot_set_of_ne hnext hi (by simp))
  | kept ht' => exact before ((List.perm_cons_erase ht').mem_iff.mpr ht) id
  | voided _ _ => exact before (List.mem_of_mem_erase ht) id
  | @collected other _ _ ho hh _ _ =>
    refine before (List.mem_of_mem_erase ht) fun hi => ?_
    rw [Ring.slotState?_finish hh, if_neg (h.ticket_index_ne ho hh ht hi)]
    exact hi
  | @released completed hc =>
    have hi' := h.matched completed hc
    refine before ht fun hi => ?_
    rw [Ring.slotState?_release hi']
    exact Ring.slot_set_of_ne hi' hi (by simp)
  | resetting =>
    refine before ht fun hi => ?_
    rw [Ring.slotState?_beginReset]
    exact hi
  | reclaimed =>
    cases hh : w.ring.honours ticket with
    | false => exact ⟨ht, .inl rfl⟩
    | true => exact ⟨ht, .inr ⟨rfl, rfl⟩⟩
  | written _ => exact before ht id

/-- A live ticket that is stale was honoured until some acknowledged reset of the run. -/
theorem stale_origin {first : UInt32} {w w' : Session} {actions : List Action} {ticket : Ticket}
    (h : w.Consistent first) (hr : w.run? actions = some w') (hl : w'.issued.length < UInt32.size)
    (ht : ticket ∈ w'.tickets) (hd : w'.ring.honours ticket = false) :
    (ticket ∈ w.tickets ∧ w.ring.honours ticket = false) ∨
      ∃ before after w₁, actions = before ++ .acknowledgeReset :: after ∧
        w.run? before = some w₁ ∧ ticket ∈ w₁.tickets ∧ w₁.ring.honours ticket = true := by
  induction actions generalizing w with
  | nil =>
    cases hr
    exact .inl ⟨ht, hd⟩
  | cons action actions ih =>
    obtain ⟨w₁, h₁, hr⟩ := run?_cons_eq_some.mp hr
    have hl₁ := Nat.lt_of_le_of_lt (run?_issued_le hr) hl
    rcases ih (h.step h₁ hl₁) hr with ⟨ht₁, hd₁⟩ | ⟨before, after, w₂, rfl, hb, ht₂, hh₂⟩
    · obtain ⟨ht₀, hd₀ | ⟨rfl, hh₀⟩⟩ := stale_step h.owned (step?_move h₁) ht₁ hd₁
      · exact .inl ⟨ht₀, hd₀⟩
      · exact .inr ⟨[], actions, w, rfl, rfl, ht₀, hh₀⟩
    · exact .inr ⟨action :: before, after, w₂, rfl, run?_cons_eq_some.mpr ⟨w₁, h₁, hb⟩, ht₂, hh₂⟩

/-! ## Ownership -/

/--
**Who owns a slot, over whole runs.** In every session that starts with an empty ring and takes
fewer than `2 ^ 32` requests, a slot of the coprocessor has exactly one ticket, a completed slot has
exactly one completed-slot token, and each of those tokens frees its slot. A live ticket without a
slot was given out before an acknowledged reset that took its slot; now and in every later session,
to complete it is refused as a sequence mismatch, which uses it up and leaves the ring alone.
-/
theorem slot_ownership (config : ChannelConfig) (first : UInt32) (actions : List Action)
    (w : Session) (hr : (start config first).run? actions = some w)
    (hl : w.issued.length < UInt32.size) :
    (∀ i sequence, w.ring.slotState? i = some (.coprocessor sequence) →
      w.tickets.countP (·.isFor i sequence) = 1) ∧
    (∀ i sequence, w.ring.slotState? i = some (.completed sequence) →
      w.completions.countP (·.isFor i sequence) = 1) ∧
    (∀ completed ∈ w.completions,
      w.ring.slotState? completed.index = some (.completed completed.sequence) ∧
        (w.ring.release completed).slotState? completed.index = some .free) ∧
    ∀ ticket ∈ w.tickets,
      w.ring.slotState? ticket.index ≠ some (.coprocessor ticket.sequence) →
      (∃ before after w₁, actions = before ++ .acknowledgeReset :: after ∧
        (start config first).run? before = some w₁ ∧ ticket ∈ w₁.issued ∧
        w₁.ring.slotState? ticket.index = some (.coprocessor ticket.sequence) ∧
        w₁.ring.acknowledgeReset.slotState? ticket.index = some .free) ∧
      ∀ later w₂, w.run? later = some w₂ → w₂.issued.length < UInt32.size → ∀ notice,
        w₂.ring.complete ticket notice =
          (w₂.ring, .rejected (.sequenceMismatch ticket.index ticket.sequence
            (w₂.ring.occupant ticket.index)) none) := by
  have h₀ := consistent_start config first
  have h := h₀.run? hr hl
  refine ⟨h.owned.held, h.owned.collected, ?_, ?_⟩
  · intro completed hc
    have hm := h.owned.matched completed hc
    exact ⟨hm, (Ring.slotState?_release hm _).trans (if_pos rfl)⟩
  · intro ticket ht hno
    have hd : w.ring.honours ticket = false :=
      Bool.eq_false_iff.mpr fun hh => hno (Ring.honours_iff.mp hh)
    refine ⟨?_, ?_⟩
    · rcases stale_origin h₀ hr hl ht hd with ⟨ht₀, -⟩ | ⟨before, after, w₁, ha, hb, ht₁, hh₁⟩
      · cases ht₀
      · -- The session before the reset is consistent too.
        have hl₁ : w₁.issued.length < UInt32.size := by
          obtain ⟨w₂, hw₂, hrest⟩ := run?_append_eq_some.mp (ha ▸ hr)
          cases hb.symm.trans hw₂
          exact Nat.lt_of_le_of_lt (run?_issued_le hrest) hl
        have hs := Ring.honours_iff.mp hh₁
        refine ⟨before, after, w₁, ha, hb, (h₀.run? hb hl₁).owned.issued ticket ht₁, hs, ?_⟩
        rw [Ring.slotState?_acknowledgeReset, hs]
        rfl
    · intro later w₂ hlater hl₂ notice
      have hstale : w.Stale ticket := ⟨h.owned.issued ticket ht, hd⟩
      have hd₂ := (hstale.run? h hlater hl₂).dishonoured
      unfold Ring.complete
      rw [hd₂]
      rfl

/-- One of three requests is completed; a reset takes the others, and another gets the slot 0. -/
def firstSlotLost : List Action :=
  [.submit {} none, .submit {} none, .submit {} none, .report .threeSlots 1 { code := .success },
    .complete ⟨1, 1, none⟩ 1, .acknowledgeReset, .submit {} none]

/-- The first ticket cannot complete the request that has its slot now. -/
theorem slot_ownership_of_lost_slot :
    ∃ w : Session, (start .threeSlots 0).run? firstSlotLost = some w ∧
      w.issued.length < UInt32.size ∧ w.tickets.countP (·.isFor 0 3) = 1 ∧
      w.completions.countP (·.isFor 1 1) = 1 ∧ ⟨0, 0, none⟩ ∈ w.tickets ∧
      w.ring.complete ⟨0, 0, none⟩ 0 =
        (w.ring, .rejected (.sequenceMismatch 0 0 3) none) := by
  have hrun : ((start .threeSlots 0).run? firstSlotLost).map
      (fun w => (w.issued.length, w.tickets, w.ring.slots)) =
        some (4, [⟨0, 3, none⟩, ⟨2, 2, none⟩, ⟨0, 0, none⟩],
          [.coprocessor 3, .completed 1, .free]) := by
    decide +kernel
  obtain ⟨w, hr, hw⟩ := Option.map_eq_some_iff.mp hrun
  simp only [Prod.mk.injEq] at hw
  obtain ⟨hl, ht, hs⟩ := hw
  have hl : w.issued.length < UInt32.size := by
    rw [hl]
    decide
  have hs₀ : w.ring.slotState? 0 = some (.coprocessor 3) := by rw [Ring.slotState?, hs]; rfl
  have hs₁ : w.ring.slotState? 1 = some (.completed 1) := by rw [Ring.slotState?, hs]; rfl
  have ht₀ : ⟨0, 0, none⟩ ∈ w.tickets := by simp [ht]
  obtain ⟨hheld, hcollected, -, hstale⟩ := slot_ownership .threeSlots 0 _ w hr hl
  refine ⟨w, hr, hl, hheld 0 3 hs₀, hcollected 1 1 hs₁, ht₀, ?_⟩
  obtain ⟨-, hvoid⟩ := hstale ⟨0, 0, none⟩ ht₀ (by rw [hs₀]; decide)
  rw [hvoid [] w rfl hl 0]
  unfold Ring.occupant
  rw [hs₀]
  rfl

end Session

end CaptureProtocol
