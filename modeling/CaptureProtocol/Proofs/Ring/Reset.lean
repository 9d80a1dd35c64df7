import CaptureProtocol.Proofs.Ring.Session
import Mathlib.Data.List.Induction

/-!
# Requests in flight and resets

A ring counts the requests that the coprocessor holds and keeps a flag for a reset that is under
way. Both are redundant: the slot table has the first, and what happened to the ring has the second.

* `accounted_run`: the count is that of the slot table, and a reset under way has a request to wait
  for.
* `Accounted.inFlight_perform`, `Accounted.resetting_perform`: what one action does to either.
* `Accounted.counted_off`: a final status in the slot of a ticket is collected and counted off.
* `resetting_run_iff`: the flag is set exactly while a reset is open in the history.
* `reset_protocol`: **a reset refuses requests until the last one in flight is collected or the
  coprocessor has lost them all**, and the count never goes below zero.
-/

set_option autoImplicit false

namespace CaptureProtocol

namespace Ring

/-- How many slots the coprocessor has, by the slot table. -/
def coprocessorSlots (r : Ring) : Nat := r.slots.countP fun state => !state.isHostOwned

/-- Whether an action is a completion that collects a final status. -/
def collects (r : Ring) : Action → Bool
  | .complete ticket notice => (r.complete ticket notice).2.completed?.isSome
  | _ => false

/--
In the history of a ring a reset began while a request was in flight; since then it has not been
acknowledged and the coprocessor has not run out of requests.
-/
def ResetOpen (r : Ring) (history : List Action) : Prop :=
  ∃ before after, history = before ++ .beginReset :: after ∧ 0 < (r.run before).inFlight ∧
    .acknowledgeReset ∉ after ∧
    ∀ middle, middle <+: after → 0 < (r.run (before ++ .beginReset :: middle)).inFlight

@[simp] theorem run_concat (r : Ring) (actions : List Action) (action : Action) :
    r.run (actions ++ [action]) = (r.run actions).perform action := by
  simp [run]

/-! ## The count -/

/-- Where one slot of the table was set, the count moves by what it was and what it is now. -/
theorem coprocessorSlots_set {r : Ring} (r' : Ring) {index : Nat} {old : SlotState}
    (new : SlotState) (h : r.slotState? index = some old)
    (hs : r'.slots = r.slots.set index new) :
    r'.coprocessorSlots + (!old.isHostOwned).toNat =
      r.coprocessorSlots + (!new.isHostOwned).toNat := by
  obtain ⟨hi, hold⟩ := List.getElem?_eq_some_iff.mp h
  -- The slot that is taken out was counted, so nothing is cut off at zero.
  have hcounted : old.isHostOwned = false → 0 < r.coprocessorSlots := by
    intro ho
    exact List.countP_pos_iff.mpr ⟨old, hold ▸ List.getElem_mem hi, by simp [ho]⟩
  unfold coprocessorSlots at *
  rw [hs, List.countP_set hi, hold]
  cases ho : old.isHostOwned with
  | true => cases new.isHostOwned <;> simp
  | false =>
    have hpos := hcounted ho
    cases new.isHostOwned <;> simp <;> omega

/-- The count agrees with the slot table, and a reset under way has a request to wait for. -/
structure Accounted (r : Ring) : Prop where
  wellFormed : r.WellFormed
  inFlight : r.inFlight = r.coprocessorSlots
  waiting : r.resetting = true → 0 < r.inFlight

theorem accounted_startingAt (config : ChannelConfig) (first : UInt32) :
    (startingAt config first).Accounted := by
  refine ⟨wellFormed_startingAt config first, ?_, ?_⟩
  · exact (List.countP_eq_zero.mpr fun state hs => by rw [List.eq_of_mem_replicate hs]; decide).symm
  · intro h
    cases h

/-- A slot with a ticket counts, so there is a request in flight. -/
theorem Accounted.inFlight_pos {r : Ring} (h : r.Accounted) {ticket : Ticket}
    (hh : r.honours ticket = true) : 0 < r.inFlight := by
  rw [h.inFlight]
  exact List.countP_pos_iff.mpr ⟨_, List.mem_of_getElem? (honours_iff.mp hh), rfl⟩

theorem Change.accounted {r r' : Ring} {action : Action} (h : r.Accounted)
    (hc : r.Change action r') : r'.Accounted := by
  have hw := hc.wellFormed h.wellFormed
  have hf := h.inFlight
  cases hc with
  | idle => exact h
  | @placed request info hr hfree _ =>
    have hs := h.wellFormed.slotState?_of_holder? r.nextSlot_lt hfree
    have hn : (r.place request info).coprocessorSlots + 0 = r.coprocessorSlots + 1 :=
      coprocessorSlots_set _ (.coprocessor r.nextSequence) hs rfl
    refine ⟨hw, ?_, ?_⟩
    · show r.inFlight + 1 = _
      omega
    · intro _
      exact Nat.succ_pos _
  | @finished ticket _ _ hh _ _ =>
    have hn : (r.finish ticket).coprocessorSlots + 1 = r.coprocessorSlots + 0 :=
      coprocessorSlots_set _ (.completed ticket.sequence) (honours_iff.mp hh) rfl
    refine ⟨hw, ?_, ?_⟩
    · show r.inFlight - 1 = _
      omega
    · simp [finish]
      omega
  | @freed completed hs =>
    exact ⟨hw, hf.trans (coprocessorSlots_set _ .free hs rfl).symm, h.waiting⟩
  | resetting hne => exact ⟨hw, hf, fun _ => Nat.pos_of_ne_zero hne⟩
  | reclaimed =>
    refine ⟨hw, ?_, ?_⟩
    · refine (List.countP_eq_zero.mpr ?_).symm
      intro state hs
      obtain ⟨old, -, rfl⟩ := List.mem_map.mp hs
      cases old <;> simp [SlotState.reclaimed, SlotState.isHostOwned]
    · intro hr
      cases hr
  | written _ => exact ⟨hw, hf, h.waiting⟩

theorem accounted_run (config : ChannelConfig) (first : UInt32) (actions : List Action) :
    ((startingAt config first).run actions).Accounted :=
  run_induction (fun h hc => hc.accounted h) actions (accounted_startingAt config first)

theorem coprocessorSlots_le {r : Ring} (h : r.WellFormed) :
    r.coprocessorSlots ≤ r.config.depth.slots := by
  rw [← h.slots]
  exact List.countP_le_length

/-! ## One action -/

@[simp] theorem inFlight_beginReset (r : Ring) : r.beginReset.inFlight = r.inFlight := by
  unfold beginReset
  split <;> rfl

/-- A completion takes one request out of the count if it collects a status, and none otherwise. -/
theorem Accounted.inFlight_complete {r : Ring} (h : r.Accounted) (ticket : Ticket)
    (notice : UInt32) :
    (r.complete ticket notice).1.inFlight +
      (if (r.complete ticket notice).2.completed?.isSome then 1 else 0) = r.inFlight := by
  have hc := r.complete_cases ticket notice
  generalize r.complete ticket notice = outcome at hc ⊢
  cases hc with
  | ready hh _ _ _ =>
    have hpos := h.inFlight_pos hh
    simp [CompletionResult.completed?, finish]
    omega
  | _ => simp [CompletionResult.completed?]

theorem collects_complete_iff_ready {r : Ring} {ticket : Ticket} {notice : UInt32} :
    r.collects (.complete ticket notice) = true ↔
      ∃ completed, (r.complete ticket notice).2 = .ready completed := by
  unfold collects
  dsimp only
  cases (r.complete ticket notice).2 <;> simp [CompletionResult.completed?]

/-- **What a completion collects**: a final status in a slot that is still the ticket's, under the
notice of the same request. -/
theorem collects_complete_iff {r : Ring} {ticket : Ticket} {notice : UInt32} :
    r.collects (.complete ticket notice) = true ↔
      r.honours ticket = true ∧ notice = ticket.sequence ∧
        storedSequence (r.slot ticket.index) = .ok ticket.sequence ∧
        ∃ status, decodeStatus (r.slot ticket.index) = .ok status ∧ status.isFinal = true := by
  constructor
  · intro hcollects
    have hsome : (r.complete ticket notice).2.completed?.isSome = true := hcollects
    have hc := r.complete_cases ticket notice
    generalize r.complete ticket notice = outcome at hc hsome
    cases hc with
    | ready hh hn hs hf =>
      obtain ⟨hsequence, hstatus⟩ := statusFor_eq_ok_iff.mp hs
      exact ⟨hh, hn, hsequence, _, hstatus, hf⟩
    | _ => cases hsome
  · rintro ⟨hh, rfl, hsequence, status, hstatus, hf⟩
    have hs := statusFor_eq_ok_iff.mpr ⟨hsequence, hstatus⟩
    simp only [collects, complete_of_status hh hs, if_pos hf]
    rfl

/--
**An honoured ticket whose slot holds a final status is collected and counted off.** The last one
ends a reset.
-/
theorem Accounted.counted_off {r : Ring} (h : r.Accounted) {ticket : Ticket}
    {status : CaptureStatus} (hh : r.honours ticket = true)
    (hsequence : storedSequence (r.slot ticket.index) = .ok ticket.sequence)
    (hstatus : decodeStatus (r.slot ticket.index) = .ok status) (hf : status.isFinal = true) :
    ∃ r', r.complete ticket ticket.sequence =
        (r', .ready ⟨ticket.index, ticket.sequence, status, status.classify⟩) ∧
      r'.inFlight + 1 = r.inFlight ∧
      (r'.resetting = true ↔ r.resetting = true ∧ r.inFlight ≠ 1) := by
  have hs := statusFor_eq_ok_iff.mpr ⟨hsequence, hstatus⟩
  have hpos := h.inFlight_pos hh
  refine ⟨r.finish ticket, (complete_of_status hh hs).trans (if_pos hf), ?_, ?_⟩
  · exact Nat.sub_add_cancel hpos
  · simp [finish]
    omega

/-- **What an action does to the count**, unless it takes a request or acknowledges a reset. -/
theorem Accounted.inFlight_perform {r : Ring} (h : r.Accounted) (action : Action)
    (hs : ∀ request info, action = .submit request info → r.resetting = true)
    (ha : action ≠ .acknowledgeReset) :
    (r.perform action).inFlight + (if r.collects action then 1 else 0) = r.inFlight := by
  cases action with
  | submit request info =>
    have hsub := submit_of_resetting (hs request info rfl) request info
    simp [perform, hsub, collects]
  | complete ticket notice => exact h.inFlight_complete ticket notice
  | readStatus _ => rfl
  | release completed =>
    unfold perform release
    dsimp only
    split <;> rfl
  | beginReset => exact r.inFlight_beginReset
  | acknowledgeReset => exact absurd rfl ha
  | write offset bytes =>
    unfold perform writeMemory?
    dsimp only
    split <;> rfl

/-- **When a reset is under way after an action**: it begins, or it goes on with a request left. -/
theorem Accounted.resetting_perform {r : Ring} (h : r.Accounted) (action : Action) :
    (r.perform action).resetting = true ↔
      (action = .beginReset ∧ 0 < r.inFlight) ∨
        (r.resetting = true ∧ action ≠ .acknowledgeReset ∧ 0 < (r.perform action).inFlight) := by
  have hwait := h.waiting
  -- The two reset actions are not told apart by what changes, so they go first.
  by_cases hb : action = .beginReset
  · subst hb
    by_cases h0 : r.inFlight = 0
    · simp [perform, beginReset, h0]
      simpa [h0] using hwait
    · simp [perform, beginReset, h0, Nat.pos_of_ne_zero h0]
  by_cases ha : action = .acknowledgeReset
  · subst ha
    simp [perform, acknowledgeReset]
  have hc := r.perform_change action
  generalize r.perform action = r' at hc ⊢
  cases hc with
  | idle => simp [hb, ha]; exact hwait
  | placed hr _ _ => simp [place, hr]
  | finished _ _ _ =>
    simp [finish]
    intro _
    omega
  | freed _ => simp; exact hwait
  | resetting _ => exact absurd rfl hb
  | reclaimed => exact absurd rfl ha
  | written _ => simp; exact hwait

/-- During a reset the count does not go up. -/
theorem Accounted.inFlight_perform_le {r : Ring} (h : r.Accounted) (hr : r.resetting = true)
    (action : Action) : (r.perform action).inFlight ≤ r.inFlight := by
  by_cases ha : action = .acknowledgeReset
  · subst ha
    simp [perform, acknowledgeReset]
  · have hcount := h.inFlight_perform action (fun _ _ _ => hr) ha
    omega

/-- A reset ends when it is acknowledged or the last status is collected. -/
theorem Accounted.reset_ends_iff {r : Ring} (h : r.Accounted) (hr : r.resetting = true)
    (action : Action) :
    (r.perform action).resetting = false ↔
      action = .acknowledgeReset ∨ (r.collects action = true ∧ r.inFlight = 1) := by
  have hpos := h.waiting hr
  rw [← Bool.not_eq_true, h.resetting_perform]
  by_cases ha : action = .acknowledgeReset
  · subst ha
    simp
  by_cases hb : action = .beginReset
  · subst hb
    simp [hpos, collects]
  have hcount := h.inFlight_perform action (fun _ _ _ => hr) ha
  cases hcol : r.collects action <;> simp [hcol] at hcount <;> simp [hb, ha, hr] <;> omega

/-! ## Histories -/

/-- A reset is open one action later if it begins with that action, or stays open through it. -/
theorem resetOpen_concat (r : Ring) (actions : List Action) (action : Action) :
    r.ResetOpen (actions ++ [action]) ↔
      (action = .beginReset ∧ 0 < (r.run actions).inFlight) ∨
        (r.ResetOpen actions ∧ action ≠ .acknowledgeReset ∧
          0 < (r.run (actions ++ [action])).inFlight) := by
  constructor
  · rintro ⟨before, after, he, h0, hack, hmiddle⟩
    rcases after.eq_nil_or_concat with rfl | ⟨after, last, rfl⟩
    · obtain ⟨rfl, hlast⟩ := List.append_inj' he rfl
      cases hlast
      exact .inl ⟨rfl, h0⟩
    · have he' : actions ++ [action] = (before ++ .beginReset :: after) ++ [last] := by
        rw [he]
        simp
      obtain ⟨rfl, hlast⟩ := List.append_inj' he' rfl
      cases hlast
      simp only [List.concat_eq_append, List.mem_append, List.mem_singleton, not_or] at hack
      refine .inr ⟨⟨before, after, rfl, h0, hack.1, ?_⟩, Ne.symm hack.2, ?_⟩
      · intro middle hm
        exact hmiddle middle (hm.trans (by simp))
      · rw [he]
        exact hmiddle _ List.prefix_rfl
  · rintro (⟨rfl, h0⟩ | ⟨⟨before, after, rfl, h0, hack, hmiddle⟩, hne, hpos⟩)
    · refine ⟨actions, [], rfl, h0, by simp, ?_⟩
      intro middle hm
      rw [List.prefix_nil.mp hm, run_concat]
      exact Nat.lt_of_lt_of_eq h0 (inFlight_beginReset _).symm
    · refine ⟨before, after ++ [action], by simp, h0, ?_, ?_⟩
      · simp only [List.mem_append, List.mem_singleton, not_or]
        exact ⟨hack, Ne.symm hne⟩
      · intro middle hm
        rcases List.prefix_concat_iff.mp hm with rfl | hm
        · simpa using hpos
        · exact hmiddle middle hm

theorem resetting_run_iff (config : ChannelConfig) (first : UInt32) (actions : List Action) :
    ((startingAt config first).run actions).resetting = true ↔
      (startingAt config first).ResetOpen actions := by
  induction actions using List.reverseRecOn with
  | nil => simp [run, startingAt, ResetOpen]
  | append_singleton actions action ih =>
    have h := accounted_run config first actions
    rw [resetOpen_concat, run_concat, h.resetting_perform, ih]

/-! ## The protocol -/

/-- Outside a reset only the slot and the rules decide whether a request is taken. -/
theorem submit_eq_ok_iff {r : Ring} (hw : r.WellFormed) (hr : r.resetting = false)
    (request : CaptureRequest) (info : Option MemoryInfo) :
    (∃ r' ticket, r.submit request info = .ok (r', ticket)) ↔
      r.slotState? r.nextSlot = some .free ∧ Rule.Accepted (r.submissionRules request info) := by
  constructor
  · rintro ⟨r', ticket, h⟩
    obtain ⟨-, hf, ha, -, -⟩ := submit_eq_ok h
    exact ⟨hw.slotState?_of_holder? r.nextSlot_lt hf, ha⟩
  · rintro ⟨hs, ha⟩
    have hfree : r.holder? r.nextSlot = none := by
      rw [holder?, hs]
      rfl
    rw [submit_of_free hr hfree, Rule.enforce_of_accepted _ ha]
    exact ⟨_, _, rfl⟩

/--
**Requests in flight and resets.** In every ring that a run leads to, the count of requests in
flight is that of the slots that the coprocessor has; it is positive during a reset and whenever a
status is collected, which takes one away. A reset is under way exactly when one began with a
request in flight, was not acknowledged since, and the count has not come down to zero since. It
refuses every request with that count and changes nothing; the count only goes down, by one for each
status that is collected; and it ends with the acknowledgement or with the last status. Outside a
reset a request is taken exactly when its slot is free and it keeps the rules.
-/
theorem reset_protocol (config : ChannelConfig) (first : UInt32) (actions : List Action) :
    let r := (startingAt config first).run actions
    r.inFlight = r.coprocessorSlots ∧ r.inFlight ≤ config.depth.slots ∧
    (r.resetting = true → 0 < r.inFlight) ∧
    (∀ ticket notice completed, (r.complete ticket notice).2 = .ready completed →
      0 < r.inFlight ∧ (r.complete ticket notice).1.inFlight + 1 = r.inFlight) ∧
    (r.resetting = true ↔ (startingAt config first).ResetOpen actions) ∧
    (r.resetting = true →
      (∀ request info,
        r.submit request info = .error (.channelResetting r.coprocessorSlots) ∧
          r.perform (.submit request info) = r) ∧
      (∀ action, (r.perform action).inFlight ≤ r.inFlight ∧
        (action ≠ .acknowledgeReset →
          (r.perform action).inFlight + (if r.collects action then 1 else 0) = r.inFlight) ∧
        ((r.perform action).resetting = false ↔
          action = .acknowledgeReset ∨ (r.collects action = true ∧ r.inFlight = 1)))) ∧
    (r.resetting = false → ∀ request info,
      (∃ r' ticket, r.submit request info = .ok (r', ticket)) ↔
        r.slotState? r.nextSlot = some .free ∧
          Rule.Accepted (r.submissionRules request info)) := by
  intro r
  have h : r.Accounted := accounted_run config first actions
  have hc : r.config = config := config_run (startingAt config first) actions
  have hle := coprocessorSlots_le h.wellFormed
  rw [← h.inFlight, hc] at hle
  refine ⟨h.inFlight, hle, h.waiting, ?_, resetting_run_iff config first actions, ?_, ?_⟩
  · intro ticket notice completed hready
    have hcount := h.inFlight_complete ticket notice
    simp [hready, CompletionResult.completed?] at hcount
    exact ⟨by omega, hcount⟩
  · intro hr
    constructor
    · intro request info
      have hsub := submit_of_resetting hr request info
      exact ⟨by rw [hsub, h.inFlight], by simp [perform, hsub]⟩
    · intro action
      refine ⟨h.inFlight_perform_le hr action, ?_, h.reset_ends_iff hr action⟩
      exact h.inFlight_perform action fun _ _ _ => hr
  · intro hr request info
    exact submit_eq_ok_iff h.wellFormed hr request info

/--
A reset with two requests in flight, both of which the coprocessor has finished: collecting the
first leaves one to wait for, and collecting the second ends the reset.
-/
theorem reset_protocol_two_in_flight :
    let actions := [.submit {} none, .submit {} none, .beginReset,
      .report .threeSlots 1 { code := .success }, .report .threeSlots 2 { code := .success }]
    let r := (startingAt .threeSlots 7).run actions
    let r' := (startingAt .threeSlots 7).run (actions ++ [.complete ⟨1, 7, none⟩ 7])
    r.resetting = true ∧ r.inFlight = 2 ∧ r.submit {} none = .error (.channelResetting 2) ∧
      (∃ completed, r.complete ⟨1, 7, none⟩ 7 = (r', .ready completed)) ∧
      r'.resetting = true ∧ r'.inFlight = 1 ∧
      (r'.perform (.complete ⟨2, 8, none⟩ 8)).resetting = false := by
  intro actions r r'
  obtain ⟨hresetting, hslots, hfirst⟩ : r.resetting = true ∧ r.coprocessorSlots = 2 ∧
      r.collects (.complete ⟨1, 7, none⟩ 7) = true := by decide +kernel
  obtain ⟨hresetting', hsecond⟩ : r'.resetting = true ∧
      r'.collects (.complete ⟨2, 8, none⟩ 8) = true := by decide +kernel
  have hrun : r' = (r.complete ⟨1, 7, none⟩ 7).1 := run_concat _ _ _
  have hprotocol := reset_protocol .threeSlots 7 actions
  have hprotocol' := reset_protocol .threeSlots 7 (actions ++ [.complete ⟨1, 7, none⟩ 7])
  -- From here on the two rings are looked at only through what was just said of them.
  have hr : (startingAt .threeSlots 7).run actions = r := rfl
  have hr' : (startingAt .threeSlots 7).run (actions ++ [.complete ⟨1, 7, none⟩ 7]) = r' := rfl
  clear_value r r'
  rw [hr] at hprotocol
  rw [hr'] at hprotocol'
  obtain ⟨completed, hready⟩ := collects_complete_iff_ready.mp hfirst
  obtain ⟨hcount, -, -, hoff, -, hreset, -⟩ := hprotocol
  obtain ⟨-, -, -, -, -, hreset', -⟩ := hprotocol'
  have hflight : r.inFlight = 2 := hcount.trans hslots
  have hleft : r'.inFlight = 1 := by
    have hone := (hoff _ _ _ hready).2
    rw [hflight, ← hrun] at hone
    exact Nat.succ.inj hone
  refine ⟨hresetting, hflight, ?_, ⟨completed, Prod.ext hrun.symm hready⟩, hresetting', hleft, ?_⟩
  · rw [← hslots]
    exact ((hreset hresetting).1 {} none).1
  · exact ((hreset' hresetting').2 _).2.2.mpr (.inr ⟨hsecond, hleft⟩)

end Ring

end CaptureProtocol
