import CaptureProtocol.Proofs.Ring.Reset
import CaptureProtocol.Proofs.Ring.SequenceWindow

/-!
# How many requests a ring takes

A ring with `d` free slots takes `d` requests in a row, unless its sequence numbers wrap meanwhile:
then the numbers behind the wrap come to slots that the numbers before it have taken. With
`m = 2 ^ 32 % d` and `r` numbers left before the wrap, `r < d`, the slots run out after `r` or after
`m` requests, whichever is more.

* `QueueDepth.lap_of_wrap`: the lap of a number whose slot comes round behind the wrap.
* `QueueDepth.capacity_le_lap`, `QueueDepth.exists_lap_eq_capacity`: **the capacity is the shortest
  way from a first number back to a slot that was met on the way**.
* `Filled`: a ring that has taken so many requests since it was empty. `Filled.run`: what a row of
  submissions makes of it.
* `submissions_until_busy`: **a free ring takes exactly `capacity` requests in a row**, and then its
  next slot is busy.
-/

set_option autoImplicit false

namespace CaptureProtocol

/-! ## Sequence numbers in a row -/

namespace QueueDepth

/-- How many numbers from `first` on have slots of their own, one after another. -/
def capacity (depth : QueueDepth) (first : UInt32) : Nat :=
  if UInt32.size % depth.slots = 0 ∨ depth.slots ≤ UInt32.size - first.toNat then depth.slots
  else max (UInt32.size - first.toNat) (UInt32.size % depth.slots)

theorem toNat_add_ofNat (first : UInt32) {i : Nat} (h : first.toNat + i < UInt32.size) :
    (first + UInt32.ofNat i).toNat = first.toNat + i := by
  have hi : (UInt32.ofNat i).toNat = i := UInt32.toNat_ofNat_of_lt' (by omega)
  rw [UInt32.toNat_add, hi]
  exact Nat.mod_eq_of_lt h

theorem toNat_add_ofNat_of_wrap (first : UInt32) {i : Nat} (hi : i < UInt32.size)
    (h : UInt32.size ≤ first.toNat + i) :
    (first + UInt32.ofNat i).toNat = first.toNat + i - UInt32.size := by
  have hi' : (UInt32.ofNat i).toNat = i := UInt32.toNat_ofNat_of_lt' hi
  have ha : first.toNat < UInt32.size := first.toNat_lt
  rw [UInt32.toNat_add, hi']
  exact (Nat.mod_eq_sub_mod h).trans (Nat.mod_eq_of_lt (by omega))

/-- The remainder of a number that is at most one turn below another. -/
theorem sub_mod_eq {n d t : Nat} (h0 : 0 < t) (ht : t ≤ d) (h : d ≤ n) :
    (n - t) % d = if t ≤ n % d then n % d - t else d + n % d - t := by
  have hturns := Nat.div_add_mod n d
  have hm := Nat.mod_lt n (Nat.lt_of_lt_of_le h0 ht)
  have hq := Nat.div_pos h (Nat.lt_of_lt_of_le h0 ht)
  generalize n % d = m at *
  generalize n / d = q at *
  split
  · have hsame : n - t = d * q + (m - t) := by omega
    rw [hsame, Nat.mul_add_mod, Nat.mod_eq_of_lt (by omega)]
  · obtain ⟨q, rfl⟩ := Nat.exists_eq_add_one.mpr hq
    rw [Nat.mul_add, Nat.mul_one] at hturns
    have hlast : n - t = d * q + (d + m - t) := by omega
    rw [hlast, Nat.mul_add_mod, Nat.mod_eq_of_lt (by omega)]

/-- The lap of a number with `t` numbers left, itself included, whose slot comes round later. -/
theorem lap_of_wrap (depth : QueueDepth) {sequence : UInt32} {t : Nat} (h0 : 0 < t)
    (ht : t ≤ depth.slots) (h : sequence.toNat + t = UInt32.size) :
    depth.lap sequence = if t ≤ UInt32.size % depth.slots then UInt32.size % depth.slots
      else depth.slots + UInt32.size % depth.slots := by
  have hd := depth.slots_le
  have hN : 240 < UInt32.size := by decide
  have hm := Nat.mod_lt UInt32.size depth.slots_pos
  have hmod := sub_mod_eq h0 ht (Nat.le_of_lt (Nat.lt_of_le_of_lt hd hN))
  rw [← h, Nat.add_sub_cancel, h] at hmod
  unfold lap
  rw [if_neg (by omega), hmod]
  split <;> split <;> omega

/-- The capacity is full unless the numbers wrap on the way, at a depth with a rest. -/
theorem capacity_cases (depth : QueueDepth) (first : UInt32) :
    (depth.capacity first = depth.slots ∧
        (UInt32.size % depth.slots = 0 ∨ depth.slots ≤ UInt32.size - first.toNat)) ∨
      (depth.capacity first = max (UInt32.size - first.toNat) (UInt32.size % depth.slots) ∧
        0 < UInt32.size % depth.slots ∧ UInt32.size - first.toNat < depth.slots) := by
  unfold capacity
  split <;> omega

theorem capacity_le (depth : QueueDepth) (first : UInt32) :
    depth.capacity first ≤ depth.slots := by
  have hm := Nat.mod_lt UInt32.size depth.slots_pos
  rcases depth.capacity_cases first with ⟨h, -⟩ | ⟨h, -, hr⟩ <;> omega

/-- No slot comes round again before the capacity is reached. -/
theorem capacity_le_lap (depth : QueueDepth) (first : UInt32) {i : Nat}
    (hi : i < depth.capacity first) :
    depth.capacity first ≤ i + depth.lap (first + UInt32.ofNat i) := by
  have hcap := depth.capacity_le first
  have hd := depth.slots_le
  have hN : 480 < UInt32.size := by decide
  have ha : first.toNat < UInt32.size := first.toNat_lt
  by_cases hwrap : UInt32.size ≤ first.toNat + i
  · -- Behind the wrap there is a whole turn to go.
    have hq := toNat_add_ofNat_of_wrap first (by omega) hwrap
    rw [lap, if_pos (by omega)]
    omega
  have hq := toNat_add_ofNat first (Nat.lt_of_not_le hwrap)
  by_cases hfar : first.toNat + i + depth.slots < UInt32.size
  · rw [lap, if_pos (by omega)]
    omega
  · rw [depth.lap_of_wrap (t := UInt32.size - (first.toNat + i)) (by omega) (by omega) (by omega)]
    rcases depth.capacity_cases first with ⟨hc, hfull⟩ | ⟨hc, hm, hr⟩ <;> split <;> omega

/-- At the capacity a slot comes round again. -/
theorem exists_lap_eq_capacity (depth : QueueDepth) (first : UInt32) :
    ∃ i < depth.capacity first,
      i + depth.lap (first + UInt32.ofNat i) = depth.capacity first := by
  have hpos := depth.slots_pos
  have hd := depth.slots_le
  have hN : 480 < UInt32.size := by decide
  have ha : first.toNat < UInt32.size := first.toNat_lt
  have hm := Nat.mod_lt UInt32.size depth.slots_pos
  have hzero : first + UInt32.ofNat 0 = first := UInt32.add_zero first
  -- A number whose slot comes round behind the wrap, `t` numbers before it.
  have back : ∀ {i t : Nat}, 0 < t → t ≤ depth.slots → first.toNat + i + t = UInt32.size →
      depth.lap (first + UInt32.ofNat i) = if t ≤ UInt32.size % depth.slots
        then UInt32.size % depth.slots else depth.slots + UInt32.size % depth.slots := by
    intro i t h0 ht h
    have hq := toNat_add_ofNat first (i := i) (by omega)
    exact depth.lap_of_wrap h0 ht (by omega)
  rcases depth.capacity_cases first with ⟨hc, hfull⟩ | ⟨hc, hm0, hr⟩
  · by_cases hfar : UInt32.size % depth.slots = 0 ∨ depth.slots < UInt32.size - first.toNat
    · refine ⟨0, by omega, ?_⟩
      rw [hzero, hc, Nat.zero_add]
      rcases hfar with h0 | hfar
      · exact lap_of_dvd (Nat.dvd_of_mod_eq_zero h0) first
      · rw [lap, if_pos (by omega)]
    · refine ⟨depth.slots - UInt32.size % depth.slots, by omega, ?_⟩
      rw [back (t := UInt32.size % depth.slots) (by omega) (by omega) (by omega),
        if_pos (Nat.le_refl _)]
      omega
  · by_cases hmr : UInt32.size % depth.slots ≤ UInt32.size - first.toNat
    · refine ⟨UInt32.size - first.toNat - UInt32.size % depth.slots, by omega, ?_⟩
      rw [back (t := UInt32.size % depth.slots) (by omega) (by omega) (by omega),
        if_pos (Nat.le_refl _)]
      omega
    · refine ⟨0, by omega, ?_⟩
      rw [back (t := UInt32.size - first.toNat) (by omega) (by omega) (by omega),
        if_pos (by omega)]
      omega

/-- Before the capacity every number has a slot of its own. -/
theorem slotOf_ne_of_lt_capacity (depth : QueueDepth) (first : UInt32) {i k : Nat} (hik : i < k)
    (hk : k < depth.capacity first) :
    depth.slotOf (first + UInt32.ofNat i) ≠ depth.slotOf (first + UInt32.ofNat k) := by
  have hlap := depth.capacity_le_lap first (Nat.lt_trans hik hk)
  have hsum : first + UInt32.ofNat k =
      first + UInt32.ofNat i + UInt32.ofNat (k - i) := by
    rw [UInt32.add_assoc, ← UInt32.ofNat_add, Nat.add_sub_cancel' (Nat.le_of_lt hik)]
  rw [hsum]
  intro h
  have := (depth.slotOf_add_iff (first + UInt32.ofNat i) (by omega) (by omega)).mp h.symm
  omega

/-- At the capacity the next number comes to the slot of an earlier one. -/
theorem exists_slotOf_capacity (depth : QueueDepth) (first : UInt32) :
    ∃ i < depth.capacity first, depth.slotOf (first + UInt32.ofNat i) =
      depth.slotOf (first + UInt32.ofNat (depth.capacity first)) := by
  obtain ⟨i, hi, hlap⟩ := depth.exists_lap_eq_capacity first
  refine ⟨i, hi, ?_⟩
  have hback := (depth.slotOf_add_iff (first + UInt32.ofNat i) (depth.lap_pos _)
    (Nat.le_refl _)).mpr rfl
  rw [UInt32.add_assoc, ← UInt32.ofNat_add, hlap] at hback
  exact hback.symm

end QueueDepth

/-! ## Submissions in a row -/

/-- A request and its memory information, if there is any, keep the rules of a channel. -/
def ChannelConfig.Accepts (config : ChannelConfig) (request : CaptureRequest)
    (info : Option MemoryInfo) : Prop :=
  (∀ m ∈ info, Rule.Accepted m.rules) ∧ Rule.Accepted (request.rules config)

namespace Action

/-- Whether the action is a submission. -/
def isSubmission : Action → Bool
  | submit _ _ => true
  | _ => false

/-- A submission that keeps the rules of a channel, or what the coprocessor writes meanwhile. -/
def Feeds (config : ChannelConfig) : Action → Prop
  | submit request info => config.Accepts request info
  | write _ _ => True
  | _ => False

end Action

namespace Ring

variable {r : Ring}

theorem accepted_submissionRules {request : CaptureRequest} {info : Option MemoryInfo} :
    Rule.Accepted (r.submissionRules request info) ↔ r.config.Accepts request info := by
  unfold submissionRules ChannelConfig.Accepts
  rw [Rule.accepted_append]
  cases info with
  | none => simp [Rule.accepted_nil]
  | some m => simp

theorem submit_of_accepted (hr : r.resetting = false) (hs : r.holder? r.nextSlot = none)
    {request : CaptureRequest} {info : Option MemoryInfo} (ha : r.config.Accepts request info) :
    r.submit request info =
      .ok (r.place request info, ⟨r.nextSlot, r.nextSequence, request.timeout?⟩) := by
  rw [submit_of_free hr hs, Rule.enforce_of_accepted _ (accepted_submissionRules.mpr ha)]
  rfl

/-- The ring has taken `k` requests since it was empty, the first one with the number `first`. -/
structure Filled (first : UInt32) (k : Nat) (r : Ring) : Prop where
  accounted : r.Accounted
  open_ : r.resetting = false
  inFlight : r.inFlight = k
  nextSequence : r.nextSequence = first + UInt32.ofNat k
  held : ∀ j, (r.holder? j).isSome ↔
    ∃ i < k, r.config.depth.slotOf (first + UInt32.ofNat i) = j

/-- A ring whose slots are free has no request in flight, and so no reset under way. -/
theorem Accounted.filled_of_free (h : r.Accounted)
    (hfree : ∀ i < r.config.depth.slots, r.slotState? i = some .free) :
    r.Filled r.nextSequence 0 := by
  have hcount : r.inFlight = 0 := by
    rw [h.inFlight]
    refine List.countP_eq_zero.mpr fun state hs => ?_
    obtain ⟨i, hi⟩ := List.mem_iff_getElem?.mp hs
    have hstate := (hfree i (h.wellFormed.lt_depth hi)).symm.trans hi
    cases hstate
    decide
  refine ⟨h, ?_, hcount, (UInt32.add_zero _).symm, ?_⟩
  · refine Bool.eq_false_iff.mpr fun hr => ?_
    have hpos := h.waiting hr
    omega
  · intro j
    constructor
    · intro hj
      obtain ⟨sequence, hj⟩ := Option.isSome_iff_exists.mp hj
      rcases holder?_eq_some.mp hj with hs | hs
      · cases (hfree j (h.wellFormed.lt_depth hs)).symm.trans hs
      · cases (hfree j (h.wellFormed.lt_depth hs)).symm.trans hs
    · rintro ⟨i, hi, -⟩
      cases hi

namespace Filled

variable {first : UInt32} {k : Nat}

theorem nextSlot_eq (h : r.Filled first k) :
    r.nextSlot = r.config.depth.slotOf (first + UInt32.ofNat k) := by
  rw [nextSlot, h.nextSequence]

/-- Below the capacity the next slot is free. -/
theorem holder?_nextSlot (h : r.Filled first k) (hk : k < r.config.depth.capacity first) :
    r.holder? r.nextSlot = none := by
  refine Option.not_isSome_iff_eq_none.mp fun hheld => ?_
  obtain ⟨i, hi, hslot⟩ := (h.held r.nextSlot).mp hheld
  rw [h.nextSlot_eq] at hslot
  exact r.config.depth.slotOf_ne_of_lt_capacity first hi hk hslot

theorem place (h : r.Filled first k) (hk : k < r.config.depth.capacity first)
    {request : CaptureRequest} {info : Option MemoryInfo} (ha : r.config.Accepts request info) :
    (r.place request info).Filled first (k + 1) := by
  have hfree := h.holder?_nextSlot hk
  have hchange : r.Change (.submit request info) (r.place request info) :=
    .placed h.open_ hfree (accepted_submissionRules.mpr ha)
  refine ⟨hchange.accounted h.accounted, h.open_, congrArg (· + 1) h.inFlight, ?_, ?_⟩
  · show r.nextSequence + 1 = _
    rw [h.nextSequence, UInt32.add_assoc, UInt32.ofNat_add]
    rfl
  · intro j
    have hold := h.held j
    unfold holder? at hold ⊢
    rw [h.accounted.wellFormed.slotState?_place]
    by_cases hj : j = r.nextSlot
    · rw [if_pos hj]
      refine iff_of_true rfl ⟨k, Nat.lt_succ_self k, ?_⟩
      rw [hj]
      exact h.nextSlot_eq.symm
    · rw [if_neg hj, hold]
      constructor
      · rintro ⟨i, hi, hs⟩
        exact ⟨i, Nat.lt_succ_of_lt hi, hs⟩
      · rintro ⟨i, hi, hs⟩
        rcases Nat.lt_succ_iff_lt_or_eq.mp hi with hi | rfl
        · exact ⟨i, hi, hs⟩
        · exact absurd (hs.symm.trans h.nextSlot_eq.symm) hj

/-- At the capacity the next slot is taken, whatever is to be put into it. -/
theorem submit_of_full (h : r.Filled first (r.config.depth.capacity first))
    (request : CaptureRequest) (info : Option MemoryInfo) :
    ∃ sequence, r.submit request info = .error (.slotBusy r.nextSlot sequence) := by
  obtain ⟨i, hi, hslot⟩ := r.config.depth.exists_slotOf_capacity first
  rw [← h.nextSlot_eq] at hslot
  obtain ⟨sequence, hs⟩ := Option.isSome_iff_exists.mp ((h.held r.nextSlot).mpr ⟨i, hi, hslot⟩)
  exact ⟨sequence, submit_of_held h.open_ hs request info⟩

/-- **What one step of the row does**: a submission fills the ring up to its capacity. -/
theorem perform (h : r.Filled first k) (hk : k ≤ r.config.depth.capacity first) {action : Action}
    (ha : action.Feeds r.config) :
    (r.perform action).Filled first
      (min (k + if action.isSubmission then 1 else 0) (r.config.depth.capacity first)) := by
  cases action with
  | submit request info =>
    rcases Nat.lt_or_eq_of_le hk with hlt | rfl
    · have hsubmit := submit_of_accepted h.open_ (h.holder?_nextSlot hlt) ha
      have hsum : min (k + 1) (r.config.depth.capacity first) = k + 1 := Nat.min_eq_left hlt
      simp only [Ring.perform, hsubmit, Action.isSubmission, if_true, hsum]
      exact h.place hlt ha
    · obtain ⟨sequence, hsubmit⟩ := h.submit_of_full request info
      simp only [Ring.perform, hsubmit, Action.isSubmission, if_true,
        Nat.min_eq_right (Nat.le_succ _)]
      exact h
  | write offset bytes =>
    have hchange := r.perform_change (.write offset bytes)
    have haccounted := hchange.accounted h.accounted
    simp only [Action.isSubmission, Bool.false_eq_true, if_false, Nat.add_zero,
      Nat.min_eq_left hk]
    generalize r.perform (.write offset bytes) = r' at hchange haccounted ⊢
    cases hchange with
    | idle => exact h
    | written _ => exact ⟨haccounted, h.open_, h.inFlight, h.nextSequence, h.held⟩
  | _ => exact ha.elim

theorem run (h : r.Filled first k) (hk : k ≤ r.config.depth.capacity first)
    {actions : List Action} (ha : ∀ action ∈ actions, action.Feeds r.config) :
    (r.run actions).Filled first
      (min (k + actions.countP Action.isSubmission) (r.config.depth.capacity first)) := by
  induction actions generalizing r k with
  | nil =>
    rw [List.countP_nil, Nat.add_zero, Nat.min_eq_left hk]
    exact h
  | cons action actions ih =>
    have hstep := h.perform hk (ha action List.mem_cons_self)
    have hconfig := (r.perform_change action).config_eq
    have hrest := ih (r := r.perform action) hstep (by rw [hconfig]; omega) (by
      intro a hm
      rw [hconfig]
      exact ha a (List.mem_cons_of_mem _ hm))
    have hsum : min (min (k + if action.isSubmission then 1 else 0)
          (r.config.depth.capacity first) + actions.countP Action.isSubmission)
          (r.config.depth.capacity first) =
        min (k + (action :: actions).countP Action.isSubmission)
          (r.config.depth.capacity first) := by
      rw [List.countP_cons]
      omega
    rw [hconfig, hsum] at hrest
    exact hrest

end Filled

/--
**A free ring takes exactly `capacity` requests in a row.** Take any ring that a run leads to, all of
whose slots are free, with `d` slots, the next number `s`, `m = 2 ^ 32 % d` and `r = 2 ^ 32 - s`
numbers left before the wrap. Its capacity is `d` if `m = 0` or `d ≤ r`, and the greater of `r` and
`m` otherwise. Let it be given any row of requests that keep the rules of the channel, while the
coprocessor writes what it likes and nothing is completed. Then as many are taken as there were, up
to the capacity; before that the next request that keeps the rules is taken, and from then on the
next request is refused because its slot is busy.
-/
theorem submissions_until_busy (config : ChannelConfig) (first : UInt32) (actions : List Action) :
    let r := (startingAt config first).run actions
    let capacity := config.depth.capacity r.nextSequence
    (∀ i < config.depth.slots, r.slotState? i = some .free) →
    ∀ row, (∀ action ∈ row, action.Feeds config) →
      let given := row.countP Action.isSubmission
      let r' := r.run row
      r'.inFlight = min given capacity ∧
      r'.nextSequence = r.nextSequence + UInt32.ofNat (min given capacity) ∧
      (given < capacity → ∀ request info, config.Accepts request info →
        ∃ r'' ticket, r'.submit request info = .ok (r'', ticket)) ∧
      (capacity ≤ given → ∀ request info,
        ∃ index sequence, r'.submit request info = .error (.slotBusy index sequence)) := by
  intro r capacity hfree row hrow given r'
  have hc : r.config = config := config_run (startingAt config first) actions
  have hc' : r'.config = config := (config_run r row).trans hc
  have hempty := (accounted_run config first actions).filled_of_free (hc.symm ▸ hfree)
  have hfilled : r'.Filled r.nextSequence (min given capacity) := by
    have hfeeds : ∀ action ∈ row, action.Feeds r.config := by
      rw [hc]
      exact hrow
    have hrun := hempty.run (Nat.zero_le _) hfeeds
    rw [Nat.zero_add, hc] at hrun
    exact hrun
  refine ⟨hfilled.inFlight, hfilled.nextSequence, ?_, ?_⟩
  · intro hlt request info ha
    have hnext := hfilled.holder?_nextSlot (by rw [hc']; omega)
    exact ⟨_, _, submit_of_accepted hfilled.open_ hnext (hc'.symm ▸ ha)⟩
  · intro hle request info
    rw [Nat.min_eq_right hle, show capacity = r'.config.depth.capacity r.nextSequence by rw [hc']]
      at hfilled
    obtain ⟨sequence, hbusy⟩ := hfilled.submit_of_full request info
    exact ⟨_, sequence, hbusy⟩

/-- Two numbers before the wrap, a ring of three slots takes two requests and not a third. -/
theorem submissions_until_busy_at_wrap :
    let r := startingAt .threeSlots 0xFFFFFFFE
    let row : List Action := [.submit {} none, .write 0 [7], .submit {} none]
    (∀ i < ChannelConfig.threeSlots.depth.slots, r.slotState? i = some .free) ∧
      (∀ action ∈ row, action.Feeds .threeSlots) ∧
      ChannelConfig.threeSlots.depth.capacity 0xFFFFFFFE = 2 ∧ (r.run row).inFlight = 2 ∧
      ∃ index sequence, (r.run row).submit {} none = .error (.slotBusy index sequence) := by
  intro r row
  have hfree : ∀ i < ChannelConfig.threeSlots.depth.slots, r.slotState? i = some .free := by
    decide
  have hrow : ∀ action ∈ row, action.Feeds .threeSlots := by
    have ha : ChannelConfig.threeSlots.Accepts {} none := ⟨by simp, by decide⟩
    simp [row, Action.Feeds, ha]
  have hcapacity : ChannelConfig.threeSlots.depth.capacity 0xFFFFFFFE = 2 := by decide
  obtain ⟨hcount, -, -, hbusy⟩ := submissions_until_busy .threeSlots 0xFFFFFFFE [] hfree row hrow
  exact ⟨hfree, hrow, hcapacity, hcount, hbusy (by decide) {} none⟩

end Ring

end CaptureProtocol
