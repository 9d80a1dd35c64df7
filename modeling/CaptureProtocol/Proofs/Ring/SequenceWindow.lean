import CaptureProtocol.Proofs.Ring.Run

/-!
# Sequence numbers of held slots

Sequence numbers wrap at `2 ^ 32`, and a slot takes the numbers that leave it as remainder modulo
the depth `d`. Unless `d` divides `2 ^ 32` the pattern breaks at the wrap: with `m = 2 ^ 32 % d`, the
numbers of one slot are `d` apart everywhere else and `m` or `d + m` apart there.

* `QueueDepth.slotOf_add_iff`: the number `lap` steps on is the next one of the same slot.
* `Window`: a held slot has a number of its own, and the ring has not gone further than the lap of
  that number. `window_run`: every ring that a run leads to keeps to it.
* `sequence_window`: **the numbers in use lie within one lap of the next one**, so no number is held
  twice or given out while it is held, and a busy slot is met exactly one lap later.
-/

set_option autoImplicit false

namespace CaptureProtocol

/-! ## The lap of a sequence number -/

namespace QueueDepth

/-- How many submissions after a sequence number its slot comes round again. -/
def lap (depth : QueueDepth) (sequence : UInt32) : Nat :=
  if sequence.toNat + depth.slots < UInt32.size then depth.slots
  else if sequence.toNat % depth.slots < UInt32.size % depth.slots then UInt32.size % depth.slots
  else depth.slots + UInt32.size % depth.slots

theorem slotOf_eq (depth : QueueDepth) (sequence : UInt32) :
    depth.slotOf sequence = sequence.toNat % depth.slots := UInt32.toNat_mod _ _

theorem lap_eq (depth : QueueDepth) (sequence : UInt32) :
    depth.lap sequence = depth.slots ∨ depth.lap sequence = UInt32.size % depth.slots ∨
      depth.lap sequence = depth.slots + UInt32.size % depth.slots := by
  unfold lap
  split
  · exact .inl rfl
  · split
    · exact .inr (.inl rfl)
    · exact .inr (.inr rfl)

theorem lap_of_dvd {depth : QueueDepth} (h : depth.slots ∣ UInt32.size) (sequence : UInt32) :
    depth.lap sequence = depth.slots := by
  have hm : UInt32.size % depth.slots = 0 := Nat.mod_eq_zero_of_dvd h
  unfold lap
  rw [hm]
  split
  · rfl
  · rw [if_neg (Nat.not_lt_zero _), Nat.add_zero]

theorem lap_le (depth : QueueDepth) (sequence : UInt32) :
    depth.lap sequence ≤ depth.slots + UInt32.size % depth.slots := by
  rcases depth.lap_eq sequence with h | h | h <;> omega

theorem lap_lt (depth : QueueDepth) (sequence : UInt32) : depth.lap sequence < UInt32.size := by
  have h := depth.lap_le sequence
  have hd := depth.slots_le
  have hm := Nat.mod_lt UInt32.size depth.slots_pos
  have hN : 480 < UInt32.size := by decide
  omega

theorem lap_pos (depth : QueueDepth) (sequence : UInt32) : 0 < depth.lap sequence := by
  have hd := depth.slots_pos
  unfold lap
  split
  · exact hd
  · split <;> omega

/-- Up to a whole turn, only the turn itself leads back to a remainder. -/
theorem add_mod_eq_iff {d c i k : Nat} (hi : i < d) (h0 : 0 < k) (hk : k ≤ d) :
    (d * c + i + k) % d = i ↔ k = d := by
  rw [Nat.add_assoc, Nat.mul_add_mod]
  by_cases h : i + k < d
  · rw [Nat.mod_eq_of_lt h]
    omega
  · rw [Nat.mod_eq_sub_mod (by omega), Nat.mod_eq_of_lt (by omega)]
    omega

/-- Within a lap only the end of the lap leads back to the slot. -/
theorem slotOf_add_iff (depth : QueueDepth) (sequence : UInt32) {k : Nat} (h0 : 0 < k)
    (hk : k ≤ depth.lap sequence) :
    depth.slotOf (sequence + UInt32.ofNat k) = depth.slotOf sequence ↔
      k = depth.lap sequence := by
  have hlt := depth.lap_lt sequence
  have hk' : (UInt32.ofNat k).toNat = k := UInt32.toNat_ofNat_of_lt' (Nat.lt_of_le_of_lt hk hlt)
  have hadd : (sequence + UInt32.ofNat k).toNat = (sequence.toNat + k) % UInt32.size := by
    rw [UInt32.toNat_add, hk']
  have ha : sequence.toNat < UInt32.size := sequence.toNat_lt
  have hN : 240 < UInt32.size := by decide
  rw [slotOf_eq, slotOf_eq, hadd]
  unfold lap at hk ⊢
  have hd := depth.slots_pos
  have hd' := depth.slots_le
  clear hlt hk' hadd
  generalize sequence.toNat = a at *
  generalize depth.slots = d at *
  generalize UInt32.size = N at *
  -- Both the number and the wrap are whole turns and a remainder.
  have hturns := Nat.div_add_mod N d
  have hA := Nat.div_add_mod a d
  have hM := Nat.mod_lt N hd
  have hi := Nat.mod_lt a hd
  generalize N % d = m at *
  generalize N / d = n at *
  generalize a % d = i at *
  generalize a / d = c at *
  have before : a + k < N → k ≤ d → ((a + k) % N % d = i ↔ k = d) := by
    intro hw hkd
    rw [Nat.mod_eq_of_lt hw, ← hA]
    exact add_mod_eq_iff hi h0 hkd
  have after : ¬ a + k < N → a + k - N < d → ((a + k) % N % d = i ↔ a + k - N = i) := by
    intro hw hlt
    have hwrap : (a + k) % N = a + k - N := by
      rw [Nat.mod_eq_sub_mod (Nat.le_of_not_lt hw), Nat.mod_eq_of_lt (by omega)]
    rw [hwrap, Nat.mod_eq_of_lt hlt]
  by_cases h : a + d < N
  · rw [if_pos h] at hk ⊢
    exact before (by omega) hk
  rw [if_neg h] at hk ⊢
  -- The wrap is at most a turn away: it is in this turn or in the next.
  have hcn : c = n ∨ c + 1 = n := by
    rcases Nat.lt_trichotomy c n with hlt | heq | hgt
    · refine .inr (Nat.le_antisymm hlt (Nat.le_of_not_lt fun h2 => ?_))
      have := Nat.mul_le_mul_left d (show c + 2 ≤ n by omega)
      rw [Nat.mul_add] at this
      omega
    · exact .inl heq
    · have := Nat.mul_le_mul_left d (show n + 1 ≤ c by omega)
      rw [Nat.mul_add] at this
      omega
  rcases hcn with rfl | rfl
  · have him : i < m := by omega
    rw [if_pos him] at hk ⊢
    by_cases hw : a + k < N
    · rw [before hw (by omega)]
      omega
    · rw [after hw (by omega)]
      omega
  · rw [Nat.mul_add, Nat.mul_one] at hturns
    have him : ¬ i < m := by omega
    rw [if_neg him] at hk ⊢
    by_cases hw : a + k < N
    · rw [before hw (by omega)]
      omega
    · rw [after hw (by omega)]
      omega

end QueueDepth

/-! ## The window of a ring -/

namespace Ring

/-- Every held slot has a number of its own, no further back than the lap of that number. -/
def Window (r : Ring) : Prop :=
  ∀ i sequence, r.holder? i = some sequence → r.config.depth.slotOf sequence = i ∧
    ∃ k, 0 < k ∧ k ≤ r.config.depth.lap sequence ∧ r.nextSequence = sequence + UInt32.ofNat k

theorem window_startingAt (config : ChannelConfig) (first : UInt32) :
    (startingAt config first).Window := by
  intro i sequence h
  rcases holder?_eq_some.mp h with h | h
  · cases slotState?_startingAt h
  · cases slotState?_startingAt h

/-- A slot is held by the request that held it before, or by a new one. -/
theorem Change.holder?_cases {r r' : Ring} {action : Action} (hw : r.WellFormed)
    (h : r.Change action r') {i : Nat} {sequence : UInt32} (hi : r'.holder? i = some sequence) :
    r.holder? i = some sequence ∨
      (i = r.nextSlot ∧ sequence = r.nextSequence ∧ r'.nextSequence = r.nextSequence + 1) := by
  rcases holder?_eq_some.mp hi with hi | hi
  · rcases h.slotState?_cases hw hi with hi | hfree | ⟨hin, hnew, hn⟩ | ⟨_, _, hdone⟩
    · exact .inl (holder?_eq_some.mpr (.inl hi))
    · cases hfree
    · cases hnew
      exact .inr ⟨hin, rfl, hn⟩
    · cases hdone
  · rcases h.slotState?_cases hw hi with hi | hfree | ⟨_, hnew, _⟩ | ⟨_, hi, hdone⟩
    · exact .inl (holder?_eq_some.mpr (.inr hi))
    · cases hfree
    · cases hnew
    · cases hdone
      exact .inl (holder?_eq_some.mpr (.inl hi))

theorem Change.window {r r' : Ring} {action : Action} (hw : r.WellFormed) (hv : r.Window)
    (h : r.Change action r') : r'.Window := by
  intro i sequence hi
  rw [h.config_eq]
  rcases h.holder?_cases hw hi with hi | ⟨rfl, rfl, hn⟩
  · obtain ⟨hs, k, h0, hk, hn⟩ := hv i sequence hi
    rcases h.nextSequence_cases with hsame | ⟨hf, hnext⟩
    · exact ⟨hs, k, h0, hk, hsame.trans hn⟩
    · -- At the end of the lap the free slot would be `i`.
      have hlap : k ≠ r.config.depth.lap sequence := by
        intro he
        have hat := (r.config.depth.slotOf_add_iff sequence h0 hk).mpr he
        rw [← hn, hs] at hat
        rw [nextSlot, hat, hi] at hf
        cases hf
      refine ⟨hs, k + 1, by omega, by omega, ?_⟩
      rw [hnext, hn, UInt32.add_assoc, UInt32.ofNat_add]
      rfl
  · exact ⟨rfl, 1, Nat.one_pos, QueueDepth.lap_pos _ _, hn⟩

theorem window_run (config : ChannelConfig) (first : UInt32) (actions : List Action) :
    ((startingAt config first).run actions).Window :=
  (run_induction (P := fun r => r.WellFormed ∧ r.Window)
    (fun h hc => ⟨hc.wellFormed h.1, hc.window h.1 h.2⟩) actions
    ⟨wellFormed_startingAt config first, window_startingAt config first⟩).2

/-- How far the ring has gone since the number of a held slot. -/
theorem Window.distance {r : Ring} (h : r.Window) {i : Nat} {sequence : UInt32}
    (hi : r.holder? i = some sequence) :
    0 < (r.nextSequence - sequence).toNat ∧
      (r.nextSequence - sequence).toNat ≤ r.config.depth.lap sequence ∧
      (r.config.depth.slotOf r.nextSequence = i →
        (r.nextSequence - sequence).toNat = r.config.depth.lap sequence) := by
  obtain ⟨hs, k, h0, hk, hn⟩ := h i sequence hi
  have hlt := Nat.lt_of_le_of_lt hk (r.config.depth.lap_lt sequence)
  have hd : (r.nextSequence - sequence).toNat = k := by
    rw [hn, UInt32.add_comm, UInt32.add_sub_cancel]
    exact UInt32.toNat_ofNat_of_lt' hlt
  rw [hd]
  refine ⟨h0, hk, fun hnext => ?_⟩
  rw [hn, ← hs] at hnext
  exact (r.config.depth.slotOf_add_iff sequence h0 hk).mp hnext

/--
**The sequence numbers in use lie within one lap of the next one.** With `d` slots and
`m = 2 ^ 32 % d`, a held slot has a number that is its index modulo `d` and at most `d + m` behind
the next one; no number is held by two slots or given out while it is held; and a slot that refuses
a request has a number exactly `d`, `m` or `d + m` behind, which is `d` when `d` divides `2 ^ 32`.
-/
theorem sequence_window (config : ChannelConfig) (first : UInt32) (actions : List Action) :
    let r := (startingAt config first).run actions
    let d := config.depth.slots
    let m := UInt32.size % d
    (∀ i sequence, r.slotState? i = some (.coprocessor sequence) ∨
        r.slotState? i = some (.completed sequence) →
      sequence.toNat % d = i ∧ 1 ≤ (r.nextSequence - sequence).toNat ∧
        (r.nextSequence - sequence).toNat ≤ d + m) ∧
    (∀ i j sequence, r.holder? i = some sequence → r.holder? j = some sequence → i = j) ∧
    (∀ request info r' ticket, r.submit request info = .ok (r', ticket) →
      ∀ i, r.holder? i ≠ some ticket.sequence) ∧
    ∀ request info i sequence, r.submit request info = .error (.slotBusy i sequence) →
      ((r.nextSequence - sequence).toNat = d ∨ (r.nextSequence - sequence).toNat = m ∨
        (r.nextSequence - sequence).toNat = d + m) ∧
      (d ∣ UInt32.size → (r.nextSequence - sequence).toNat = d) := by
  intro r d m
  have hv : r.Window := window_run config first actions
  have hc : r.config = config := config_run (startingAt config first) actions
  have slot : ∀ {i sequence}, r.holder? i = some sequence → sequence.toNat % d = i := by
    intro i sequence hi
    have hs := (hv i sequence hi).1
    rw [hc, QueueDepth.slotOf_eq] at hs
    exact hs
  refine ⟨?_, ?_, ?_, ?_⟩
  · intro i sequence hi
    have hi := holder?_eq_some.mpr hi
    obtain ⟨h0, hk, -⟩ := hv.distance hi
    rw [hc] at hk
    exact ⟨slot hi, h0, Nat.le_trans hk (config.depth.lap_le sequence)⟩
  · intro i j sequence hi hj
    exact (slot hi).symm.trans (slot hj)
  · intro request info r' ticket hs i hi
    obtain ⟨-, -, -, -, rfl⟩ := submit_eq_ok hs
    have h0 := (hv.distance hi).1
    simp at h0
  · intro request info i sequence hs
    obtain ⟨-, hi⟩ := submit_eq_slotBusy hs
    have hlap := (hv.distance hi).2.2 rfl
    rw [hc] at hlap
    rw [hlap]
    exact ⟨config.depth.lap_eq sequence, fun hd => QueueDepth.lap_of_dvd hd sequence⟩

-- With three slots the numbers `2 ^ 32 - 1` and `0` meet in the slot 0.
example : ((startingAt .threeSlots 4294967295).run [.submit {} none]).submit {} none =
    .error (.slotBusy 0 4294967295) := by
  rfl

end Ring

end CaptureProtocol
