import CaptureProtocol.Proofs.Ring.Reset

/-!
# The order of completions

The coprocessor finishes requests in any order, and the host may collect them in any other. The
completions of different slots share the count of requests in flight and the reset that ends with
the last of them, but nothing else.

* `complete_fst`: the ring after a completion is told by the result.
* `complete_snd_complete`: a completion does not see an earlier one of another slot.
* `complete_fst_comm`: two completions of different slots commute.
* `completion_order_irrelevant`: **tickets for different slots may be completed in any order**.
-/

set_option autoImplicit false

namespace CaptureProtocol

namespace Ring

variable {r : Ring} {ticket other : Ticket}

/-- Completes tickets with their notices, one after another, and lists what each ticket gets. -/
def completeEach (r : Ring) :
    List (Ticket × UInt32) → Ring × List (Ticket × CompletionResult)
  | [] => (r, [])
  | (ticket, notice) :: rest =>
    let outcome := r.complete ticket notice
    let later := outcome.1.completeEach rest
    (later.1, (ticket, outcome.2) :: later.2)

/-! ## One completion and another slot -/

theorem complete_fst (r : Ring) (ticket : Ticket) (notice : UInt32) :
    (r.complete ticket notice).1 =
      if (r.complete ticket notice).2.completed?.isSome then r.finish ticket else r := by
  have hc := r.complete_cases ticket notice
  generalize r.complete ticket notice = outcome at hc ⊢
  cases hc <;> simp [CompletionResult.completed?]

theorem complete_snd_congr {r' : Ring}
    (hs : r'.slotState? ticket.index = r.slotState? ticket.index)
    (hm : r'.slot ticket.index = r.slot ticket.index) (notice : UInt32) :
    (r'.complete ticket notice).2 = (r.complete ticket notice).2 := by
  unfold complete honours occupant statusFor
  rw [hs, hm]
  split
  · rfl
  split
  · rfl
  split
  · rfl
  · split <;> rfl

@[simp] theorem slot_finish (r : Ring) (ticket : Ticket) (i : Nat) :
    (r.finish ticket).slot i = r.slot i := rfl

theorem slotState?_finish_of_ne (r : Ring) {i : Nat} (h : ticket.index ≠ i) :
    (r.finish ticket).slotState? i = r.slotState? i :=
  List.getElem?_set_ne h

/-- What a ticket gets does not depend on whether that of another slot was completed before. -/
theorem complete_snd_complete (r : Ring) (h : ticket.index ≠ other.index)
    (notice notice' : UInt32) :
    ((r.complete ticket notice).1.complete other notice').2 = (r.complete other notice').2 := by
  rw [complete_fst]
  split
  · exact complete_snd_congr (slotState?_finish_of_ne r h) (slot_finish r ticket _) notice'
  · rfl

/-- The table is set at two places; the count and the flag do not tell which came first. -/
theorem finish_comm (r : Ring) (h : ticket.index ≠ other.index) :
    (r.finish ticket).finish other = (r.finish other).finish ticket := by
  unfold finish
  dsimp only
  rw [List.set_comm _ _ h]

theorem complete_fst_comm (r : Ring) (h : ticket.index ≠ other.index)
    (notice notice' : UInt32) :
    ((r.complete ticket notice).1.complete other notice').1 =
      ((r.complete other notice').1.complete ticket notice).1 := by
  -- Each side finishes what is ready, and both find the same tickets ready.
  rw [complete_fst (r.complete ticket notice).1, complete_snd_complete r h,
    complete_fst (r.complete other notice').1, complete_snd_complete r h.symm,
    complete_fst r ticket, complete_fst r other]
  split
  · split
    · exact finish_comm r h
    · rfl
  · rfl

/-! ## Many completions -/

/-- Completing tickets one after another is a run. -/
theorem completeEach_fst (r : Ring) (pairs : List (Ticket × UInt32)) :
    (r.completeEach pairs).1 = r.run (pairs.map fun p => .complete p.1 p.2) := by
  induction pairs generalizing r with
  | nil => rfl
  | cons p pairs ih => exact ih (r.complete p.1 p.2).1

/-- Every ticket gets what it would get if it were the first. -/
theorem completeEach_snd (r : Ring) {pairs : List (Ticket × UInt32)}
    (h : pairs.Pairwise fun p q => p.1.index ≠ q.1.index) :
    (r.completeEach pairs).2 = pairs.map fun p => (p.1, (r.complete p.1 p.2).2) := by
  induction pairs generalizing r with
  | nil => rfl
  | cons p pairs ih =>
    obtain ⟨hp, h⟩ := List.pairwise_cons.mp h
    simp only [completeEach, ih _ h, List.map_cons, List.cons.injEq, true_and]
    refine List.map_congr_left ?_
    intro q hq
    rw [complete_snd_complete r (hp q hq)]

/-- Each status that is collected takes one request out of the count. -/
theorem Accounted.inFlight_completeEach (h : r.Accounted) (pairs : List (Ticket × UInt32)) :
    (r.completeEach pairs).1.inFlight +
      (r.completeEach pairs).2.countP (fun p => p.2.completed?.isSome) = r.inFlight := by
  induction pairs generalizing r with
  | nil => rfl
  | cons p pairs ih =>
    have hfirst := h.inFlight_complete p.1 p.2
    have hrest := ih ((r.perform_change (.complete p.1 p.2)).accounted h)
    simp only [perform] at hrest
    simp only [completeEach, List.countP_cons]
    omega

/-- The order of a list of completions is of no account to the ring. -/
theorem completeEach_fst_perm (r : Ring) {pairs pairs' : List (Ticket × UInt32)}
    (hd : pairs.Pairwise fun p q => p.1.index ≠ q.1.index) (hp : pairs'.Perm pairs) :
    (r.completeEach pairs').1 = (r.completeEach pairs).1 := by
  rw [completeEach_fst, completeEach_fst, run, run, List.foldl_map, List.foldl_map]
  refine (hp.symm.foldl_eq' ?_ r).symm
  -- Any two of the completions commute, in whatever ring they meet.
  refine List.Pairwise.forall_of_forall_of_flip (fun p _ r => rfl) ?_ ?_
  · exact hd.imp fun h r => complete_fst_comm r h _ _
  · exact hd.imp fun h r => complete_fst_comm r h.symm _ _

/--
**The order of completions is of no account.** Take any ring that a run leads to, and tickets for
pairwise different slots with a notice for each: good, stale, misdirected or made-up ones. In
whatever order they are completed, the ring is the same in the end, every ticket gets the same, which
is what it would get if it were the first, and the count of requests in flight goes down by the
number of tickets that get a status.
-/
theorem completion_order_irrelevant (config : ChannelConfig) (first : UInt32)
    (actions : List Action) (pairs pairs' : List (Ticket × UInt32))
    (hd : pairs.Pairwise fun p q => p.1.index ≠ q.1.index) (hp : pairs'.Perm pairs) :
    let r := (startingAt config first).run actions
    (r.completeEach pairs').1 = (r.completeEach pairs).1 ∧
    (r.completeEach pairs').2.Perm (r.completeEach pairs).2 ∧
    (r.completeEach pairs').2 = pairs'.map (fun p => (p.1, (r.complete p.1 p.2).2)) ∧
    (r.completeEach pairs').1.inFlight +
      (r.completeEach pairs').2.countP (fun p => p.2.completed?.isSome) = r.inFlight := by
  intro r
  have hd' : pairs'.Pairwise fun p q => p.1.index ≠ q.1.index :=
    (hp.pairwise_iff fun h => Ne.symm h).mpr hd
  have hr : r.Accounted := accounted_run config first actions
  refine ⟨completeEach_fst_perm r hd hp, ?_, completeEach_snd r hd', ?_⟩
  · rw [completeEach_snd r hd, completeEach_snd r hd']
    exact hp.map _
  · exact hr.inFlight_completeEach pairs'

/--
During a reset, a stale ticket, a finished one and one that is still out are completed forwards and
backwards.
-/
theorem completion_order_during_reset :
    let r := (startingAt .threeSlots 0).run
      [.submit {} none, .acknowledgeReset, .submit {} none, .submit {} none,
        .report .threeSlots 1 { code := .success }, .beginReset]
    let pairs : List (Ticket × UInt32) :=
      [(⟨0, 0, none⟩, 0), (⟨1, 1, none⟩, 1), (⟨2, 2, none⟩, 2)]
    (pairs.Pairwise fun p q => p.1.index ≠ q.1.index) ∧ pairs.reverse.Perm pairs ∧
      (r.completeEach pairs.reverse).1 = (r.completeEach pairs).1 ∧
      (r.completeEach pairs.reverse).2.Perm (r.completeEach pairs).2 ∧
      (r.completeEach pairs).1.inFlight = 1 ∧ (r.completeEach pairs).1.resetting = true := by
  intro r pairs
  have hd : pairs.Pairwise fun p q => p.1.index ≠ q.1.index := by decide
  have hp : pairs.reverse.Perm pairs := pairs.reverse_perm
  obtain ⟨hring, hresults, -, -⟩ := completion_order_irrelevant .threeSlots 0 _ pairs _ hd hp
  exact ⟨hd, hp, hring, hresults, by decide +kernel, by decide +kernel⟩

end Ring

end CaptureProtocol
