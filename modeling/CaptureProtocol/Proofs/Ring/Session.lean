import CaptureProtocol.Proofs.Ring.Run

/-!
# Sessions of a host

A session is a ring together with what its host holds: the tickets and the completed slots that it
has been given and has not used up. A host of a session uses each of them once. It cannot make one
up, and a completion takes the ticket away unless its result hands it back. Requests, resets and the
writes of the coprocessor come in any order.

* `step?`, `run?`: the session after an action, or after a list of them, if the host holds what the
  actions use.
* `step?_move`: **everything that can happen in one step**; the invariants of sessions are proved by
  cases on `Move`.
* `run?_induction`: what a step keeps, a run keeps, as long as no sequence number is given twice.
-/

set_option autoImplicit false

namespace CaptureProtocol

namespace Ticket

/-- Whether the ticket is for a request in a slot. -/
def isFor (ticket : Ticket) (index : Nat) (sequence : UInt32) : Bool :=
  ticket.index == index && ticket.sequence == sequence

theorem isFor_iff {ticket : Ticket} {index : Nat} {sequence : UInt32} :
    ticket.isFor index sequence = true ↔ ticket.index = index ∧ ticket.sequence = sequence := by
  simp [isFor]

end Ticket

namespace CompletedSlot

/-- Whether the completed slot is that of a request in a slot. -/
def isFor (completed : CompletedSlot) (index : Nat) (sequence : UInt32) : Bool :=
  completed.index == index && completed.sequence == sequence

theorem isFor_iff {completed : CompletedSlot} {index : Nat} {sequence : UInt32} :
    completed.isFor index sequence = true ↔
      completed.index = index ∧ completed.sequence = sequence := by
  simp [isFor]

end CompletedSlot

namespace CompletionResult

/-- The ticket that a completion hands back. -/
def ticket? : CompletionResult → Option Ticket
  | pending ticket => some ticket
  | ready _ => none
  | rejected _ ticket => ticket

/-- The completed slot that a completion hands out. -/
def completed? : CompletionResult → Option CompletedSlot
  | ready completed => some completed
  | _ => none

end CompletionResult

/-- A ring and what its host holds. -/
structure Session where
  ring : Ring
  /-- The tickets that can still be used. -/
  tickets : List Ticket
  /-- The completed slots that have not been released. -/
  completions : List CompletedSlot
  /-- Every ticket that was ever given out, the latest first. -/
  issued : List Ticket

namespace Session

/-- A new ring, whose host holds nothing. -/
def start (config : ChannelConfig) (first : UInt32) : Session :=
  ⟨Ring.startingAt config first, [], [], []⟩

/-- The session after an action, if the host holds the ticket or completed slot that it uses. -/
def step? (w : Session) : Action → Option Session
  | .submit request info =>
    match w.ring.submit request info with
    | .ok (ring, ticket) =>
      some { w with ring := ring, tickets := ticket :: w.tickets, issued := ticket :: w.issued }
    | .error _ => some w
  | .complete ticket notice =>
    if ticket ∈ w.tickets then
      let outcome := w.ring.complete ticket notice
      some { w with
        ring := outcome.1
        tickets := outcome.2.ticket?.toList ++ w.tickets.erase ticket
        completions := outcome.2.completed?.toList ++ w.completions }
    else none
  | .readStatus completed => if completed ∈ w.completions then some w else none
  | .release completed =>
    if completed ∈ w.completions then
      some { w with
        ring := w.ring.release completed
        completions := w.completions.erase completed }
    else none
  | .beginReset => some { w with ring := w.ring.beginReset }
  | .acknowledgeReset => some { w with ring := w.ring.acknowledgeReset }
  | .write offset bytes =>
    (w.ring.writeMemory? offset bytes).map fun ring => { w with ring := ring }

/-- The session after some actions, in order. -/
def run? (w : Session) (actions : List Action) : Option Session := actions.foldlM step? w

theorem run?_cons_eq_some {w w' : Session} {action : Action} {actions : List Action} :
    w.run? (action :: actions) = some w' ↔
      ∃ w₁, w.step? action = some w₁ ∧ w₁.run? actions = some w' := by
  simp only [run?, List.foldlM_cons, Option.bind_eq_bind, Option.bind_eq_some_iff]

theorem run?_append_eq_some {w w' : Session} {before after : List Action} :
    w.run? (before ++ after) = some w' ↔
      ∃ w₁, w.run? before = some w₁ ∧ w₁.run? after = some w' := by
  simp only [run?, List.foldlM_append, Option.bind_eq_bind, Option.bind_eq_some_iff]

/-! ## One step -/

/-- The ticket that the next request would be given. -/
def nextTicket (w : Session) (request : CaptureRequest) : Ticket :=
  ⟨w.ring.nextSlot, w.ring.nextSequence, request.timeout?⟩

/-- Everything that can happen in one step of a session. -/
inductive Move (w : Session) : Action → Session → Prop where
  /-- A request is refused. -/
  | refused (request : CaptureRequest) (info : Option MemoryInfo) : Move w (.submit request info) w
  /-- A request is taken. -/
  | submitted {request : CaptureRequest} {info : Option MemoryInfo} :
      w.ring.holder? w.ring.nextSlot = none →
      Move w (.submit request info)
        { w with
          ring := w.ring.place request info
          tickets := w.nextTicket request :: w.tickets
          issued := w.nextTicket request :: w.issued }
  /-- A completion hands its ticket back. -/
  | kept {ticket : Ticket} {notice : UInt32} : ticket ∈ w.tickets →
      Move w (.complete ticket notice) { w with tickets := ticket :: w.tickets.erase ticket }
  /-- A completion finds that its ticket is stale. -/
  | voided {ticket : Ticket} {notice : UInt32} : ticket ∈ w.tickets →
      w.ring.honours ticket = false →
      Move w (.complete ticket notice) { w with tickets := w.tickets.erase ticket }
  /-- A completion turns its ticket into a completed slot. -/
  | collected {ticket : Ticket} {notice : UInt32} {status : CaptureStatus} : ticket ∈ w.tickets →
      w.ring.honours ticket = true → w.ring.statusFor ticket = .ok status →
      status.isFinal = true →
      Move w (.complete ticket notice)
        { w with
          ring := w.ring.finish ticket
          tickets := w.tickets.erase ticket
          completions := ⟨ticket.index, ticket.sequence, status, status.classify⟩ ::
            w.completions }
  /-- A status is read again. -/
  | reread {completed : CompletedSlot} : completed ∈ w.completions →
      Move w (.readStatus completed) w
  /-- A completed slot is given back. -/
  | released {completed : CompletedSlot} : completed ∈ w.completions →
      Move w (.release completed)
        { w with
          ring := w.ring.release completed
          completions := w.completions.erase completed }
  /-- A reset begins, if a request is in flight. -/
  | resetting : Move w .beginReset { w with ring := w.ring.beginReset }
  /-- The coprocessor has lost its slots. -/
  | reclaimed : Move w .acknowledgeReset { w with ring := w.ring.acknowledgeReset }
  /-- The coprocessor writes. -/
  | written {offset : Nat} {bytes : Bytes} : offset + bytes.length ≤ w.ring.requests.length →
      Move w (.write offset bytes)
        { w with ring := { w.ring with requests := w.ring.requests.overwrite offset bytes } }

theorem step?_move {w w' : Session} {action : Action} (h : w.step? action = some w') :
    w.Move action w' := by
  cases action with
  | submit request info =>
    simp only [step?] at h
    split at h
    · rename_i ring ticket hs
      obtain ⟨-, hf, -, rfl, rfl⟩ := Ring.submit_eq_ok hs
      cases h
      exact .submitted hf
    · cases h
      exact .refused request info
  | complete ticket notice =>
    simp only [step?] at h
    split at h
    · rename_i ht
      have hc := w.ring.complete_cases ticket notice
      generalize w.ring.complete ticket notice = outcome at hc h
      cases h
      cases hc with
      | stale hh => exact .voided ht hh
      | misnamed _ _ => exact .kept ht
      | unreadable _ _ _ => exact .kept ht
      | pending _ _ _ _ => exact .kept ht
      | ready hh _ hs hf => exact .collected ht hh hs hf
    · cases h
  | readStatus completed =>
    simp only [step?] at h
    split at h
    · rename_i hc
      cases h
      exact .reread hc
    · cases h
  | release completed =>
    simp only [step?] at h
    split at h
    · rename_i hc
      cases h
      exact .released hc
    · cases h
  | beginReset =>
    cases h
    exact .resetting
  | acknowledgeReset =>
    cases h
    exact .reclaimed
  | write offset bytes =>
    simp only [step?, Ring.writeMemory?] at h
    split at h
    · rename_i hb
      cases h
      exact .written hb
    · cases h

/-- The ring of a session goes through the same actions as a ring on its own. -/
theorem step?_ring {w w' : Session} {action : Action} (h : w.step? action = some w') :
    w'.ring = w.ring.perform action := by
  cases action with
  | submit request info =>
    simp only [step?] at h
    show w'.ring = Ring.perform w.ring (.submit request info)
    unfold Ring.perform
    cases hs : w.ring.submit request info with
    | ok p =>
      rw [hs] at h
      cases h
      simp only [hs]
    | error error =>
      rw [hs] at h
      cases h
      simp only [hs]
  | complete ticket notice =>
    simp only [step?] at h
    split at h
    · cases h
      rfl
    · cases h
  | readStatus completed =>
    simp only [step?] at h
    split at h
    · cases h
      rfl
    · cases h
  | release completed =>
    simp only [step?] at h
    split at h
    · cases h
      rfl
    · cases h
  | beginReset =>
    cases h
    rfl
  | acknowledgeReset =>
    cases h
    rfl
  | write offset bytes =>
    simp only [step?, Option.map_eq_some_iff] at h
    obtain ⟨ring, hb, rfl⟩ := h
    show ring = (w.ring.writeMemory? offset bytes).getD w.ring
    rw [hb]
    rfl

theorem step?_change {w w' : Session} {action : Action} (h : w.step? action = some w') :
    w.ring.Change action w'.ring := by
  rw [step?_ring h]
  exact w.ring.perform_change action

/-! ## Runs -/

theorem run?_ring {w w' : Session} {actions : List Action} (h : w.run? actions = some w') :
    w'.ring = w.ring.run actions := by
  induction actions generalizing w with
  | nil =>
    cases h
    rfl
  | cons action actions ih =>
    obtain ⟨w₁, h₁, h⟩ := run?_cons_eq_some.mp h
    rw [ih h, step?_ring h₁]
    rfl

theorem run?_config {config : ChannelConfig} {first : UInt32} {w : Session}
    {actions : List Action} (h : (start config first).run? actions = some w) :
    w.ring.config = config := by
  rw [run?_ring h]
  exact Ring.config_run _ actions

/-- No ticket is forgotten. -/
theorem Move.issued_le {w w' : Session} {action : Action} (h : w.Move action w') :
    w.issued.length ≤ w'.issued.length := by
  cases h with
  | submitted _ => exact Nat.le_succ _
  | _ => exact Nat.le_refl _

theorem run?_issued_le {w w' : Session} {actions : List Action} (h : w.run? actions = some w') :
    w.issued.length ≤ w'.issued.length := by
  induction actions generalizing w with
  | nil =>
    cases h
    exact Nat.le_refl _
  | cons action actions ih =>
    obtain ⟨w₁, h₁, h⟩ := run?_cons_eq_some.mp h
    exact Nat.le_trans (step?_move h₁).issued_le (ih h)

/-- What allowed actions keep, a run of them keeps, while there are sequence numbers left. -/
theorem run?_induction {P : Session → Prop} {Q : Action → Prop}
    (step : ∀ {w w' : Session} {action : Action}, P w → Q action →
      w.step? action = some w' → w'.issued.length < UInt32.size → P w')
    {w w' : Session} {actions : List Action} (ha : ∀ action ∈ actions, Q action)
    (h : w.run? actions = some w') (hl : w'.issued.length < UInt32.size) (hP : P w) : P w' := by
  induction actions generalizing w with
  | nil =>
    cases h
    exact hP
  | cons action actions ih =>
    obtain ⟨w₁, h₁, h⟩ := run?_cons_eq_some.mp h
    have hl₁ := Nat.lt_of_le_of_lt (run?_issued_le h) hl
    have hP₁ := step hP (ha action List.mem_cons_self) h₁ hl₁
    exact ih (fun a hm => ha a (List.mem_cons_of_mem _ hm)) h hP₁

end Session

end CaptureProtocol
