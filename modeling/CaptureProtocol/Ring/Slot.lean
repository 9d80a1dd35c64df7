import CaptureProtocol.Outcome.Verdict

/-!
# Ownership of ring slots

A slot is free, held by the coprocessor, or completed and not yet released. Whoever submitted a
request has a `Ticket` for it; when the request is completed the ticket becomes a `CompletedSlot`.
-/

set_option autoImplicit false

namespace CaptureProtocol

/-- Who holds a slot of a ring. -/
inductive SlotState where
  /-- Free for the next request. -/
  | free
  /-- Held by the coprocessor, which may write to it. -/
  | coprocessor (sequence : UInt32)
  /-- The request is completed; its result has not been released. -/
  | completed (sequence : UInt32)
  deriving DecidableEq, Repr, Inhabited

namespace SlotState

/-- Whether the host may touch the slot. -/
def isHostOwned : SlotState → Bool
  | coprocessor _ => false
  | _ => true

/-- The request that a slot holds. -/
def sequence? : SlotState → Option UInt32
  | free => none
  | coprocessor sequence | completed sequence => some sequence

/-- The state after the coprocessor has lost all its slots. -/
def reclaimed : SlotState → SlotState
  | coprocessor _ => free
  | state => state

end SlotState

/-- What the submitter of a request holds until the request is completed. -/
structure Ticket where
  index : Nat
  sequence : UInt32
  /-- How long the coprocessor may take, in milliseconds; none if it may take for ever. -/
  timeout : Option Nat
  deriving DecidableEq, Repr

namespace Ticket

/-- Whether the coprocessor should have reported `elapsed` milliseconds after the submission. -/
def isOverdue (ticket : Ticket) (elapsed : Nat) : Bool :=
  match ticket.timeout with
  | none => false
  | some timeout => decide (timeout < elapsed)

end Ticket

/-- A completed request whose slot has not been released. -/
structure CompletedSlot where
  index : Nat
  sequence : UInt32
  status : CaptureStatus
  classification : Classification
  deriving DecidableEq, Repr

/-- What comes of pairing a ticket with a notice. -/
inductive CompletionResult where
  /-- The coprocessor has not finished; the ticket stays good. -/
  | pending (ticket : Ticket)
  /-- The request is completed. -/
  | ready (completed : CompletedSlot)
  /-- The completion is refused; the ticket comes back unless its slot is no longer its own. -/
  | rejected (error : CaptureError) (ticket : Option Ticket)
  deriving DecidableEq, Repr

end CaptureProtocol
