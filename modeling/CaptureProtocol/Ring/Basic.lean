import CaptureProtocol.Request.Descriptor
import CaptureProtocol.Request.MemoryInfo
import CaptureProtocol.Ring.Slot

/-!
# Descriptor rings

A VI channel has a ring of request slots and, slot for slot beside it, a ring of memory-info slots.
Sequence numbers rise by one with every request and belong to the slot that they leave as remainder
modulo the depth. The host submits requests into free slots, collects their results and releases the
slots; the coprocessor writes into the request ring meanwhile.

* `submit`, `complete`, `release`: the way of a request through a slot.
* `complete?`, `readStatus?`, `release?`: the same for a ticket that may be of another ring.
* `beginReset`, `acknowledgeReset`: the way of a channel through a reset.
* `writeMemory?`: what the coprocessor does.
-/

set_option autoImplicit false

namespace CaptureProtocol

/-- The rings of a VI channel and the state of their slots. -/
structure Ring where
  config : ChannelConfig
  /-- The bytes of the request ring. -/
  requests : Bytes
  /-- The bytes of the memory-info ring. -/
  memoryInfo : Bytes
  slots : List SlotState
  nextSequence : UInt32
  /-- How many requests the coprocessor holds. -/
  inFlight : Nat
  /-- Whether a reset is under way, so that no request is taken. -/
  resetting : Bool

namespace Ring

/-- An empty ring whose first request will have the given sequence number. -/
def startingAt (config : ChannelConfig) (sequence : UInt32) : Ring where
  config := config
  requests := Bytes.zeros config.requestRingBytes
  memoryInfo := Bytes.zeros config.memoryInfoRingBytes
  slots := List.replicate config.depth.slots .free
  nextSequence := sequence
  inFlight := 0
  resetting := false

/-- The state of a slot, if the ring has it. -/
def slotState? (r : Ring) (index : Nat) : Option SlotState := r.slots[index]?

/-- Where a request slot begins in the request ring. -/
def slotStart (r : Ring) (index : Nat) : Nat := index * r.config.requestBytes

/-- The bytes of a request slot. -/
def slot (r : Ring) (index : Nat) : Bytes :=
  r.requests.slice (r.slotStart index) r.config.requestBytes

/-- Something about a slot, if the ring has the slot. -/
def ifSlot {α : Type} (r : Ring) (index : Nat) (a : α) : Option α :=
  if index < r.config.depth.slots then some a else none

/-- The bytes of a request slot, if the ring has it. -/
def slot? (r : Ring) (index : Nat) : Option Bytes := r.ifSlot index (r.slot index)

/-! ## Submission -/

/-- The bytes of a memory-info slot: the record, or nothing, and zeros. -/
def memoryInfoSlot (info : Option MemoryInfo) (size : Nat) : Bytes :=
  match info with
  | some info => info.bytes ++ Bytes.zeros (size - MemoryInfo.codec.size)
  | none => Bytes.zeros size

/-- The slot that the next request goes to. -/
def nextSlot (r : Ring) : Nat := r.config.depth.slotOf r.nextSequence

/-- The ring after a request and its memory information were put into the next slot. -/
def place (r : Ring) (request : CaptureRequest) (info : Option MemoryInfo) : Ring :=
  let stamped := { request with sequence := r.nextSequence }
  { r with
    requests := r.requests.overwrite (r.slotStart r.nextSlot)
      (stamped.slotBytes r.config.requestBytes)
    memoryInfo := r.memoryInfo.overwrite (r.nextSlot * r.config.memoryInfoBytes)
      (memoryInfoSlot info r.config.memoryInfoBytes)
    slots := r.slots.set r.nextSlot (.coprocessor r.nextSequence)
    nextSequence := r.nextSequence + 1
    inFlight := r.inFlight + 1 }

/-- What the memory information, if there is any, and then the request must satisfy. -/
def submissionRules (r : Ring) (request : CaptureRequest) (info : Option MemoryInfo) : List Rule :=
  (match info with
    | some info => info.rules
    | none => []) ++ request.rules r.config

/--
Hands a request to the coprocessor. The ring gives the request its sequence number. A request is
refused while a reset is under way, while its slot is taken, and when it breaks a rule.
-/
def submit (r : Ring) (request : CaptureRequest) (info : Option MemoryInfo) :
    Except CaptureError (Ring × Ticket) :=
  if r.resetting then .error (.channelResetting r.inFlight)
  else
    match (r.slotState? r.nextSlot).bind SlotState.sequence? with
    | some sequence => .error (.slotBusy r.nextSlot sequence)
    | none =>
      CaptureError.ofRule <| Rule.enforce (r.submissionRules request info) fun _ =>
        (r.place request info, ⟨r.nextSlot, r.nextSequence, request.timeout?⟩)

/-! ## Completion -/

/-- Whether the slot of a ticket is still held for its request. -/
def honours (r : Ring) (ticket : Ticket) : Bool :=
  r.slotState? ticket.index == some (.coprocessor ticket.sequence)

/-- The request that a slot holds, or else the sequence number that is left in its memory. -/
def occupant (r : Ring) (index : Nat) : UInt32 :=
  match (r.slotState? index).bind SlotState.sequence? with
  | some sequence => sequence
  | none =>
    match storedSequence (r.slot index) with
    | .ok sequence => sequence
    | .error _ => 0

/-- The status in the slot of a ticket, provided that its descriptor is still the ticket's. -/
def statusFor (r : Ring) (ticket : Ticket) : Except CaptureError CaptureStatus := do
  let found ← storedSequence (r.slot ticket.index)
  if found = ticket.sequence then decodeStatus (r.slot ticket.index)
  else .error (.sequenceMismatch ticket.index ticket.sequence found)

/-- The ring after a request was completed; the last one in flight ends a reset. -/
def finish (r : Ring) (ticket : Ticket) : Ring :=
  { r with
    slots := r.slots.set ticket.index (.completed ticket.sequence)
    inFlight := r.inFlight - 1
    resetting := r.resetting && r.inFlight - 1 != 0 }

/--
Pairs a notice, which names a finished request, with a ticket and reads the result. The ticket comes
back when the notice names another request, when the slot cannot be read, and when the coprocessor
has not finished; it is void when its slot was reclaimed or taken by another request.
-/
def complete (r : Ring) (ticket : Ticket) (notice : UInt32) : Ring × CompletionResult :=
  if !r.honours ticket then
    (r, .rejected (.sequenceMismatch ticket.index ticket.sequence (r.occupant ticket.index)) none)
  else if notice ≠ ticket.sequence then
    (r, .rejected (.noticeMismatch ticket.sequence notice) (some ticket))
  else
    match r.statusFor ticket with
    | .error error => (r, .rejected error (some ticket))
    | .ok status =>
      if status.isFinal then
        (r.finish ticket, .ready ⟨ticket.index, ticket.sequence, status, status.classify⟩)
      else (r, .pending ticket)

/-- The status of a completed request as it stands in memory now. -/
def readStatus (r : Ring) (completed : CompletedSlot) : Except CaptureError CaptureStatus :=
  decodeStatus (r.slot completed.index)

/-- Frees the slot of a completed request, if it still holds that request. -/
def release (r : Ring) (completed : CompletedSlot) : Ring :=
  if r.slotState? completed.index = some (.completed completed.sequence) then
    { r with slots := r.slots.set completed.index .free }
  else r

/-!
## Tickets of other rings

A ticket or a completed slot may be brought to another ring than its own. That ring judges it by the
slot that it names, as it judges a stale one; there is no answer if the ring lacks the slot.
-/

/-- What `complete` gives, if the ring has the slot of the ticket. -/
def complete? (r : Ring) (ticket : Ticket) (notice : UInt32) : Option (Ring × CompletionResult) :=
  r.ifSlot ticket.index (r.complete ticket notice)

/-- What `readStatus` gives, if the ring has the completed slot. -/
def readStatus? (r : Ring) (completed : CompletedSlot) :
    Option (Except CaptureError CaptureStatus) :=
  r.ifSlot completed.index (r.readStatus completed)

/-- What `release` gives, if the ring has the completed slot. -/
def release? (r : Ring) (completed : CompletedSlot) : Option Ring :=
  r.ifSlot completed.index (r.release completed)

/-! ## Reset -/

/-- Takes no more requests until those in flight are completed. -/
def beginReset (r : Ring) : Ring := if r.inFlight = 0 then r else { r with resetting := true }

/-- Takes back every slot from the coprocessor and ends the reset. -/
def acknowledgeReset (r : Ring) : Ring :=
  { r with slots := r.slots.map SlotState.reclaimed, inFlight := 0, resetting := false }

/-! ## The coprocessor's side -/

/-- The ring after bytes of the request ring were written, if they lie within it. -/
def writeMemory? (r : Ring) (offset : Nat) (bytes : Bytes) : Option Ring :=
  if offset + bytes.length ≤ r.requests.length then
    some { r with requests := r.requests.overwrite offset bytes }
  else none

/-- The ring after bytes of a slot were written, if they lie within it. -/
def writeSlot? (r : Ring) (index offset : Nat) (bytes : Bytes) : Option Ring :=
  if offset + bytes.length ≤ r.config.requestBytes then
    (r.ifSlot index (r.slotStart index + offset)).bind (r.writeMemory? · bytes)
  else none

/-- The ring after the coprocessor reported a status in a slot, if the ring has it. -/
def writeStatus? (r : Ring) (index : Nat) (status : CaptureStatus) : Option Ring :=
  r.writeSlot? index statusOffset status.encode

end Ring

end CaptureProtocol
