import CaptureProtocol.Proofs.Decoding.Decoders
import CaptureProtocol.Proofs.Request.RoundTrip
import CaptureProtocol.Proofs.Ring.Reset

/-!
# Writing in place

A request is not encoded for itself and then copied. Its slot is cut out of the ring, cleared, and
the record is written over the front of it; the memory information likewise. Every offset is
computed in a machine word, and no slice, index or subtraction is checked. `submitChecked` is
submission step by step in this way, with a fault for every step that goes out of bounds.

* `CaptureRequest.run_writeInto`: a slot that was written in place is the request as it is encoded
  for itself, whatever was in the slot.
* `WellFormed.requestRange`, `WellFormed.infoRange`: the offsets of a slot of the ring.
* `Accounted.run_submitChecked`: **a submission in place does not fault, and is `submit`**.
-/

set_option autoImplicit false

namespace CaptureProtocol

namespace Checked

variable {α : Type}

/-! ## Steps that may fault -/

/-- A number that is computed; machine words have 32 bits at least. -/
def word (n : Nat) : Checked Nat := if n < UInt32.size then pure n else fault

def remainder (a b : UInt32) : Checked Nat := if b = 0 then fault else pure (a % b).toNat

def entry (table : List α) (index : Nat) : Checked α :=
  match table[index]? with
  | some a => pure a
  | none => fault

def setEntry (table : List α) (index : Nat) (a : α) : Checked (List α) :=
  if index < table.length then pure (table.set index a) else fault

/-- The bytes from `start` up to `stop`. -/
def range (bytes : Bytes) (start stop : Nat) : Checked Bytes :=
  if start ≤ stop ∧ stop ≤ bytes.length then pure (bytes.slice start (stop - start)) else fault

/-- Where a slot begins and where it ends. -/
def slotRange (index size : Nat) : Checked (Nat × Nat) := do
  let start ← word (index * size)
  let next ← word (index + 1)
  let stop ← word (next * size)
  pure (start, stop)

/-- A block with a record of at most `size` bytes written over its front. -/
def put (block : Bytes) (size : Nat) (record : Bytes) : Checked Bytes :=
  if size ≤ block.length ∧ record.length ≤ size then pure (block.overwrite 0 record) else fault

/-! ## Steps that do not -/

theorem word_eq {n : Nat} (h : n < UInt32.size) : word n = pure n := if_pos h

theorem entry_eq {table : List α} {index : Nat} {a : α} (h : table[index]? = some a) :
    entry table index = pure a := by
  rw [entry, h]

theorem setEntry_eq {table : List α} {index : Nat} (h : index < table.length) (a : α) :
    setEntry table index a = pure (table.set index a) := if_pos h

theorem range_eq {bytes : Bytes} {start size : Nat} (h : start + size ≤ bytes.length) :
    range bytes start (start + size) = pure (bytes.slice start size) := by
  rw [range, if_pos ⟨Nat.le_add_right _ _, h⟩, Nat.add_sub_cancel_left]

theorem slotRange_eq {index size : Nat} (hpos : 0 < size)
    (h : index * size + size < UInt32.size) :
    slotRange index size = pure (index * size, index * size + size) := by
  have hnext : (index + 1) * size = index * size + size := Nat.succ_mul index size
  have hle : index + 1 ≤ (index + 1) * size := Nat.le_mul_of_pos_right _ hpos
  rw [slotRange, word_eq (by omega), word_eq (by omega)]
  simp only [pure_bind, hnext, word_eq h]

/-- A record written over the front of a cleared block. -/
theorem put_zeros {n size : Nat} {record : Bytes} (hn : size ≤ n) (hr : record.length = size) :
    put (Bytes.zeros n) size record = pure (record ++ Bytes.zeros (n - size)) := by
  rw [put, if_pos ⟨by rwa [Bytes.length_zeros], Nat.le_of_eq hr⟩]
  simp [Bytes.overwrite, hr, Bytes.zeros]

end Checked

open Checked

/-! ## Records in their slots -/

namespace CaptureRequest

/-- A slot, whatever is in it, with a request written into it. -/
def writeInto (config : ChannelConfig) (request : CaptureRequest) (slot : Bytes) :
    Checked Bytes := do
  request.validateFor config
  put (Bytes.zeros slot.length) 384 (codec.write request.words)

/-- In place a request is written as it is encoded for itself. -/
theorem run_writeInto {config : ChannelConfig} (request : CaptureRequest) {slot : Bytes}
    (h : slot.length = config.requestBytes) :
    (request.writeInto config slot).run = some (request.encodeFor config) := by
  have hle : 384 ≤ slot.length := by
    rw [h]
    exact config.descriptor_le
  have hput := put_zeros hle ((codec.size_write request.words).trans size_codec)
  have hslot : codec.write request.words ++ Bytes.zeros (slot.length - 384) =
      request.slotBytes config.requestBytes := by
    rw [slotBytes, size_codec, h]
  rw [writeInto, hput, hslot, encodeFor_eq]
  simp only [validateFor, Rule.enforce_const]
  cases Rule.firstBroken (request.rules config) <;> rfl

end CaptureRequest

namespace MemoryInfo

/-- What the memory information must satisfy, if there is any. -/
def check (info : Option MemoryInfo) : Except ConfigViolation Unit :=
  match info with
  | some info => info.validate
  | none => pure ()

/-- A slot, whatever is in it, with memory information or nothing written into it. -/
def writeInto (info : Option MemoryInfo) (slot : Bytes) : Checked Bytes :=
  match info with
  | some info => put (Bytes.zeros slot.length) 128 info.bytes
  | none => pure (Bytes.zeros slot.length)

theorem writeInto_eq (info : Option MemoryInfo) {slot : Bytes} (h : 128 ≤ slot.length) :
    writeInto info slot = pure (Ring.memoryInfoSlot info slot.length) := by
  cases info with
  | none => rfl
  | some info =>
    rw [writeInto, put_zeros h info.length_bytes, Ring.memoryInfoSlot, size_codec]

end MemoryInfo

namespace Ring

/-! ## The slots of a ring -/

/-- The rings are so small that the offsets of their slots fit in a word. -/
theorem WellFormed.requestRange {r : Ring} (h : r.WellFormed) {index : Nat}
    (hi : index < r.config.depth.slots) : slotRange index r.config.requestBytes =
      pure (r.slotStart index, r.slotStart index + r.config.requestBytes) := by
  have hfit := h.slot_fits hi
  have hring := r.config.ringBytes_le.1
  have hdesc := r.config.descriptor_le
  rw [h.requests] at hfit
  unfold slotStart at *
  exact slotRange_eq (by omega) (by unfold UInt32.size; omega)

theorem WellFormed.infoRange {r : Ring} (h : r.WellFormed) {index : Nat}
    (hi : index < r.config.depth.slots) : slotRange index r.config.memoryInfoBytes =
      pure (index * r.config.memoryInfoBytes,
        index * r.config.memoryInfoBytes + r.config.memoryInfoBytes) := by
  have hfit := h.infoSlot_fits hi
  have hring := r.config.ringBytes_le.2
  have hinfo := r.config.memoryInfo_le
  rw [h.memoryInfo] at hfit
  exact slotRange_eq (by omega) (by unfold UInt32.size; omega)

/-! ## Submission in place -/

/-- A request and its memory information put into the slot at `index`. -/
def placeChecked (r : Ring) (index : Nat) (request : CaptureRequest) (info : Option MemoryInfo) :
    Checked (Ring × Ticket) := do
  let (start, stop) ← slotRange index r.config.requestBytes
  let slot ← range r.requests start stop
  let slot ← { request with sequence := r.nextSequence }.writeInto r.config slot
  let (infoStart, infoStop) ← slotRange index r.config.memoryInfoBytes
  let infoSlot ← range r.memoryInfo infoStart infoStop
  let infoSlot ← MemoryInfo.writeInto info infoSlot
  let slots ← setEntry r.slots index (.coprocessor r.nextSequence)
  let inFlight ← word (r.inFlight + 1)
  pure ({ r with
    requests := r.requests.overwrite start slot
    memoryInfo := r.memoryInfo.overwrite infoStart infoSlot
    slots := slots
    nextSequence := r.nextSequence + 1
    inFlight := inFlight }, ⟨index, r.nextSequence, request.timeout?⟩)

/-- What `submit` does, step by step. -/
def submitChecked (r : Ring) (request : CaptureRequest) (info : Option MemoryInfo) :
    Checked (Ring × Ticket) :=
  if r.resetting then throw (.channelResetting r.inFlight)
  else do
    let index ← remainder r.nextSequence r.config.depth.count
    let state ← entry r.slots index
    match state.sequence? with
    | some sequence => throw (.slotBusy index sequence)
    | none =>
      MemoryInfo.check info
      r.placeChecked index request info

/-- A submission checks the memory information and then the request. -/
theorem enforce_submissionRules {α : Type} (r : Ring) (request : CaptureRequest)
    (info : Option MemoryInfo) (a : α) :
    Rule.enforce (r.submissionRules request info) (fun _ => a) = (do
      MemoryInfo.check info
      Rule.enforce (request.rules r.config) fun _ => a) := by
  unfold submissionRules
  rw [Rule.enforce_append]
  cases info <;> rfl

/-- The count of requests in flight has room for one more. -/
theorem Accounted.inFlight_succ_lt {r : Ring} (h : r.Accounted) :
    r.inFlight + 1 < UInt32.size := by
  have hle := coprocessorSlots_le h.wellFormed
  have hdepth := r.config.depth.slots_le
  rw [h.inFlight]
  unfold UInt32.size
  omega

theorem Accounted.run_placeChecked {r : Ring} (h : r.Accounted) (request : CaptureRequest)
    (info : Option MemoryInfo) :
    (r.placeChecked r.nextSlot request info).run =
      some (CaptureError.ofRule (Rule.enforce (request.rules r.config) fun _ =>
        (r.place request info, ⟨r.nextSlot, r.nextSequence, request.timeout?⟩))) := by
  have hw := h.wellFormed
  have hi := r.nextSlot_lt
  have hslot : range r.requests (r.slotStart r.nextSlot)
      (r.slotStart r.nextSlot + r.config.requestBytes) = pure (r.slot r.nextSlot) :=
    range_eq (hw.slot_fits hi)
  have hinfoSlot : range r.memoryInfo (r.nextSlot * r.config.memoryInfoBytes)
      (r.nextSlot * r.config.memoryInfoBytes + r.config.memoryInfoBytes) =
        pure (r.infoSlot r.nextSlot) := range_eq (hw.infoSlot_fits hi)
  have hstate := setEntry_eq (hw.slots.symm ▸ hi) (.coprocessor r.nextSequence)
  have hinfoLen := hw.length_infoSlot hi
  have hinfo := MemoryInfo.writeInto_eq info (hinfoLen.symm ▸ r.config.memoryInfo_le)
  rw [hinfoLen] at hinfo
  have hwrite := CaptureRequest.run_writeInto { request with sequence := r.nextSequence }
    (hw.length_slot hi)
  rw [CaptureRequest.encodeFor_eq] at hwrite
  -- The rules decide; the slot that is written does not matter for what is refused.
  have hrules : CaptureError.ofRule (Rule.enforce (request.rules r.config) fun _ =>
        (r.place request info, (⟨r.nextSlot, r.nextSequence, request.timeout?⟩ : Ticket))) =
      CaptureError.ofRule (Rule.enforce (request.rules r.config) fun _ =>
        { request with sequence := r.nextSequence }.slotBytes r.config.requestBytes) >>=
      fun _ => .ok (r.place request info, ⟨r.nextSlot, r.nextSequence, request.timeout?⟩) := by
    simp only [Rule.enforce_const]
    cases Rule.firstBroken (request.rules r.config) <;> rfl
  simp only [placeChecked, hw.requestRange hi, hw.infoRange hi, pure_bind, hslot, hinfoSlot, hinfo,
    hstate, word_eq h.inFlight_succ_lt]
  rw [hrules]
  refine run_bind hwrite fun slot hslot => ?_
  obtain ⟨-, rfl⟩ := Rule.enforce_eq_ok.mp (CaptureError.ofRule_eq_ok.mp hslot)
  rfl

/-- **A submission in place does not fault**, and gives what `submit` gives. -/
theorem Accounted.run_submitChecked {r : Ring} (h : r.Accounted) (request : CaptureRequest)
    (info : Option MemoryInfo) :
    (r.submitChecked request info).run = some (r.submit request info) := by
  unfold submitChecked
  by_cases hr : r.resetting = true
  · rw [if_pos hr, submit_of_resetting hr]
    rfl
  have hopen : r.resetting = false := by simpa using hr
  have hcount : r.config.depth.count ≠ 0 := by
    intro hzero
    have hslots := r.config.depth.slots_pos
    rw [QueueDepth.slots, hzero] at hslots
    exact absurd hslots (by decide)
  have hindex : remainder r.nextSequence r.config.depth.count = pure r.nextSlot := if_neg hcount
  obtain ⟨state, hstate⟩ := h.wellFormed.exists_slotState? r.nextSlot_lt
  have hholder : r.holder? r.nextSlot = state.sequence? := by
    rw [holder?, hstate]
    rfl
  rw [if_neg hr]
  simp only [hindex, pure_bind, entry_eq hstate]
  cases hs : state.sequence? with
  | some sequence =>
    rw [submit_of_held hopen (hholder.trans hs)]
    rfl
  | none =>
    rw [submit_of_free hopen (hholder.trans hs), enforce_submissionRules, CaptureError.ofRule_bind]
    exact run_bind rfl fun _ _ => h.run_placeChecked request info

end Ring

end CaptureProtocol
