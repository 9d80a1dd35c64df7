import CaptureProtocol.Proofs.Request.Status
import CaptureProtocol.Proofs.Ring.Faults
import CaptureProtocol.Proofs.Ring.Session

/-!
# Refusals leave no trace

A submission clears its slots and writes records over them while it may still fail, and a completion
hands its slot over only when it has nothing left to check. Here both are the statements that they
are made of, on a ring that is changed in place: where one fails, what the statements before it have
written stays written.

* `WellFormed.on_submitInPlace`, `on_completeInPlace`: in place the operations are `submit` and
  `complete`, and a submission that fails finds nothing written.
* `WellFormed.rejected_iff`: the four reasons for which a completion is refused, as `Rejection`
  tells them.
* `Session.Alike.run?`: sessions that differ in the order of their tickets go on alike.
* `refusals_leave_no_trace`: **a refused operation leaves the ring as it was and accounts for its
  ticket**.
-/

set_option autoImplicit false

namespace CaptureProtocol

/-! ## Statements -/

/-- A statement that changes a ring in place. -/
abbrev Edit (α : Type) := ExceptT CaptureError (StateM Ring) α

namespace Edit

variable {α β : Type}

/-- What a statement gives on a ring, and the ring after it. -/
def on (x : Edit α) (r : Ring) : Except CaptureError α × Ring := x.run.run r

@[simp] theorem on_pure (a : α) (r : Ring) : on (pure a) r = (.ok a, r) := rfl

@[simp] theorem on_throw (error : CaptureError) (r : Ring) :
    on (throw error : Edit α) r = (.error error, r) := rfl

@[simp] theorem on_get (r : Ring) : on get r = (.ok r, r) := rfl

@[simp] theorem on_modify (f : Ring → Ring) (r : Ring) : on (modify f) r = (.ok (), f r) := rfl

@[simp] theorem on_liftRule (x : Except ConfigViolation α) (r : Ring) :
    on (liftM x : Edit α) r = (CaptureError.ofRule x, r) := rfl

/-- A statement that fails is the last one. -/
theorem on_bind (x : Edit α) (f : α → Edit β) (r : Ring) :
    on (x >>= f) r =
      match on x r with
      | (.ok a, r') => on (f a) r'
      | (.error error, r') => (.error error, r') := by
  simp only [on, ExceptT.run_bind, StateT.run_bind]
  rcases x.run.run r with ⟨result, r'⟩
  cases result <;> rfl

/-- That a record has room in its slot. -/
def fits (record : String) (needed size : Nat) : Edit Unit :=
  if needed ≤ size then pure () else throw (.layoutMismatch record needed size)

theorem on_fits {needed size : Nat} (h : needed ≤ size) (record : String) (r : Ring) :
    on (fits record needed size) r = (.ok (), r) := by
  rw [fits, if_pos h, on_pure]

def overwriteRequests (offset : Nat) (bytes : Bytes) : Edit Unit :=
  modify fun r => { r with requests := r.requests.overwrite offset bytes }

def overwriteMemoryInfo (offset : Nat) (bytes : Bytes) : Edit Unit :=
  modify fun r => { r with memoryInfo := r.memoryInfo.overwrite offset bytes }

end Edit

open Edit

namespace Ring

/-! ## Submission in place -/

/-- The request goes into its slot, which is cleared first. -/
def writeRequest (index : Nat) (request : CaptureRequest) : Edit Unit := do
  let r ← get
  request.validateFor r.config
  overwriteRequests (r.slotStart index) (Bytes.zeros r.config.requestBytes)
  fits descriptorRecord 384 r.config.requestBytes
  overwriteRequests (r.slotStart index) (CaptureRequest.codec.write request.words)

/-- The memory information, if there is any, goes into its slot, which is cleared first. -/
def writeMemoryInfo (index : Nat) (info : Option MemoryInfo) : Edit Unit := do
  let r ← get
  let start := index * r.config.memoryInfoBytes
  overwriteMemoryInfo start (Bytes.zeros r.config.memoryInfoBytes)
  match info with
  | some info => do
    fits "capture_descriptor_memoryinfo" 128 r.config.memoryInfoBytes
    overwriteMemoryInfo start info.bytes
  | none => pure ()

/-- What `submit` does, statement by statement. -/
def submitInPlace (request : CaptureRequest) (info : Option MemoryInfo) : Edit Ticket := do
  let r ← get
  if r.resetting then throw (.channelResetting r.inFlight)
  else
    match r.holder? r.nextSlot with
    | some sequence => throw (.slotBusy r.nextSlot sequence)
    | none => do
      MemoryInfo.check info
      writeRequest r.nextSlot { request with sequence := r.nextSequence }
      writeMemoryInfo r.nextSlot info
      modify fun r' => { r' with slots := r'.slots.set r.nextSlot (.coprocessor r.nextSequence) }
      modify fun r' => { r' with nextSequence := r.nextSequence + 1 }
      modify fun r' => { r' with inFlight := r'.inFlight + 1 }
      pure ⟨r.nextSlot, r.nextSequence, request.timeout?⟩

/-- A request that is refused is refused before its slot is cleared. -/
theorem on_writeRequest {r : Ring} {index : Nat}
    (hfit : r.slotStart index + r.config.requestBytes ≤ r.requests.length)
    (request : CaptureRequest) :
    (writeRequest index request).on r =
      match CaptureError.ofRule (request.validateFor r.config) with
      | .ok () => (.ok (), { r with
          requests := r.requests.overwrite (r.slotStart index)
            (request.slotBytes r.config.requestBytes) })
      | .error error => (.error error, r) := by
  have hsize : (CaptureRequest.codec.write request.words).length = 384 :=
    (Codec.size_write _ _).trans CaptureRequest.size_codec
  have hle := r.config.descriptor_le
  have hslot : (r.requests.overwrite (r.slotStart index)
        (Bytes.zeros r.config.requestBytes)).overwrite (r.slotStart index)
        (CaptureRequest.codec.write request.words) =
      r.requests.overwrite (r.slotStart index) (request.slotBytes r.config.requestBytes) := by
    rw [Bytes.overwrite_overwrite (by rw [Bytes.length_zeros]; exact hfit)
      (by rw [Bytes.length_zeros, hsize]; exact hle), CaptureRequest.slotBytes, hsize,
      CaptureRequest.size_codec, Bytes.zeros, List.drop_replicate, Bytes.zeros]
  simp only [writeRequest, on_bind, on_get, on_liftRule, overwriteRequests, on_modify, on_fits hle]
  cases CaptureError.ofRule (request.validateFor r.config) with
  | error error => rfl
  | ok _ => simp only [hslot]

/-- The memory information is checked beforehand, and its slot has room for it. -/
theorem on_writeMemoryInfo {r : Ring} {index : Nat}
    (hfit : index * r.config.memoryInfoBytes + r.config.memoryInfoBytes ≤ r.memoryInfo.length)
    (info : Option MemoryInfo) :
    (writeMemoryInfo index info).on r =
      (.ok (), { r with
        memoryInfo := r.memoryInfo.overwrite (index * r.config.memoryInfoBytes)
          (memoryInfoSlot info r.config.memoryInfoBytes) }) := by
  have hle := r.config.memoryInfo_le
  cases info with
  | none =>
    simp only [writeMemoryInfo, on_bind, on_get, overwriteMemoryInfo, on_modify, on_pure,
      memoryInfoSlot]
  | some info =>
    have hslot : (r.memoryInfo.overwrite (index * r.config.memoryInfoBytes)
          (Bytes.zeros r.config.memoryInfoBytes)).overwrite (index * r.config.memoryInfoBytes)
          info.bytes =
        r.memoryInfo.overwrite (index * r.config.memoryInfoBytes)
          (memoryInfoSlot (some info) r.config.memoryInfoBytes) := by
      rw [Bytes.overwrite_overwrite (by rw [Bytes.length_zeros]; exact hfit)
        (by rw [Bytes.length_zeros, info.length_bytes]; exact hle), memoryInfoSlot,
        info.length_bytes, MemoryInfo.size_codec, Bytes.zeros, List.drop_replicate, Bytes.zeros]
    simp only [writeMemoryInfo, on_bind, on_get, overwriteMemoryInfo, on_modify, on_fits hle, hslot]

/-- **In place a submission is `submit`**, and if it fails then nothing was written. -/
theorem WellFormed.on_submitInPlace {r : Ring} (h : r.WellFormed) (request : CaptureRequest)
    (info : Option MemoryInfo) :
    (submitInPlace request info).on r =
      match r.submit request info with
      | .ok (r', ticket) => (.ok ticket, r')
      | .error error => (.error error, r) := by
  unfold submitInPlace
  rw [on_bind, on_get]
  dsimp only
  by_cases hr : r.resetting = true
  · rw [if_pos hr, submit_of_resetting hr, on_throw]
  have hopen : r.resetting = false := by simpa using hr
  rw [if_neg hr]
  cases hs : r.holder? r.nextSlot with
  | some sequence =>
    rw [submit_of_held hopen hs]
    exact on_throw _ r
  | none =>
    have hvalidate : { request with sequence := r.nextSequence }.validateFor r.config =
        Rule.enforce (request.rules r.config) fun _ => () := rfl
    rw [submit_of_free hopen hs, enforce_submissionRules]
    dsimp only
    rw [on_bind, on_liftRule]
    cases MemoryInfo.check info with
    | error violation => rfl
    | ok _ =>
      show on _ r = _
      rw [on_bind, on_writeRequest (h.slot_fits r.nextSlot_lt), hvalidate]
      simp only [Rule.enforce_const]
      cases Rule.firstBroken (request.rules r.config) with
      | some broken => rfl
      | none =>
        simp only [CaptureError.ofRule, on_bind]
        rw [on_writeMemoryInfo (by exact h.infoSlot_fits r.nextSlot_lt)]
        rfl

/-! ## Completion in place -/

/-- What `complete` does, statement by statement. -/
def completeInPlace (ticket : Ticket) (notice : UInt32) : Edit CompletionResult := do
  let r ← get
  if r.slotState? ticket.index = some (.coprocessor ticket.sequence) then
    if notice ≠ ticket.sequence then
      pure (.rejected (.noticeMismatch ticket.sequence notice) (some ticket))
    else
      match r.statusFor ticket with
      | .error error => pure (.rejected error (some ticket))
      | .ok status =>
        if status.isFinal then do
          modify fun r =>
            { r with slots := r.slots.set ticket.index (.completed ticket.sequence) }
          modify fun r => { r with inFlight := r.inFlight - 1 }
          modify fun r =>
            if r.resetting && r.inFlight == 0 then { r with resetting := false } else r
          pure (.ready ⟨ticket.index, ticket.sequence, status, status.classify⟩)
        else pure (.pending ticket)
  else
    pure (.rejected (.sequenceMismatch ticket.index ticket.sequence (r.occupant ticket.index))
      none)

/-- **In place a completion is `complete`.** -/
theorem on_completeInPlace (r : Ring) (ticket : Ticket) (notice : UInt32) :
    (completeInPlace ticket notice).on r =
      (.ok (r.complete ticket notice).2, (r.complete ticket notice).1) := by
  have hc := r.complete_cases ticket notice
  unfold completeInPlace
  rw [on_bind, on_get]
  dsimp only
  generalize r.complete ticket notice = outcome at hc
  cases hc with
  | stale hh =>
    have hs : ¬ r.slotState? ticket.index = some (.coprocessor ticket.sequence) := by
      rw [← honours_iff, hh]
      decide
    rw [if_neg hs, on_pure]
  | misnamed hh hn => rw [if_pos (honours_iff.mp hh), if_pos hn, on_pure]
  | unreadable hh hn hs =>
    rw [if_pos (honours_iff.mp hh), if_neg (not_not.mpr hn), hs]
    exact on_pure _ r
  | pending hh hn hs hf =>
    rw [if_pos (honours_iff.mp hh), if_neg (not_not.mpr hn), hs]
    simp only [hf, Bool.false_eq_true, if_false, on_pure]
  | ready hh hn hs hf =>
    rw [if_pos (honours_iff.mp hh), if_neg (not_not.mpr hn), hs]
    simp only [hf, if_true, on_bind, on_modify, on_pure, finish]
    cases r.resetting with
    | false => rfl
    | true => by_cases hlast : r.inFlight - 1 = 0 <;> simp [hlast]

/-! ## Why a completion is refused -/

/-- The word of the status code that stands in a slot. -/
def storedCode (slot : Bytes) : Except CaptureError UInt32 :=
  Codec.u32.decodeAt descriptorRecord (statusOffset + 4) slot

theorem storedCode_of_decode {slot : Bytes} {w : CaptureStatus.Words}
    (h : CaptureStatus.codec.decodeAt descriptorRecord statusOffset slot = .ok w) :
    storedCode slot = .ok w.2.2.2.1 :=
  CaptureStatus.decodeAt_code h

/-- A slot has no status exactly when its status code is not in the catalogue. -/
theorem decodeStatus_eq_error_iff {slot : Bytes} (h : 384 ≤ slot.length) {error : CaptureError} :
    decodeStatus slot = .error error ↔
      ∃ raw, storedCode slot = .ok raw ∧ StatusCode.ofRaw? raw = none ∧
        error = .invalidStatusCode "capture_status" raw := by
  cases hread : CaptureStatus.codec.decodeAt descriptorRecord statusOffset slot with
  | error e =>
    have hshort := ((Codec.decodeAt_eq_error_iff _ _ _ _ _).mp hread).1
    rw [CaptureStatus.size_codec, statusOffset] at hshort
    omega
  | ok w =>
    have hstatus : decodeStatus slot = CaptureStatus.ofWords w := by
      rw [decodeStatus, hread]
      rfl
    obtain ⟨stream, channel, frameId, raw, rest⟩ := w
    rw [hstatus, storedCode_of_decode hread, CaptureStatus.ofWords]
    cases hcode : StatusCode.ofRaw? raw with
    | some code => simp [hcode]
    | none => simp [hcode, eq_comm]

/-- The reasons for which a completion is refused, each with the ticket that comes back. -/
inductive Rejection (r : Ring) (ticket : Ticket) (notice : UInt32) :
    CaptureError → Option Ticket → Prop where
  /-- The coprocessor does not hold the slot for the ticket, which is used up. -/
  | stale : r.slotState? ticket.index ≠ some (.coprocessor ticket.sequence) →
      Rejection r ticket notice
        (.sequenceMismatch ticket.index ticket.sequence (r.occupant ticket.index)) none
  /-- The notice is for another request, whatever there is in memory. -/
  | misnamed : r.slotState? ticket.index = some (.coprocessor ticket.sequence) →
      notice ≠ ticket.sequence →
      Rejection r ticket notice (.noticeMismatch ticket.sequence notice) (some ticket)
  /-- The slot has another sequence number in its memory. -/
  | overwritten {found : UInt32} :
      r.slotState? ticket.index = some (.coprocessor ticket.sequence) →
      notice = ticket.sequence → storedSequence (r.slot ticket.index) = .ok found →
      found ≠ ticket.sequence →
      Rejection r ticket notice (.sequenceMismatch ticket.index ticket.sequence found)
        (some ticket)
  /-- The status code in the slot is not in the catalogue. -/
  | uncatalogued {raw : UInt32} :
      r.slotState? ticket.index = some (.coprocessor ticket.sequence) →
      notice = ticket.sequence → storedSequence (r.slot ticket.index) = .ok ticket.sequence →
      storedCode (r.slot ticket.index) = .ok raw → StatusCode.ofRaw? raw = none →
      Rejection r ticket notice (.invalidStatusCode "capture_status" raw) (some ticket)

theorem statusFor_eq_error_iff {r : Ring} {ticket : Ticket}
    (h : 384 ≤ (r.slot ticket.index).length) {error : CaptureError} :
    r.statusFor ticket = .error error ↔
      ∃ found, storedSequence (r.slot ticket.index) = .ok found ∧
        if found = ticket.sequence then decodeStatus (r.slot ticket.index) = .error error
        else error = .sequenceMismatch ticket.index ticket.sequence found := by
  obtain ⟨found, hstored⟩ := exists_storedSequence h
  unfold statusFor
  rw [hstored]
  show (if found = ticket.sequence then decodeStatus (r.slot ticket.index)
    else .error (.sequenceMismatch ticket.index ticket.sequence found)) = _ ↔ _
  by_cases hf : found = ticket.sequence <;> simp [hf, eq_comm]

theorem complete_of_statusFor {r : Ring} {ticket : Ticket} {notice : UInt32} {error : CaptureError}
    (hs : r.slotState? ticket.index = some (.coprocessor ticket.sequence))
    (hn : notice = ticket.sequence) (hstatus : r.statusFor ticket = .error error) :
    r.complete ticket notice = (r, .rejected error (some ticket)) := by
  simp only [complete, honours_iff.mpr hs, hn, hstatus, Bool.not_true, Bool.false_eq_true,
    ne_eq, not_true_eq_false, if_false]

/-- **A completion is refused for these reasons and no others.** -/
theorem WellFormed.rejected_iff {r : Ring} (h : r.WellFormed) {ticket : Ticket} {notice : UInt32}
    {error : CaptureError} {back : Option Ticket} :
    (r.complete ticket notice).2 = .rejected error back ↔
        r.Rejection ticket notice error back := by
  have hlen (hs : r.slotState? ticket.index = some (.coprocessor ticket.sequence)) :=
    h.descriptor_le_slot (h.lt_depth hs)
  constructor
  · intro hrejected
    have hc := r.complete_cases ticket notice
    generalize r.complete ticket notice = outcome at hc hrejected
    cases hc with
    | stale hh =>
      cases hrejected
      refine .stale fun hs => ?_
      rw [honours_iff.mpr hs] at hh
      cases hh
    | misnamed hh hn =>
      cases hrejected
      exact .misnamed (honours_iff.mp hh) hn
    | unreadable hh hn hstatus =>
      cases hrejected
      have hs := honours_iff.mp hh
      obtain ⟨found, hfound, hread⟩ := (statusFor_eq_error_iff (hlen hs)).mp hstatus
      split at hread
      · next heq =>
        subst heq
        obtain ⟨raw, hraw, hnone, rfl⟩ := (decodeStatus_eq_error_iff (hlen hs)).mp hread
        exact .uncatalogued hs hn hfound hraw hnone
      · next hne =>
        subst hread
        exact .overwritten hs hn hfound hne
    | pending _ _ _ _ => cases hrejected
    | ready _ _ _ _ => cases hrejected
  · intro hreason
    cases hreason with
    | stale hs => rw [complete_of_stale hs]
    | misnamed hs hn =>
      simp only [complete, honours_iff.mpr hs, Bool.not_true, Bool.false_eq_true, if_false, hn,
        ne_eq, not_false_eq_true, if_true]
    | overwritten hs hn hfound hne =>
      rw [complete_of_statusFor hs hn]
      exact (statusFor_eq_error_iff (hlen hs)).mpr ⟨_, hfound, by rw [if_neg hne]⟩
    | uncatalogued hs hn hfound hraw hnone =>
      have hread := (decodeStatus_eq_error_iff (hlen hs)).mpr ⟨_, hraw, hnone, rfl⟩
      rw [complete_of_statusFor hs hn]
      exact (statusFor_eq_error_iff (hlen hs)).mpr ⟨_, hfound, by rw [if_pos rfl]; exact hread⟩

/-- A refusal hands the ticket back exactly while the coprocessor holds the slot for it. -/
theorem Rejection.back_eq {r : Ring} {ticket : Ticket} {notice : UInt32} {error : CaptureError}
    {back : Option Ticket} (h : r.Rejection ticket notice error back) :
    back = if r.slotState? ticket.index = some (.coprocessor ticket.sequence) then some ticket
      else none := by
  cases h with
  | stale hs => rw [if_neg hs]
  | misnamed hs _ => rw [if_pos hs]
  | overwritten hs _ _ _ => rw [if_pos hs]
  | uncatalogued hs _ _ _ _ => rw [if_pos hs]

/-- A completion that does not collect leaves the ring alone. -/
theorem complete_fst_of_not_ready {r : Ring} {ticket : Ticket} {notice : UInt32}
    (h : ∀ completed, (r.complete ticket notice).2 ≠ .ready completed) :
    (r.complete ticket notice).1 = r := by
  have hc := r.complete_cases ticket notice
  generalize r.complete ticket notice = outcome at hc h
  cases hc with
  | ready _ _ _ _ => exact absurd rfl (h _)
  | _ => rfl

theorem complete_fst_of_rejected {r : Ring} {ticket : Ticket} {notice : UInt32}
    {error : CaptureError} {back : Option Ticket}
    (h : (r.complete ticket notice).2 = .rejected error back) :
    (r.complete ticket notice).1 = r := by
  refine complete_fst_of_not_ready fun completed => ?_
  rw [h]
  exact fun hready => nomatch hready

end Ring

/-! ## Sessions after a refusal -/

namespace Session

/-- Sessions that differ at most in the order of their tickets. -/
structure Alike (w w' : Session) : Prop where
  ring : w.ring = w'.ring
  tickets : w.tickets.Perm w'.tickets
  completions : w.completions = w'.completions
  issued : w.issued = w'.issued

variable {w w' : Session}

/-- Whatever can be done in one session can be done in the other, and they stay alike. -/
theorem Alike.step? (h : w.Alike w') (action : Action) :
    Option.Rel Alike (w.step? action) (w'.step? action) := by
  obtain ⟨ring, tickets, completions, issued⟩ := w
  obtain ⟨ring', tickets', completions', issued'⟩ := w'
  obtain ⟨rfl, hperm, rfl, rfl⟩ := h
  dsimp only at hperm
  cases action with
  | submit request info =>
    simp only [Session.step?]
    split
    · exact .some ⟨rfl, hperm.cons _, rfl, rfl⟩
    · exact .some ⟨rfl, hperm, rfl, rfl⟩
  | complete ticket notice =>
    simp only [Session.step?, hperm.mem_iff]
    split
    · exact .some ⟨rfl, (hperm.erase ticket).append_left _, rfl, rfl⟩
    · exact .none
  | readStatus completed =>
    simp only [Session.step?]
    split
    · exact .some ⟨rfl, hperm, rfl, rfl⟩
    · exact .none
  | release completed =>
    simp only [Session.step?]
    split
    · exact .some ⟨rfl, hperm, rfl, rfl⟩
    · exact .none
  | beginReset => exact .some ⟨rfl, hperm, rfl, rfl⟩
  | acknowledgeReset => exact .some ⟨rfl, hperm, rfl, rfl⟩
  | write offset bytes =>
    simp only [Session.step?]
    cases ring.writeMemory? offset bytes with
    | none => exact .none
    | some ring => exact .some ⟨rfl, hperm, rfl, rfl⟩

theorem Alike.run? (h : w.Alike w') (actions : List Action) :
    Option.Rel Alike (w.run? actions) (w'.run? actions) := by
  induction actions generalizing w w' with
  | nil => exact .some h
  | cons action actions ih =>
    have hstep := h.step? action
    simp only [Session.run?, List.foldlM_cons]
    generalize w.step? action = first at hstep
    generalize w'.step? action = second at hstep
    cases hstep with
    | none => exact .none
    | some halike => exact ih halike

/-- A completion whose ticket comes back is as good as none. -/
theorem step?_of_returned {ticket : Ticket} {notice : UInt32} {error : CaptureError}
    (ht : ticket ∈ w.tickets)
    (h : (w.ring.complete ticket notice).2 = .rejected error (some ticket)) :
    ∃ w', w.step? (.complete ticket notice) = some w' ∧ w'.Alike w := by
  refine ⟨_, if_pos ht, Ring.complete_fst_of_rejected h, ?_, ?_, rfl⟩
  · simp only [h, CompletionResult.ticket?, Option.toList_some, List.singleton_append]
    exact (List.perm_cons_erase ht).symm
  · simp only [h, CompletionResult.completed?, Option.toList_none, List.nil_append]

/-- A completion whose ticket is used up takes that ticket and nothing else. -/
theorem step?_of_void {ticket : Ticket} {notice : UInt32} {error : CaptureError}
    (ht : ticket ∈ w.tickets) (h : (w.ring.complete ticket notice).2 = .rejected error none) :
    w.step? (.complete ticket notice) = some { w with tickets := w.tickets.erase ticket } := by
  simp only [Session.step?, if_pos ht, Ring.complete_fst_of_rejected h, h, CompletionResult.ticket?,
    CompletionResult.completed?, Option.toList_none, List.nil_append]

end Session

namespace Ring

/--
**A refused operation leaves no trace and accounts for its ticket.** Take any ring that a run leads
to. Statement by statement on the ring in place, a submission is `submit`, and if it fails then both
memories, the slots and the counters are as they were. Likewise a completion is `complete`, and
unless it collects a result the ring is as it was. It is refused exactly for the reasons of
`Rejection`, and hands its ticket back, unchanged, exactly if the coprocessor holds the slot of the
ticket for the request of the ticket. If the ticket comes back, then a later attempt gives what it
would have given without this one, and whatever else the host and the coprocessor do later they
could do without it too, which leads to the same ring and to the same tickets and completed slots.
If the ticket does not come back, the host has lost this ticket and nothing else.
-/
theorem refusals_leave_no_trace (config : ChannelConfig) (first : UInt32) (actions : List Action) :
    let r := (startingAt config first).run actions
    (∀ request info, (submitInPlace request info).on r =
      match r.submit request info with
      | .ok (r', ticket) => (.ok ticket, r')
      | .error error => (.error error, r)) ∧
    ∀ ticket notice,
      (completeInPlace ticket notice).on r =
        (.ok (r.complete ticket notice).2, (r.complete ticket notice).1) ∧
      ((∀ completed, (r.complete ticket notice).2 ≠ .ready completed) →
        (r.complete ticket notice).1 = r) ∧
      (∀ error back, (r.complete ticket notice).2 = .rejected error back ↔
        r.Rejection ticket notice error back) ∧
      (∀ error back, (r.complete ticket notice).2 = .rejected error back →
        back = if r.slotState? ticket.index = some (.coprocessor ticket.sequence) then some ticket
          else none) ∧
      (∀ error, (r.complete ticket notice).2 = .rejected error (some ticket) → ∀ later notice',
        ((r.complete ticket notice).1.run later).complete ticket notice' =
          (r.run later).complete ticket notice') ∧
      ∀ w : Session, w.ring = r → ticket ∈ w.tickets → ∀ error,
        ((r.complete ticket notice).2 = .rejected error (some ticket) →
          ∃ w', w.step? (.complete ticket notice) = some w' ∧
            ∀ later, Option.Rel Session.Alike (w'.run? later) (w.run? later)) ∧
        ((r.complete ticket notice).2 = .rejected error none →
          w.step? (.complete ticket notice) =
            some { w with tickets := w.tickets.erase ticket }) := by
  intro r
  have hw : r.WellFormed := wellFormed_run config first actions
  refine ⟨hw.on_submitInPlace, fun ticket notice => ⟨r.on_completeInPlace ticket notice,
    complete_fst_of_not_ready, fun error back => hw.rejected_iff, fun error back h => ?_,
    fun error h later notice' => ?_, fun w hring ht error => ⟨fun h => ?_, fun h => ?_⟩⟩⟩
  · exact (hw.rejected_iff.mp h).back_eq
  · rw [complete_fst_of_rejected h]
  · rw [← hring] at h
    obtain ⟨w', hstep, halike⟩ := Session.step?_of_returned ht h
    exact ⟨w', hstep, halike.run?⟩
  · rw [← hring] at h
    exact Session.step?_of_void ht h

/-- With a status code that stands for nothing, neither its own notice nor another's changes a ring. -/
theorem refusals_leave_no_trace_of_unknown_code :
    let r := (startingAt .threeSlots 0).run [.submit {} none, .write 276 [0xFF]]
    let ticket : Ticket := ⟨0, 0, none⟩
    (completeInPlace ticket 1).on r =
        (.ok (.rejected (.noticeMismatch 0 1) (some ticket)), r) ∧
      (completeInPlace ticket 0).on r =
        (.ok (.rejected (.invalidStatusCode "capture_status" 0xFF) (some ticket)), r) := by
  intro r ticket
  have hs : r.slotState? ticket.index = some (.coprocessor ticket.sequence) := by decide +kernel
  have hsequence : storedSequence (r.slot ticket.index) = .ok ticket.sequence := by decide +kernel
  have hcode : storedCode (r.slot ticket.index) = .ok 0xFF := by decide +kernel
  obtain ⟨-, hrefused⟩ := refusals_leave_no_trace .threeSlots 0
    [.submit {} none, .write 276 [0xFF]]
  obtain ⟨hother, hkept, hmisnamed, -⟩ := hrefused ticket 1
  obtain ⟨hown, hkept', huncatalogued, -⟩ := hrefused ticket 0
  have h₁ := (hmisnamed _ _).mpr (.misnamed hs (by decide))
  have h₂ := (huncatalogued _ _).mpr (.uncatalogued hs rfl hsequence hcode rfl)
  refine ⟨?_, ?_⟩
  · rw [hother, h₁, hkept (by rw [h₁]; exact fun _ hr => nomatch hr)]
  · rw [hown, h₂, hkept' (by rw [h₂]; exact fun _ hr => nomatch hr)]

end Ring

end CaptureProtocol
