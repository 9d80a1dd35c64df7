import CaptureProtocol.Proofs.Ring.Run

/-!
# One writer for every slot

The request ring and the memory-info ring are two flat memories, cut into slots at strides of their
own. A slot that some request holds belongs to the coprocessor or to a result that has not been
released, and the host must leave both of its memories alone.

* `Change.slot_eq`, `Change.infoSlot_eq`: an action that writes no byte into a held slot leaves its
  bytes as they are.
* `host_writes_only_next_free_slot`: **the host changes no byte of a held slot**; bytes change only
  when a request is taken, and then only in the two slots that it goes to, which were free.
-/

set_option autoImplicit false

namespace CaptureProtocol

/-- Whether a byte position lies in the slot `index` of a memory with slots of `size` bytes. -/
def InSlot (index size position : Nat) : Prop :=
  index * size ≤ position ∧ position < index * size + size

instance (index size position : Nat) : Decidable (InSlot index size position) :=
  inferInstanceAs (Decidable (_ ∧ _))

/-- Whether an action puts a byte of its own into a request slot. -/
def Action.WritesInto (config : ChannelConfig) (index : Nat) : Action → Prop
  | .write offset bytes => ∃ k < bytes.length, InSlot index config.requestBytes (offset + k)
  | _ => False

theorem Action.not_writesInto_of_isHost {action : Action} (h : action.isHost = true)
    (config : ChannelConfig) (index : Nat) : ¬ action.WritesInto config index := by
  cases action with
  | write _ _ => cases h
  | _ => exact id

namespace Bytes

/-- A patch changes no byte outside its range. -/
theorem getElem?_overwrite_of_outside {bytes patch : Bytes} {offset position : Nat}
    (h : offset + patch.length ≤ bytes.length)
    (ho : ¬ (offset ≤ position ∧ position < offset + patch.length)) :
    (bytes.overwrite offset patch)[position]? = bytes[position]? := by
  rw [getElem?_overwrite h, if_neg ho]

/-- A slice keeps its bytes when none of the patch's lies in it. -/
theorem slice_overwrite_of_spared {bytes patch : Bytes} {offset start size : Nat}
    (h : offset + patch.length ≤ bytes.length)
    (hs : ∀ k < patch.length, ¬ (start ≤ offset + k ∧ offset + k < start + size)) :
    (bytes.overwrite offset patch).slice start size = bytes.slice start size := by
  apply List.ext_getElem?
  intro i
  rw [getElem?_slice, getElem?_slice]
  by_cases hi : i < size
  · rw [if_pos hi, if_pos hi]
    apply getElem?_overwrite_of_outside h
    rintro ⟨hl, hr⟩
    exact hs (start + i - offset) (by omega) (by omega)
  · rw [if_neg hi, if_neg hi]

end Bytes

namespace Ring

/-! ## Bytes of held slots -/

/-- A held slot is not the one that a request can go to. -/
theorem ne_nextSlot_of_held {r : Ring} {i : Nat} {sequence : UInt32}
    (hi : r.holder? i = some sequence) (hf : r.holder? r.nextSlot = none) : i ≠ r.nextSlot := by
  rintro rfl
  rw [hf] at hi
  cases hi

theorem WellFormed.slot_place_of_ne {r : Ring} (h : r.WellFormed) (request : CaptureRequest)
    (info : Option MemoryInfo) {i : Nat} (hi : i ≠ r.nextSlot) :
    (r.place request info).slot i = r.slot i := by
  have hd := slots_disjoint hi r.config.requestBytes
  have hr := h.slot_fits r.nextSlot_lt
  refine Bytes.slice_overwrite_of_disjoint ?_ ?_
  · rw [length_placedRequest]; exact hr
  · rw [length_placedRequest]; exact hd

theorem WellFormed.infoSlot_place_of_ne {r : Ring} (h : r.WellFormed) (request : CaptureRequest)
    (info : Option MemoryInfo) {i : Nat} (hi : i ≠ r.nextSlot) :
    (r.place request info).infoSlot i = r.infoSlot i := by
  have hd := slots_disjoint hi r.config.memoryInfoBytes
  have hm := h.infoSlot_fits r.nextSlot_lt
  refine Bytes.slice_overwrite_of_disjoint ?_ ?_
  · rw [length_placedInfo]; exact hm
  · rw [length_placedInfo]; exact hd

theorem Change.slot_eq {r r' : Ring} {action : Action} (hw : r.WellFormed)
    (h : r.Change action r') {i : Nat} {sequence : UInt32} (hi : r.holder? i = some sequence)
    (hs : ¬ action.WritesInto r.config i) : r'.slot i = r.slot i := by
  cases h with
  | idle => rfl
  | placed _ hf _ => exact hw.slot_place_of_ne _ _ (ne_nextSlot_of_held hi hf)
  | finished _ _ _ => rfl
  | freed _ => rfl
  | resetting _ => rfl
  | reclaimed => rfl
  | written hb =>
    refine Bytes.slice_overwrite_of_spared hb ?_
    intro k hk hin
    exact hs ⟨k, hk, hin⟩

theorem Change.infoSlot_eq {r r' : Ring} {action : Action} (hw : r.WellFormed)
    (h : r.Change action r') {i : Nat} {sequence : UInt32} (hi : r.holder? i = some sequence) :
    r'.infoSlot i = r.infoSlot i := by
  cases h with
  | placed _ hf _ => exact hw.infoSlot_place_of_ne _ _ (ne_nextSlot_of_held hi hf)
  | _ => rfl

/-! ## Bytes anywhere -/

theorem getElem?_requests_place {r : Ring} (hw : r.WellFormed) (request : CaptureRequest)
    (info : Option MemoryInfo) {k : Nat} (hk : ¬ InSlot r.nextSlot r.config.requestBytes k) :
    (r.place request info).requests[k]? = r.requests[k]? := by
  have hr := hw.slot_fits r.nextSlot_lt
  refine Bytes.getElem?_overwrite_of_outside ?_ ?_
  · rw [length_placedRequest]; exact hr
  · rw [length_placedRequest]; exact hk

theorem getElem?_memoryInfo_place {r : Ring} (hw : r.WellFormed) (request : CaptureRequest)
    (info : Option MemoryInfo) {k : Nat} (hk : ¬ InSlot r.nextSlot r.config.memoryInfoBytes k) :
    (r.place request info).memoryInfo[k]? = r.memoryInfo[k]? := by
  have hm := hw.infoSlot_fits r.nextSlot_lt
  refine Bytes.getElem?_overwrite_of_outside ?_ ?_
  · rw [length_placedInfo]; exact hm
  · rw [length_placedInfo]; exact hk

/-- A host action either takes a request or leaves both memories as they are. -/
theorem Change.memory_eq {r r' : Ring} {action : Action} (h : r.Change action r')
    (hhost : action.isHost = true) :
    (r'.requests = r.requests ∧ r'.memoryInfo = r.memoryInfo) ∨
      ∃ request info, action = .submit request info ∧ r' = r.place request info := by
  cases h with
  | placed _ _ _ => exact .inr ⟨_, _, rfl, rfl⟩
  | written _ => cases hhost
  | _ => exact .inl ⟨rfl, rfl⟩

/-- Where a request was put, `submit` took it. -/
theorem submit_of_memory_ne {r : Ring} {request : CaptureRequest} {info : Option MemoryInfo}
    (h : (r.perform (.submit request info)).requests ≠ r.requests ∨
      (r.perform (.submit request info)).memoryInfo ≠ r.memoryInfo) :
    ∃ ticket, r.submit request info = .ok (r.perform (.submit request info), ticket) := by
  unfold perform at h ⊢
  dsimp only at h ⊢
  cases hs : r.submit request info with
  | ok p => exact ⟨p.2, rfl⟩
  | error _ =>
    rw [hs] at h
    rcases h with h | h <;> exact absurd rfl h

/--
**The host writes only into the next free slot.** Whatever the ring went through, a host action
changes no byte of a slot that the coprocessor or an unreleased result holds. Bytes change only when
a request is taken, and only in the two slots that belong to its sequence number, which were free.
-/
theorem host_writes_only_next_free_slot (config : ChannelConfig) (first : UInt32)
    (actions : List Action) (action : Action) (hhost : action.isHost = true) :
    let r := (startingAt config first).run actions
    let r' := r.perform action
    (∀ i sequence, r.slotState? i = some (.coprocessor sequence) ∨
        r.slotState? i = some (.completed sequence) →
      r'.slot i = r.slot i ∧ r'.infoSlot i = r.infoSlot i) ∧
    (r'.requests ≠ r.requests ∨ r'.memoryInfo ≠ r.memoryInfo →
      ∃ request info ticket, action = .submit request info ∧
        r.submit request info = .ok (r', ticket) ∧ r.slotState? r.nextSlot = some .free) ∧
    (∀ k, ¬ InSlot r.nextSlot config.requestBytes k → r'.requests[k]? = r.requests[k]?) ∧
    ∀ k, ¬ InSlot r.nextSlot config.memoryInfoBytes k → r'.memoryInfo[k]? = r.memoryInfo[k]? := by
  intro r r'
  have hw : r.WellFormed := wellFormed_run config first actions
  have hc : r.config = config := config_run (startingAt config first) actions
  have hch : r.Change action r' := r.perform_change action
  refine ⟨?_, ?_, ?_, ?_⟩
  · intro i sequence hi
    have hi := holder?_eq_some.mpr hi
    exact ⟨hch.slot_eq hw hi (action.not_writesInto_of_isHost hhost _ _), hch.infoSlot_eq hw hi⟩
  · intro hne
    rcases hch.memory_eq hhost with ⟨hr, hm⟩ | ⟨request, info, rfl, -⟩
    · rcases hne with hne | hne
      · exact absurd hr hne
      · exact absurd hm hne
    · obtain ⟨ticket, hs⟩ := submit_of_memory_ne hne
      obtain ⟨-, hf, -, -, -⟩ := submit_eq_ok hs
      exact ⟨request, info, ticket, rfl, hs, hw.slotState?_of_holder? r.nextSlot_lt hf⟩
  · intro k hk
    rcases hch.memory_eq hhost with ⟨hr, -⟩ | ⟨request, info, -, hp⟩
    · rw [hr]
    · rw [hp]
      exact getElem?_requests_place hw request info (by rw [hc]; exact hk)
  · intro k hk
    rcases hch.memory_eq hhost with ⟨-, hm⟩ | ⟨request, info, -, hp⟩
    · rw [hm]
    · rw [hp]
      exact getElem?_memoryInfo_place hw request info (by rw [hc]; exact hk)

/-- A second request leaves the slots of the first alone and goes into free ones. -/
theorem second_request_spares_first_slot :
    let r := (startingAt .threeSlots 0).run [.submit {} none]
    let r' := r.perform (.submit {} none)
    r.slotState? 0 = some (.coprocessor 0) ∧ r'.slot 0 = r.slot 0 ∧ r'.infoSlot 0 = r.infoSlot 0 ∧
      r'.requests ≠ r.requests ∧ r.slotState? r.nextSlot = some .free := by
  intro r r'
  have hs : r.slotState? 0 = some (.coprocessor 0) := by decide +kernel
  have hne : r'.requests ≠ r.requests := by decide +kernel
  obtain ⟨hheld, hplaced, -, -⟩ :=
    host_writes_only_next_free_slot .threeSlots 0 [.submit {} none] (.submit {} none) rfl
  obtain ⟨hslot, hinfo⟩ := hheld 0 0 (.inl hs)
  obtain ⟨-, -, -, -, -, hfree⟩ := hplaced (.inl hne)
  exact ⟨hs, hslot, hinfo, hne, hfree⟩

end Ring

end CaptureProtocol
