import CaptureProtocol.Proofs.Request.Slot

/-!
# Capture requests through their slot

A request without fault diagnostics is written with empty ones, and empty ones are read as none. The
rules of a channel refuse a request that asks for empty diagnostics, so what is read is what was
written.

* `ofWords_words`: a request is read back from the words of its descriptor, unless it has
  diagnostics that are none or too many.
* `blankElsewhere_slotBytes`: the slot is zero outside of what the host fills in.
* `decode_encodeFor`: **a request is read back from the slot that it is written into**, which has no
  status yet.
-/

set_option autoImplicit false

namespace CaptureProtocol

/-- A slot is zero wherever the host has nothing to say. -/
structure BlankElsewhere (slot : Bytes) : Prop where
  /-- The pre-fences, of which there are none. -/
  prefences : slot.slice 12 52 = Bytes.zeros 52
  status : slot.slice statusOffset 56 = Bytes.zeros 56
  /-- The reserved end of the descriptor. -/
  tail : slot.slice 344 40 = Bytes.zeros 40
  /-- What the slot has beyond the descriptor. -/
  beyond : slot.drop 384 = Bytes.zeros (slot.length - 384)

namespace CaptureRequest

variable {config : ChannelConfig} {r : CaptureRequest}

/-- A request that keeps the rules is encoded as it lies in a slot. -/
theorem encodeFor_eq (config : ChannelConfig) (r : CaptureRequest) :
    r.encodeFor config = CaptureError.ofRule (Rule.enforce (r.rules config) fun _ =>
      r.slotBytes config.requestBytes) := by
  have hfinish : (r.slotBytes config.requestBytes).finish descriptorRecord config.requestBytes =
      .ok (r.slotBytes config.requestBytes) :=
    Bytes.finish_eq_ok.mpr ⟨r.length_slotBytes config.descriptor_le, rfl⟩
  simp only [encodeFor, hfinish, validateFor, Rule.enforce_const]
  cases Rule.firstBroken (r.rules config) <;> rfl

theorem encodeFor_eq_ok {slot : Bytes} :
    r.encodeFor config = .ok slot ↔
      Rule.Accepted (r.rules config) ∧ slot = r.slotBytes config.requestBytes := by
  rw [encodeFor_eq, CaptureError.ofRule_eq_ok, Rule.enforce_eq_ok, exists_prop, eq_comm]

/-! ## The request -/

theorem pfsd_of_accepted (h : Rule.Accepted (r.rules config)) {p : Pfsd} (hp : r.pfsd = some p) :
    p ≠ {} ∧ p.expected.length ≤ Layout.faultRegions := by
  simp only [rules, hp, Pfsd.rules, Rule.accepted_append, Rule.accepted_cons] at h
  obtain ⟨⟨-, ⟨-, hne, -⟩, ⟨-, hcount, -⟩, -⟩, -⟩ := h
  refine ⟨?_, ?_⟩
  · simpa [Rule.consistent] using hne
  · simpa [Pfsd.countRule, Rule.noMoreThan] using hcount

/-- Diagnostics that are not empty and name few enough regions are read back with the request. -/
theorem ofWords_words
    (h : ∀ p, r.pfsd = some p → p ≠ {} ∧ p.expected.length ≤ Layout.faultRegions) :
    ofWords r.words = .ok r := by
  obtain ⟨sequence, flags, start, completion, vi, pfsd, engine, output, mark⟩ := r
  cases pfsd with
  | none =>
    have hp : Pfsd.ofWords (Pfsd.words {}) = .ok {} := Pfsd.ofWords_words (by simp)
    simp only [ofWords, words, Option.getD_none, hp]
    rfl
  | some p =>
    obtain ⟨hne, hcount⟩ := h p rfl
    simp only [ofWords, words, Option.getD_some, Pfsd.ofWords_words hcount]
    show Except.ok _ = _
    rw [if_neg hne]

theorem decodeRequest_slotBytes (h : Rule.Accepted (r.rules config)) (size : Nat) :
    decodeRequest (r.slotBytes size) = .ok r := by
  unfold decodeRequest slotBytes
  rw [codec.decode_write_append]
  show CaptureError.ofRule (ofWords r.words) = _
  rw [ofWords_words fun p hp => pfsd_of_accepted h hp]
  rfl

/-! ## The rest of the slot -/

theorem blankElsewhere_slotBytes (r : CaptureRequest) {size : Nat} (h : 384 ≤ size) :
    BlankElsewhere (r.slotBytes size) := by
  have hlen := r.length_slotBytes h
  have hsize := codec.size_write r.words
  obtain ⟨head, body, tail, hh, hb, ht, hw⟩ := codec_write_parts r.words
  refine ⟨?_, ?_, ?_, ?_⟩
  · have hs := Bytes.slice_append head (Bytes.zeros 52)
      (body ++ (Bytes.zeros 56 ++ (tail ++ (Bytes.zeros 40 ++ Bytes.zeros (size - codec.size)))))
    simpa [slotBytes, hw, hh] using hs
  · have hs := Bytes.slice_append (head ++ (Bytes.zeros 52 ++ body)) (Bytes.zeros 56)
      (tail ++ (Bytes.zeros 40 ++ Bytes.zeros (size - codec.size)))
    simpa [slotBytes, hw, hh, hb, statusOffset] using hs
  · have hs := Bytes.slice_append
      (head ++ (Bytes.zeros 52 ++ (body ++ (Bytes.zeros 56 ++ tail)))) (Bytes.zeros 40)
      (Bytes.zeros (size - codec.size))
    simpa [slotBytes, hw, hh, hb, ht] using hs
  · rw [hlen]
    rw [size_codec] at hsize
    rw [slotBytes, ← hsize, List.drop_left, hsize, size_codec]

/--
**A request is read back from the slot that it is written into.** Whatever the channel and the
request, if the request has a slot then it fills the slot of the ring, which is zero wherever the
host has nothing to say; what is read from it is the request, its sequence number, and that nothing
is known yet.
-/
theorem decode_encodeFor (config : ChannelConfig) (r : CaptureRequest) (slot : Bytes)
    (h : r.encodeFor config = .ok slot) :
    slot.length = config.requestBytes ∧ BlankElsewhere slot ∧ decodeRequest slot = .ok r ∧
      decodeStatus slot = .ok {} ∧ storedSequence slot = .ok r.sequence := by
  obtain ⟨ha, rfl⟩ := encodeFor_eq_ok.mp h
  have hd := config.descriptor_le
  have hr := reports_slotBytes r config.requestBytes
  exact ⟨r.length_slotBytes hd, r.blankElsewhere_slotBytes hd, decodeRequest_slotBytes ha _,
    hr.status, hr.sequence⟩

/-- A channel with embedded data, a line timer and diagnostics, and slots larger than descriptors. -/
def wideChannel : ChannelConfig where
  settings :=
    { flags := ⟨0x9040⟩, requests := 0x80000000, memoryInfo := 0x80010000, queueDepth := 4,
      requestSize := 448, linetimer := ⟨9, 0, none, 4, by decide⟩ }
  accepted := by decide

/-- A request that uses all of it, with two compared regions and flags that have no name. -/
def wideRequest : CaptureRequest where
  sequence := 42
  flags := ⟨0x80000003⟩
  startTimeout := 100
  vi :=
    { flags := ⟨0xFFFF0012⟩, matching := { stream := 0x3F, frameIdMask := 0xFFFF },
      pixels := { padZero := true, pdaf := { format := 7 } },
      writer := { surfaces := #v[0xFEDCBA9876543210, 0, 1, 0xFFFFFFFF00000000] } }
  pfsd := some
    { pattern := 0x123
      expected := [{ length := 255, value := #v[1, 2, 3, 4] }, { offset := 8, length := 4 }] }
  engineStatusOffset := 0x0123456789ABCDEF
  outputBuffer := 0xDEADBEEF00000001
  watermark := { buffer := 3, size := 64 }

/-- The request that uses all of its channel comes back from a slot of 448 bytes. -/
theorem decode_encodeFor_wideRequest :
    ∃ slot, wideRequest.encodeFor wideChannel = .ok slot ∧ slot.length = 448 ∧
      BlankElsewhere slot ∧ decodeRequest slot = .ok wideRequest ∧ decodeStatus slot = .ok {} ∧
      storedSequence slot = .ok 42 := by
  have ha : Rule.Accepted (wideRequest.rules wideChannel) := by decide
  have he := encodeFor_eq_ok.mpr ⟨ha, rfl⟩
  obtain ⟨hl, hb, hr, hs, hq⟩ := decode_encodeFor wideChannel wideRequest _ he
  exact ⟨_, he, hl, hb, hr, hs, hq⟩

end CaptureRequest

end CaptureProtocol
