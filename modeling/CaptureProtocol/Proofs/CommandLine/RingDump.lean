import CaptureProtocol.Proofs.CommandLine.ReadBack
import CaptureProtocol.Proofs.Ring.Faults

/-!
# Reports on ring dumps

The report on a ring dump goes through the slots of the dump in one run, and a run for one slot
reads the same file again. What a run says of a slot comes from the bytes of this slot alone, which
are the bytes that the ring itself has for the slot, so a slot that the coprocessor has ruined costs
no more than its own lines. All of this holds with any log, whose lines on a corrupted frame stand
among the others.

* `run_eq_decodeDump`: the command line that leads to a report.
* `ReportOn`: the report on some bytes as a slot, line by line.
* `ReportOn.told`: what the report tells of the slot.
* `reportSlots_eq`: going through slots prints what going to each of them prints.
* `SlotBySlot`: what it means that a dump is reported slot by slot.
* `ring_dump_slot_by_slot`: **ring dumps are reported slot by slot, as their rings have the slots**.
-/

set_option autoImplicit false

namespace CaptureProtocol.CommandLine

/-- What `decode` leaves behind for a file with these contents, about one slot or about all. -/
def decodeDump (log : Logger) (file : String) (queueDepth requestSize : UInt32) (dump : Bytes)
    (slot : Option Nat) : Outcome :=
  Command.report log (.ok dump) (.decode file queueDepth requestSize slot)

/-- A command line that asks for a dump leaves behind what is said of the contents of its file. -/
theorem run_eq_decodeDump {log : Logger} {arguments : List String} {tree : FileTree}
    {file : String} {queueDepth requestSize : UInt32} {slot : Option Nat} {dump : Bytes}
    (hparse : Command.parse arguments = .ok (.decode file queueDepth requestSize slot))
    (hread : tree.read file = .ok dump) :
    run log arguments tree = decodeDump log file queueDepth requestSize dump slot := by
  unfold run execute
  rw [hparse]
  show decodeReport log file queueDepth requestSize slot (tree.read file) = _
  rw [hread]
  rfl
/-- The report on a slot: its sequence number, and the status in it or why this cannot be read. -/
inductive ReportOn (log : Logger) (index : Nat) (slot : Bytes) : Outcome → Prop where
  /-- The status is read and judged: its code and frame, what the log says of it, the verdict, and
  the findings in order. -/
  | judged {sequence : UInt32} {status : CaptureStatus} : storedSequence slot = .ok sequence →
      decodeStatus slot = .ok status →
      ReportOn log index slot (.ok (
        ["slot " ++ Text.column 3 index ++ "  seq " ++ Text.column 10 sequence.toNat ++ "  " ++
          status.code.name ++ "  frame " ++ toString status.frameId.toNat] ++
        log.lines status.events ++
        ["verdict: " ++ status.classify.verdict.name] ++
        status.classify.diagnostics.map fun d =>
          (if d.isCorrupting then "  [corrupting] " else "  [  advisory] ") ++ d.message))
  /-- The status cannot be read. -/
  | unreadable {sequence : UInt32} {error : CaptureError} : storedSequence slot = .ok sequence →
      decodeStatus slot = .error error →
      ReportOn log index slot (.ok
        ["slot " ++ Text.column 3 index ++ "  seq " ++ Text.column 10 sequence.toNat ++ "  " ++
          error.message])

section Report

variable {log : Logger} {index : Nat} {slot : Bytes}

/-- The lines on a slot are the report on it. -/
theorem reportOn_slotLines {sequence : UInt32} (h : storedSequence slot = .ok sequence) :
    ReportOn log index slot (.ok (slotLines log index sequence (decodeStatus slot))) := by
  cases hstatus : decodeStatus slot with
  | error error => exact .unreadable h hstatus
  | ok status =>
    have hreport : ReportOn log index slot _ := .judged h hstatus
    simp only [List.append_assoc, List.singleton_append] at hreport
    simp only [slotLines, classificationLines_eq]
    exact hreport

/-- There is no other report on a slot. -/
theorem ReportOn.eq_slotLines {outcome : Outcome} (h : ReportOn log index slot outcome) :
    ∃ sequence, storedSequence slot = .ok sequence ∧
      outcome = .ok (slotLines log index sequence (decodeStatus slot)) := by
  cases h with
  | judged hsequence hstatus =>
    refine ⟨_, hsequence, ?_⟩
    rw [hstatus]
    simp only [slotLines, classificationLines_eq, List.append_assoc, List.singleton_append]
    rfl
  | unreadable hsequence hstatus =>
    refine ⟨_, hsequence, ?_⟩
    rw [hstatus]
    rfl

theorem ReportOn.unique {a b : Outcome} (ha : ReportOn log index slot a)
    (hb : ReportOn log index slot b) : a = b := by
  obtain ⟨sequence, hsequence, rfl⟩ := ha.eq_slotLines
  obtain ⟨sequence', hsequence', rfl⟩ := hb.eq_slotLines
  cases hsequence.symm.trans hsequence'
  rfl

/-- What is printed on a slot tells which slot it is, and its sequence number and verdict. -/
theorem ReportOn.told {index' : Nat} {slot' : Bytes} {a b : Outcome}
    (ha : ReportOn log index slot a) (hb : ReportOn log index' slot' b)
    (hroom : 328 ≤ slot.length) (hroom' : 328 ≤ slot'.length) (h : a.stdout = b.stdout) :
    index = index' ∧ storedSequence slot = storedSequence slot' ∧
      (decodeStatus slot).map reported = (decodeStatus slot').map reported := by
  obtain ⟨sequence, hsequence, rfl⟩ := ha.eq_slotLines
  obtain ⟨sequence', hsequence', rfl⟩ := hb.eq_slotLines
  obtain ⟨hindex, rfl, hstatus⟩ :=
    slotLines_inj (readable_decodeStatus hroom) (readable_decodeStatus hroom') h
  exact ⟨hindex, hsequence.trans hsequence'.symm, hstatus⟩

/-- A status word that is no code is reported by its number. -/
theorem ReportOn.invalid {outcome : Outcome} (h : ReportOn log index slot outcome)
    (hroom : 328 ≤ slot.length) (hcode : 16 < slot.numberAt 276 4) :
    ∃ sequence : UInt32, storedSequence slot = .ok sequence ∧
      outcome = .ok ["slot " ++ Text.column 3 index ++ "  seq " ++
        Text.column 10 sequence.toNat ++ "  invalid capture_status status code " ++
          toString (slot.numberAt 276 4)] := by
  rcases decodeStatus_cases hroom with ⟨hle, -⟩ | ⟨-, raw, hraw, herror⟩
  · omega
  · obtain ⟨sequence, hsequence, rfl⟩ := h.eq_slotLines
    refine ⟨sequence, hsequence, ?_⟩
    have hlead : "  " ++ "invalid capture_status status code " =
        "  invalid capture_status status code " := rfl
    rw [herror, slotLines_eq, slotText_invalid, hraw, ← hlead]
    unfold slotLead verdictLines
    simp only [String.append_assoc]

end Report

/-! ## Going through the slots -/

theorem reportSlots_cons {log : Logger} {dump : Bytes} {size index : Nat} {sequence : UInt32}
    (h : storedSequence (dump.slice (index * size) size) = .ok sequence) (lines : List String)
    (indices : List Nat) :
    reportSlots log dump size lines (index :: indices) =
      reportSlots log dump size (lines ++
        slotLines log index sequence (decodeStatus (dump.slice (index * size) size))) indices := by
  rw [reportSlots, h]

theorem reportSlots_singleton {log : Logger} {dump : Bytes} {size index : Nat}
    (h : 384 ≤ (dump.slice (index * size) size).length) :
    ReportOn log index (dump.slice (index * size) size)
      (reportSlots log dump size [] [index]) := by
  obtain ⟨sequence, hsequence⟩ := Ring.exists_storedSequence h
  rw [reportSlots_cons hsequence, reportSlots, List.nil_append]
  exact reportOn_slotLines hsequence

/-- **Going through slots prints what going to each of them prints**, in turn. -/
theorem reportSlots_eq {log : Logger} {dump : Bytes} {size : Nat} {indices : List Nat}
    (h : ∀ i ∈ indices, 384 ≤ (dump.slice (i * size) size).length) (lines : List String) :
    reportSlots log dump size lines indices =
      ⟨0, Text.unlines lines ++
        String.join (indices.map fun i => (reportSlots log dump size [] [i]).stdout), ""⟩ := by
  induction indices generalizing lines with
  | nil => simp [reportSlots, Outcome.ok]
  | cons index indices ih =>
    obtain ⟨sequence, hsequence⟩ := Ring.exists_storedSequence (h index List.mem_cons_self)
    rw [reportSlots_cons hsequence, ih fun i hi => h i (List.mem_cons_of_mem _ hi),
      Text.unlines_append, List.map_cons, String.join_cons, reportSlots_cons hsequence, reportSlots,
      List.nil_append, String.append_assoc]
    rfl

/-! ## Dumps of an accepted geometry -/

theorem length_dumpSlot {dump : Bytes} {depth size i : Nat} (h : depth * size ≤ dump.length)
    (hi : i < depth) : (dump.slice (i * size) size).length = size :=
  Bytes.length_slice_of_le ((Ring.slot_end_le hi size).trans h)

theorem slots_hold_descriptors {dump : Bytes} {depth size : Nat} (h : depth * size ≤ dump.length)
    (hsize : 384 ≤ size) :
    ∀ i ∈ List.range depth, 384 ≤ (dump.slice (i * size) size).length := by
  intro i hi
  rw [length_dumpSlot h (List.mem_range.mp hi)]
  exact hsize

section Geometry

variable {queueDepth requestSize : UInt32} (hpos : 1 ≤ queueDepth.toNat)
  (hmax : queueDepth.toNat ≤ 240) (hsize : 384 ≤ requestSize.toNat) (log : Logger)
  (file : String)

include hpos hmax hsize

/-- Depth and size are in order, so that only the length of the file and the slot matter. -/
theorem decodeDump_eq (dump : Bytes) (slot : Option Nat) :
    decodeDump log file queueDepth requestSize dump slot =
      if dump.length < queueDepth.toNat * requestSize.toNat then
        .failed []
          s!"{file} holds {dump.length} bytes, ring needs {queueDepth.toNat * requestSize.toNat}"
          none
      else
        match slot with
        | none => reportSlots log dump requestSize.toNat [] (List.range queueDepth.toNat)
        | some index =>
          if index < queueDepth.toNat then reportSlots log dump requestSize.toNat [] [index]
          else .failed [] s!"slot {index} outside a {queueDepth.toNat}-slot ring" none := by
  have hdepth : Rule.Accepted [.depth "queue_depth" queueDepth Layout.maxQueueDepth] := by
    rw [Rule.accepted_cons, Rule.depth_holds]
    exact ⟨⟨hpos, hmax⟩, Rule.accepted_nil⟩
  have hroom : ¬ requestSize.toNat < CaptureRequest.codec.size := by
    rw [CaptureRequest.size_codec]
    omega
  simp only [decodeDump, Command.report, decodeReport, QueueDepth.requests,
    Rule.enforce_of_accepted _ hdepth, QueueDepth.slots, if_neg hroom]
  cases slot <;> rfl

theorem decodeDump_of_short {dump : Bytes}
    (h : dump.length < queueDepth.toNat * requestSize.toNat) (slot : Option Nat) :
    decodeDump log file queueDepth requestSize dump slot = .failed []
      s!"{file} holds {dump.length} bytes, ring needs {queueDepth.toNat * requestSize.toNat}"
      none := by
  rw [decodeDump_eq hpos hmax hsize, if_pos h]

theorem decodeDump_none {dump : Bytes}
    (h : queueDepth.toNat * requestSize.toNat ≤ dump.length) :
    decodeDump log file queueDepth requestSize dump none =
      reportSlots log dump requestSize.toNat [] (List.range queueDepth.toNat) := by
  rw [decodeDump_eq hpos hmax hsize, if_neg (Nat.not_lt.mpr h)]

theorem decodeDump_some {dump : Bytes} {index : Nat}
    (h : queueDepth.toNat * requestSize.toNat ≤ dump.length) (hi : index < queueDepth.toNat) :
    decodeDump log file queueDepth requestSize dump (some index) =
      reportSlots log dump requestSize.toNat [] [index] := by
  rw [decodeDump_eq hpos hmax hsize, if_neg (Nat.not_lt.mpr h)]
  exact if_pos hi

/-- A run for all slots succeeds exactly when the file holds the ring. -/
theorem decodeDump_exitCode_iff (dump : Bytes) :
    (decodeDump log file queueDepth requestSize dump none).exitCode = 0 ↔
      queueDepth.toNat * requestSize.toNat ≤ dump.length := by
  by_cases h : queueDepth.toNat * requestSize.toNat ≤ dump.length
  · rw [decodeDump_none hpos hmax hsize log file h, reportSlots_eq (slots_hold_descriptors h hsize)]
    exact iff_of_true rfl h
  · rw [decodeDump_of_short hpos hmax hsize log file (Nat.lt_of_not_le h)]
    exact iff_of_false Nat.one_ne_zero h

/-- **A run for all slots prints what the runs for each of them print.** -/
theorem decodeDump_concat {dump : Bytes}
    (h : queueDepth.toNat * requestSize.toNat ≤ dump.length) :
    decodeDump log file queueDepth requestSize dump none =
      ⟨0, String.join ((List.range queueDepth.toNat).map fun i =>
        (decodeDump log file queueDepth requestSize dump (some i)).stdout), ""⟩ := by
  have heach : ∀ i ∈ List.range queueDepth.toNat,
      (reportSlots log dump requestSize.toNat [] [i]).stdout =
        (decodeDump log file queueDepth requestSize dump (some i)).stdout := by
    intro i hi
    rw [decodeDump_some hpos hmax hsize log file h (List.mem_range.mp hi)]
  rw [decodeDump_none hpos hmax hsize log file h, reportSlots_eq (slots_hold_descriptors h hsize),
    List.map_congr_left heach]
  rfl

/-- **A run for one slot reports on the bytes of this slot.** -/
theorem decodeDump_reports {dump : Bytes} {index : Nat}
    (h : queueDepth.toNat * requestSize.toNat ≤ dump.length) (hi : index < queueDepth.toNat) :
    ReportOn log index (dump.slice (index * requestSize.toNat) requestSize.toNat)
      (decodeDump log file queueDepth requestSize dump (some index)) := by
  rw [decodeDump_some hpos hmax hsize log file h hi]
  exact reportSlots_singleton (slots_hold_descriptors h hsize index (List.mem_range.mpr hi))

end Geometry

/-! ## Slot by slot -/

/-- What it means that a way to decode dumps of some geometry goes slot by slot. -/
structure SlotBySlot (log : Logger) (decode : Bytes → Option Nat → Outcome) (depth size : Nat) :
    Prop where
  /-- All slots are reported exactly when the file holds the ring. -/
  success : ∀ dump, (decode dump none).exitCode = 0 ↔ depth * size ≤ dump.length
  /-- Nothing is printed of a file that is too short, whatever is asked for. -/
  short : ∀ dump slot, dump.length < depth * size →
    (decode dump slot).exitCode = 1 ∧ (decode dump slot).stdout = ""
  /-- The reports on all slots are those on each slot in turn, and nothing else. -/
  concat : ∀ dump, depth * size ≤ dump.length →
    decode dump none =
      ⟨0, String.join ((List.range depth).map fun i => (decode dump (some i)).stdout), ""⟩
  /-- A slot is reported from its own bytes, which are all in the file. -/
  slot : ∀ dump i, depth * size ≤ dump.length → i < depth →
    (dump.slice (i * size) size).length = size ∧
      ReportOn log i (dump.slice (i * size) size) (decode dump (some i))
  /-- What is printed tells the slot, the sequence number in it, and what there is to say of its
  status: slots are reported alike only if all of these are the same. -/
  told : ∀ dump dump' i i', depth * size ≤ dump.length → depth * size ≤ dump'.length →
    i < depth → i' < depth → (decode dump (some i)).stdout = (decode dump' (some i')).stdout →
    i = i' ∧
      storedSequence (dump.slice (i * size) size) =
        storedSequence (dump'.slice (i' * size) size) ∧
      (decodeStatus (dump.slice (i * size) size)).map reported =
        (decodeStatus (dump'.slice (i' * size) size)).map reported
  /-- Other bytes of the file have no say in it. -/
  slotLocal : ∀ dump dump' i, depth * size ≤ dump.length → depth * size ≤ dump'.length →
    i < depth → dump.slice (i * size) size = dump'.slice (i * size) size →
    decode dump (some i) = decode dump' (some i)
  /-- A status word that is no code costs the slot its verdict, and is reported by its number. -/
  invalid : ∀ dump i, depth * size ≤ dump.length → i < depth →
    16 < (dump.slice (i * size) size).numberAt 276 4 →
    ∃ sequence : UInt32, storedSequence (dump.slice (i * size) size) = .ok sequence ∧
      decode dump (some i) = .ok ["slot " ++ Text.column 3 i ++ "  seq " ++
        Text.column 10 sequence.toNat ++ "  invalid capture_status status code " ++
          toString ((dump.slice (i * size) size).numberAt 276 4)]
  /-- Whatever is written into one slot, the others are reported as before. -/
  spared : ∀ dump i j offset patch, depth * size ≤ dump.length → i < depth → j < depth → i ≠ j →
    j * size ≤ offset → offset + patch.length ≤ j * size + size →
    (decode (dump.overwrite offset patch) none).exitCode = 0 ∧
      decode (dump.overwrite offset patch) (some i) = decode dump (some i)
  /-- The slots of a dumped ring, whatever it went through, are reported as the ring has them. -/
  ring : ∀ r i slot, (∃ config first actions, r = (Ring.startingAt config first).run actions) →
    r.config.depth.slots = depth → r.config.requestBytes = size → r.slot? i = some slot →
    ReportOn log i slot (decode r.requests (some i))

/-- A slot of a ring is the part of its memory that a dump has for the slot. -/
theorem slice_of_slot? {r : Ring} {i : Nat} {slot : Bytes} (h : r.slot? i = some slot) :
    i < r.config.depth.slots ∧
      r.requests.slice (i * r.config.requestBytes) r.config.requestBytes = slot := by
  unfold Ring.slot? Ring.ifSlot at h
  split at h
  · next hi => exact ⟨hi, Option.some.inj h⟩
  · cases h

/--
**Ring dumps are reported slot by slot, as their rings have the slots**, for every depth and every
slot size that holds a descriptor, aligned or not, and whatever becomes of the log.
-/
theorem ring_dump_slot_by_slot {queueDepth requestSize : UInt32} (hpos : 1 ≤ queueDepth.toNat)
    (hmax : queueDepth.toNat ≤ 240) (hsize : 384 ≤ requestSize.toNat) (log : Logger)
    (file : String) :
    SlotBySlot log (decodeDump log file queueDepth requestSize) queueDepth.toNat
      requestSize.toNat := by
  have hslot : ∀ dump i, queueDepth.toNat * requestSize.toNat ≤ dump.length →
      i < queueDepth.toNat →
      ReportOn log i (dump.slice (i * requestSize.toNat) requestSize.toNat)
        (decodeDump log file queueDepth requestSize dump (some i)) :=
    fun dump i h hi => decodeDump_reports hpos hmax hsize log file h hi
  constructor
  case success => exact decodeDump_exitCode_iff hpos hmax hsize log file
  case short =>
    intro dump slot h
    rw [decodeDump_of_short hpos hmax hsize log file h]
    exact ⟨rfl, rfl⟩
  case concat => exact fun dump h => decodeDump_concat hpos hmax hsize log file h
  case slot => exact fun dump i h hi => ⟨length_dumpSlot h hi, hslot dump i h hi⟩
  case told =>
    intro dump dump' i i' h h' hi hi' heq
    have hlen := length_dumpSlot h hi
    have hlen' := length_dumpSlot h' hi'
    exact (hslot dump i h hi).told (hslot dump' i' h' hi') (by omega) (by omega) heq
  case slotLocal =>
    intro dump dump' i h h' hi heq
    have hreport := hslot dump i h hi
    rw [heq] at hreport
    exact hreport.unique (hslot dump' i h' hi)
  case invalid =>
    intro dump i h hi hcode
    refine (hslot dump i h hi).invalid ?_ hcode
    rw [length_dumpSlot h hi]
    omega
  case spared =>
    intro dump i j offset patch h hi hj hne hstart hstop
    have hfits : offset + patch.length ≤ dump.length :=
      hstop.trans ((Ring.slot_end_le hj _).trans h)
    have hlen := Bytes.length_overwrite hfits
    have hsame : (dump.overwrite offset patch).slice (i * requestSize.toNat) requestSize.toNat =
        dump.slice (i * requestSize.toNat) requestSize.toNat := by
      have hdisjoint := Ring.slots_disjoint hne requestSize.toNat
      exact Bytes.slice_overwrite_of_disjoint hfits (by omega)
    have hreport := hslot (dump.overwrite offset patch) i (by rw [hlen]; exact h) hi
    rw [hsame] at hreport
    refine ⟨?_, hreport.unique (hslot dump i h hi)⟩
    rw [decodeDump_exitCode_iff hpos hmax hsize, hlen]
    exact h
  case ring =>
    rintro r i slot ⟨config, first, actions, rfl⟩ hdepth hbytes h
    have hlen := (Ring.wellFormed_run config first actions).requests
    rw [ChannelConfig.requestRingBytes, hdepth, hbytes] at hlen
    obtain ⟨hi, rfl⟩ := slice_of_slot? h
    rw [hdepth] at hi
    rw [hbytes]
    exact hslot _ i hlen.ge hi

/-- A ring whose first slot was ruined by the coprocessor is reported: the first slot by the number
that is no code, and the second one as in an untouched ring. -/
theorem ring_dump_slot_by_slot_ruined_slot :
    let r := (Ring.startingAt .threeSlots 7).run [.write 276 [17]]
    let decode := decodeDump .warnings "ring.bin" 3 384
    (decode r.requests none).exitCode = 0 ∧
      (∃ sequence : UInt32, storedSequence (r.requests.slice 0 384) = .ok sequence ∧
        decode r.requests (some 0) = .ok ["slot " ++ Text.column 3 0 ++ "  seq " ++
          Text.column 10 sequence.toNat ++ "  invalid capture_status status code 17"]) ∧
      decode r.requests (some 1) = decode (Bytes.zeros 1152) (some 1) ∧
      (decode r.requests (some 0)).stdout ≠ (decode r.requests (some 1)).stdout ∧
      ReportOn .warnings 1 (Bytes.zeros 384) (decode r.requests (some 1)) := by
  intro r decode
  have h : SlotBySlot .warnings decode 3 384 :=
    ring_dump_slot_by_slot (by decide) (by decide) (by decide) .warnings "ring.bin"
  have hlen : r.requests.length = 3 * 384 := by decide +kernel
  have hcode : (r.requests.slice (0 * 384) 384).numberAt 276 4 = 17 := by decide +kernel
  have hsame : r.requests.slice (1 * 384) 384 = (Bytes.zeros 1152).slice (1 * 384) 384 := by
    decide +kernel
  have hslot : r.slot? 1 = some (Bytes.zeros 384) := by decide +kernel
  have hline : "  invalid capture_status status code " ++ toString 17 =
      "  invalid capture_status status code 17" := by decide
  obtain ⟨sequence, hsequence, hreport⟩ := h.invalid r.requests 0 hlen.ge (by decide)
    (by rw [hcode]; decide)
  rw [hcode, String.append_assoc, hline] at hreport
  refine ⟨(h.success r.requests).mpr hlen.ge, ⟨sequence, hsequence, hreport⟩,
    h.slotLocal r.requests (Bytes.zeros 1152) 1 hlen.ge (by rw [Bytes.length_zeros]) (by decide)
      hsame, fun heq => ?_,
    h.ring r 1 _ ⟨.threeSlots, 7, _, rfl⟩ (by decide +kernel) (by decide +kernel) hslot⟩
  have htold := h.told r.requests r.requests 0 1 hlen.ge hlen.ge (by decide) (by decide) heq
  exact absurd htold.1 (by decide)

/-- The log tells of a corrupted frame before the verdict. -/
example :
    let status : CaptureStatus := { code := .csimuxFrame, frameId := 9 }
    let dump := (Bytes.zeros 384).overwrite statusOffset status.encode
    decodeDump .warnings "ring.bin" 1 384 dump (some 0) = .ok
      ["slot   0  seq          0  CSIMUX_FRAME  frame 9",
        " WARN camrtc_capture::classify: frame corrupted: status CSIMUX_FRAME" ++
          " frame_id=9 channel_in_error=false",
        "verdict: FrameCorrupted",
        "  [corrupting] status CSIMUX_FRAME"] := by
  decide +kernel

end CaptureProtocol.CommandLine
