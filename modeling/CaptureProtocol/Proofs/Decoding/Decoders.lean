import CaptureProtocol.Isp.Channel
import CaptureProtocol.Isp.Program
import CaptureProtocol.Proofs.Decoding.Cursor
import CaptureProtocol.Request.Descriptor
import CaptureProtocol.Request.MemoryInfo

/-!
# Decoders step by step

Every decoder is written out here as it runs: one check for the length of the record, then field
after field from a cursor, with the checks of single fields where they are made. The steps are those
of `Cursor`, so reading on after the cursor ran out would show as a fault.

* `next`, `next_eq`: a record at a cursor, and that it is read as its format says.
* `decodeChecked`, `run_decodeChecked`: a decoder with all its steps, and that it does not fault.
* `decoders_within_bounds`: **no decoder reads beyond the bytes that it checked for**, and most need
  exactly the bytes of their record.
-/

set_option autoImplicit false

namespace CaptureProtocol

open Cursor

/-! ## Parts of records -/

namespace Syncpoint

def next : Cursor Syncpoint := do
  let id ← take .u32
  let threshold ← take .u32
  let sid ← take .u8
  let index ← take .u8
  let offset ← take .u16
  skip 4
  let shim ← take .u64
  let gos ← gosOfWords sid index offset
  make id threshold gos shim

theorem next_eq {cursor rest : Bytes} {w : Words} (h : codec.read cursor = some (w, rest)) :
    next cursor = done (CaptureError.ofRule (ofWords w)) rest := by
  obtain ⟨id, threshold, sid, index, offset, shim⟩ := w
  simp only [codec, Codec.read_pair_eq_some, Codec.read_gap_eq_some] at h
  obtain ⟨_, h₁, _, h₂, _, h₃, _, h₄, _, ⟨_, h₅, hgap, rfl⟩, h₆⟩ := h
  simp only [next, take_bind h₁, take_bind h₂, take_bind h₃, take_bind h₄, take_bind h₅,
    skip_bind hgap, take_bind h₆]
  exact bind_eq_done_rule (rule_eq _ _) fun gos => rule_eq _ _

end Syncpoint

namespace Pfsd

def next : Cursor Pfsd := do
  let region ← take regionCodec
  let pattern ← take .u32
  let count ← take .u32
  let count ← Rule.enforce [countRule count.toNat] fun _ => count
  let expected ← take (.array expectedCodec Layout.faultRegions)
  pure ⟨region, pattern, Tables.ofEntries count expected⟩

theorem next_eq {cursor rest : Bytes} {w : Words} (h : codec.read cursor = some (w, rest)) :
    next cursor = done (CaptureError.ofRule (ofWords w)) rest := by
  obtain ⟨region, pattern, count, expected⟩ := w
  simp only [codec, Codec.read_pair_eq_some] at h
  obtain ⟨_, h₁, _, h₂, _, h₃, h₄⟩ := h
  simp only [next, take_bind h₁, take_bind h₂, take_bind h₃]
  conv => rhs; rw [ofWords, ← bind_pure (Rule.enforce _ _)]
  refine enforce_bind_eq_done ?_
  exact take_bind h₄ _

end Pfsd

/-! ## Channels -/

namespace ChannelConfig

def next : Cursor ChannelConfig := do
  let flags ← take (.flags .channel)
  skip 4
  let viUnit ← take .u32
  skip 4
  let viChannels ← take .u64
  let vi2Channels ← take .u64
  let stream ← take .u32
  let port ← take .u32
  let channel ← take .u32
  skip 4
  let requests ← take .u64
  let memoryInfo ← take .u64
  let queueDepth ← take .u32
  let requestSize ← take .u32
  let memoryInfoSize ← take .u32
  skip 4
  let slvsecMain ← take .u8
  let slvsecSub ← take .u8
  skip 2
  let count ← take .u32
  let count ← Rule.enforce [.noMoreThan "num_vi_gos_tables" count.toNat Layout.viGosTables]
    fun _ => count
  let tables ← take (.array .u64 Layout.viGosTables)
  let progress ← Syncpoint.next
  let embdata ← Syncpoint.next
  let linetimer ← Syncpoint.next
  let uncorrectable ← take (.flags .channelError)
  let correctable ← take (.flags .channelError)
  let stopBits ← take .u64
  let csi ← ChannelSettings.csiOfWords flags (stream, port, channel)
  ChannelSettings.build ⟨flags, viUnit, viChannels, vi2Channels, csi, requests, memoryInfo,
    queueDepth, requestSize, memoryInfoSize, slvsecMain, slvsecSub, Tables.ofEntries count tables,
    progress, embdata, linetimer, uncorrectable, correctable, stopBits⟩

theorem next_eq {cursor rest : Bytes} {w : ChannelSettings.Words}
    (h : ChannelSettings.codec.read cursor = some (w, rest)) :
    next cursor =
      done (CaptureError.ofRule (ChannelSettings.ofWords w >>= ChannelSettings.build)) rest := by
  obtain ⟨flags, viUnit, viChannels, vi2Channels, csi, requests, memoryInfo, queueDepth,
    requestSize, memoryInfoSize, slvsecMain, slvsecSub, count, tables, progress, embdata, linetimer,
    uncorrectable, correctable, stopBits⟩ := w
  obtain ⟨stream, port, channel⟩ := csi
  simp only [ChannelSettings.codec, Codec.read_pair_eq_some, Codec.read_gap_eq_some] at h
  obtain ⟨_, ⟨_, h₁, g₁, rfl⟩, _, ⟨_, h₂, g₂, rfl⟩, _, h₃, _, h₄, _,
    ⟨_, ⟨_, h₅, _, h₆, h₇⟩, g₇, rfl⟩, _, h₈, _, h₉, _, h₁₀, _, h₁₁, _, ⟨_, h₁₂, g₁₂, rfl⟩, _, h₁₃,
    _, ⟨_, h₁₄, g₁₄, rfl⟩, _, h₁₅, _, h₁₆, _, h₁₇, _, h₁₈, _, h₁₉, _, h₂₀, _, h₂₁, h₂₂⟩ := h
  simp only [next, take_bind h₁, skip_bind g₁, take_bind h₂, skip_bind g₂, take_bind h₃,
    take_bind h₄, take_bind h₅, take_bind h₆, take_bind h₇, skip_bind g₇, take_bind h₈,
    take_bind h₉, take_bind h₁₀, take_bind h₁₁, take_bind h₁₂, skip_bind g₁₂, take_bind h₁₃,
    take_bind h₁₄, skip_bind g₁₄, take_bind h₁₅]
  simp only [ChannelSettings.ofWords, bind_assoc, pure_bind]
  -- What is left are the checks, between which the tables and the last words are read.
  refine enforce_bind_eq_done ?_
  simp only [take_bind h₁₆]
  refine bind_eq_done_rule (Syncpoint.next_eq h₁₇) fun progress => ?_
  refine bind_eq_done_rule (Syncpoint.next_eq h₁₈) fun embdata => ?_
  refine bind_eq_done_rule (Syncpoint.next_eq h₁₉) fun linetimer => ?_
  simp only [take_bind h₂₀, take_bind h₂₁, take_bind h₂₂]
  exact bind_eq_done_rule (rule_eq _ _) fun csi => rule_eq _ _

theorem decode_eq (bytes : Bytes) : decode bytes =
    ChannelSettings.codec.decode "capture_channel_config" bytes >>= fun w =>
      CaptureError.ofRule (ChannelSettings.ofWords w >>= ChannelSettings.build) := by
  simp only [CaptureError.ofRule_bind]
  rfl

def decodeChecked (bytes : Bytes) : Checked ChannelConfig :=
  next.within "capture_channel_config" 0 272 bytes

theorem run_decodeChecked (bytes : Bytes) :
    (decodeChecked bytes).run = some (decode bytes) := by
  rw [decode_eq]
  exact run_within ChannelSettings.size_codec (by decide) (fun _ _ _ h => ⟨_, next_eq h⟩) _ 0 bytes

theorem needsExactly : NeedsExactly decode "capture_channel_config" 272 := by
  rw [funext decode_eq]
  exact needsExactly_decode_bind ChannelSettings.size_codec (fun _ => not_misfits_ofRule _) _

end ChannelConfig

namespace IspConfig

def next : Cursor IspConfig := do
  skip 4
  let flags ← take (.flags .ispChannel)
  let requests ← take IspSettings.shapeCodec
  let programs ← take IspSettings.shapeCodec
  let progress ← Syncpoint.next
  let statsProgress ← Syncpoint.next
  let requestInfo ← take .u64
  let programInfo ← take .u64
  let requestInfoSize ← take .u32
  let programInfoSize ← take .u32
  let unit ← take .u32
  let count ← take .u32
  let count ← Rule.enforce [.noMoreThan "num_isp_gos_tables" count.toNat Layout.ispGosTables]
    fun _ => count
  let tables ← take (.array .u64 Layout.ispGosTables)
  IspSettings.build ⟨flags, requests, programs, progress, statsProgress, requestInfo, programInfo,
    requestInfoSize, programInfoSize, unit, Tables.ofEntries count tables⟩

theorem next_eq {cursor rest : Bytes} {w : IspSettings.Words}
    (h : IspSettings.codec.read cursor = some (w, rest)) :
    next cursor =
      done (CaptureError.ofRule (IspSettings.ofWords w >>= IspSettings.build)) rest := by
  obtain ⟨flags, requests, programs, progress, statsProgress, requestInfo, programInfo,
    requestInfoSize, programInfoSize, unit, count, tables⟩ := w
  simp only [IspSettings.codec, Codec.read_pair_eq_some, Codec.read_skip_eq_some] at h
  obtain ⟨_, ⟨g₁, h₁⟩, _, h₂, _, h₃, _, h₄, _, h₅, _, h₆, _, h₇, _, h₈, _, h₉, _, h₁₀, _, h₁₁,
    h₁₂⟩ := h
  simp only [next, skip_bind g₁, take_bind h₁, take_bind h₂, take_bind h₃]
  simp only [IspSettings.ofWords, bind_assoc, pure_bind]
  refine bind_eq_done_rule (Syncpoint.next_eq h₄) fun progress => ?_
  refine bind_eq_done_rule (Syncpoint.next_eq h₅) fun statsProgress => ?_
  simp only [take_bind h₆, take_bind h₇, take_bind h₈, take_bind h₉, take_bind h₁₀, take_bind h₁₁]
  refine enforce_bind_eq_done ?_
  simp only [take_bind h₁₂]
  exact rule_eq _ _

theorem decode_eq (bytes : Bytes) : decode bytes =
    IspSettings.codec.decode "capture_channel_isp_config" bytes >>= fun w =>
      CaptureError.ofRule (IspSettings.ofWords w >>= IspSettings.build) := by
  simp only [CaptureError.ofRule_bind]
  rfl

def decodeChecked (bytes : Bytes) : Checked IspConfig :=
  next.within "capture_channel_isp_config" 0 184 bytes

theorem run_decodeChecked (bytes : Bytes) :
    (decodeChecked bytes).run = some (decode bytes) := by
  rw [decode_eq]
  exact run_within IspSettings.size_codec (by decide) (fun _ _ _ h => ⟨_, next_eq h⟩) _ 0 bytes

theorem needsExactly : NeedsExactly decode "capture_channel_isp_config" 184 := by
  rw [funext decode_eq]
  exact needsExactly_decode_bind IspSettings.size_codec (fun _ => not_misfits_ofRule _) _

end IspConfig

/-! ## Requests -/

namespace CaptureRequest

def next : Cursor CaptureRequest := do
  let sequence ← take .u32
  let flags ← take (.flags .capture)
  let startTimeout ← take .u16
  let completionTimeout ← take .u16
  skip 52
  let vi ← take ViSettings.codec
  let pfsd ← Pfsd.next
  let engineStatusOffset ← take .u64
  skip 56
  let outputBuffer ← take .u64
  let watermark ← take watermarkCodec
  pure ⟨sequence, flags, startTimeout, completionTimeout, vi,
    if pfsd = {} then none else some pfsd, engineStatusOffset, outputBuffer, watermark⟩

theorem next_eq {cursor rest : Bytes} {w : Words}
    (h : codec.read cursor = some (w, rest)) :
    ∃ left, next cursor = done (CaptureError.ofRule (ofWords w)) left := by
  obtain ⟨sequence, flags, startTimeout, completionTimeout, vi, pfsd, engineStatusOffset,
    outputBuffer, watermark⟩ := w
  simp only [codec, Codec.read_pair_eq_some, Codec.read_gap_eq_some] at h
  obtain ⟨_, h₁, _, h₂, _, h₃, _, ⟨_, h₄, g₄, rfl⟩, _, h₅, _, h₆, _, ⟨_, h₇, g₇, rfl⟩, _, h₈,
    left, h₉, -⟩ := h
  refine ⟨left, ?_⟩
  simp only [next, take_bind h₁, take_bind h₂, take_bind h₃, take_bind h₄, skip_bind g₄,
    take_bind h₅]
  refine bind_eq_done_rule (Pfsd.next_eq h₆) fun pfsd => ?_
  simp only [take_bind h₇, skip_bind g₇, take_bind h₈, take_bind h₉]
  rfl

end CaptureRequest

def decodeRequestChecked (slot : Bytes) : Checked CaptureRequest :=
  CaptureRequest.next.within descriptorRecord 0 384 slot

theorem run_decodeRequestChecked (slot : Bytes) :
    (decodeRequestChecked slot).run = some (decodeRequest slot) :=
  run_within CaptureRequest.size_codec (by decide) (fun _ _ _ h => CaptureRequest.next_eq h) _ 0
    slot

theorem needsExactly_decodeRequest : NeedsExactly decodeRequest "capture_descriptor" 384 :=
  needsExactly_decode_bind CaptureRequest.size_codec (fun _ => not_misfits_ofRule _) _

namespace MemoryInfo

def next : Cursor MemoryInfo := do
  let surfaces ← take (.array Surface.codec Layout.outputSurfaces)
  let base ← take .u64
  let size ← take .u32
  skip 4
  let watermark ← take Surface.codec
  let info : MemoryInfo := ⟨surfaces, ⟨base, size.toUInt64⟩, watermark⟩
  Rule.enforce info.rules fun _ => info

theorem next_eq {cursor rest : Bytes} {w : Words} (h : codec.read cursor = some (w, rest)) :
    ∃ left, next cursor =
      done (CaptureError.ofRule (Rule.enforce (ofWords w).rules fun _ => ofWords w)) left := by
  obtain ⟨surfaces, base, size, watermark⟩ := w
  simp only [codec, Codec.read_pair_eq_some, Codec.read_gap_eq_some] at h
  obtain ⟨_, h₁, _, h₂, _, ⟨_, h₃, g₃, rfl⟩, left, h₄, -⟩ := h
  refine ⟨left, ?_⟩
  simp only [next, take_bind h₁, take_bind h₂, take_bind h₃, skip_bind g₃, take_bind h₄]
  exact rule_eq _ _

def decodeChecked (bytes : Bytes) : Checked MemoryInfo :=
  next.within "capture_descriptor_memoryinfo" 0 128 bytes

theorem run_decodeChecked (bytes : Bytes) :
    (decodeChecked bytes).run = some (decode bytes) :=
  run_within size_codec (by decide) (fun _ _ _ h => next_eq h) _ 0 bytes

theorem needsExactly : NeedsExactly decode "capture_descriptor_memoryinfo" 128 :=
  needsExactly_decode_bind size_codec (fun _ => not_misfits_ofRule _) _

end MemoryInfo

/-! ## Statuses -/

namespace CaptureStatus

def next : Cursor CaptureStatus := do
  let stream ← take .u8
  let channel ← take .u8
  let frameId ← take .u16
  let raw ← take .u32
  let code ← match StatusCode.ofRaw? raw with
    | some code => pure code
    | none => throw (.invalidStatusCode "capture_status" raw)
  let startTime ← take .u64
  let endTime ← take .u64
  let errorData ← take .u32
  let flags ← take (.flags .status)
  let notifyBits ← take .u64
  let receiver ← take receiverCodec
  pure ⟨stream, channel, frameId, code, startTime, endTime, errorData, flags, notifyBits, receiver⟩

theorem next_eq {cursor rest : Bytes} {w : Words} (h : codec.read cursor = some (w, rest)) :
    ∃ left, next cursor = done (ofWords w) left := by
  obtain ⟨stream, channel, frameId, raw, startTime, endTime, errorData, flags, notifyBits,
    receiver⟩ := w
  simp only [codec, Codec.read_pair_eq_some] at h
  obtain ⟨_, h₁, _, h₂, _, h₃, _, h₄, _, h₅, _, h₆, _, h₇, _, h₈, _, h₉, h₁₀⟩ := h
  refine ⟨rest, ?_⟩
  simp only [next, ofWords, take_bind h₁, take_bind h₂, take_bind h₃, take_bind h₄]
  cases StatusCode.ofRaw? raw with
  | none => rfl
  | some code =>
    simp only [pure_bind, take_bind h₅, take_bind h₆, take_bind h₇, take_bind h₈, take_bind h₉,
      take_bind h₁₀]
    rfl

def decodeChecked (bytes : Bytes) : Checked CaptureStatus :=
  next.within "capture_status" 0 56 bytes

theorem run_decodeChecked (bytes : Bytes) :
    (decodeChecked bytes).run = some (decode bytes) :=
  run_within size_codec (by decide) (fun _ _ _ h => next_eq h) _ 0 bytes

theorem not_misfits_ofWords (w : Words) : ¬ Misfits (ofWords w) := by
  unfold ofWords
  split
  split <;> rintro ⟨_, _, _, h⟩ <;> cases h

theorem needsExactly : NeedsExactly decode "capture_status" 56 :=
  needsExactly_decode_bind size_codec not_misfits_ofWords _

end CaptureStatus

def decodeStatusChecked (slot : Bytes) : Checked CaptureStatus := do
  let record ← Checked.cut descriptorRecord statusOffset 56 slot
  CaptureStatus.decodeChecked record

theorem run_decodeStatusChecked (slot : Bytes) :
    (decodeStatusChecked slot).run = some (decodeStatus slot) := by
  unfold decodeStatusChecked decodeStatus
  cases hread : CaptureStatus.codec.read (slot.drop statusOffset) with
  | none =>
    have hshort := (Codec.read_eq_none_iff _ _).mp hread
    rw [List.length_drop, CaptureStatus.size_codec] at hshort
    have herror := (CaptureStatus.codec.decodeAt_eq_error_iff descriptorRecord statusOffset slot
      _).mpr ⟨hshort, rfl⟩
    rw [herror, Checked.cut, if_neg (by omega)]
    rfl
  | some p =>
    obtain ⟨w, rest⟩ := p
    have hfit := Codec.size_le_of_read hread
    have hown : CaptureStatus.codec.decode "capture_status"
        ((slot.drop statusOffset).take CaptureStatus.codec.size) = .ok w := Codec.decode_take hread
    rw [List.length_drop, CaptureStatus.size_codec] at hfit
    rw [CaptureStatus.size_codec] at hown
    rw [Codec.decodeAt_of_read hread, Checked.cut, if_pos (by omega)]
    show (CaptureStatus.decodeChecked (slot.slice statusOffset 56)).run =
      some (CaptureStatus.ofWords w)
    rw [CaptureStatus.run_decodeChecked, CaptureStatus.decode, Bytes.slice, hown]
    rfl

/-- The status of a slot needs the bytes before it, but not those behind it. -/
theorem needsExactly_decodeStatus : NeedsExactly decodeStatus "capture_descriptor" 328 :=
  needsExactly_decodeAt_bind (by rw [CaptureStatus.size_codec, statusOffset]) (.inr (by decide))
    CaptureStatus.not_misfits_ofWords _

namespace IspStatus

def next : Cursor IspStatus := do
  let channel ← take .u8
  skip 1
  let frameId ← take .u16
  let raw ← take .u32
  let code ← match IspStatusCode.ofRaw? raw with
    | some code => pure code
    | none => throw (.invalidStatusCode "capture_isp_status" raw)
  let errors ← take (.flags .ispError)
  pure ⟨channel, frameId, code, errors⟩

theorem next_eq {cursor rest : Bytes} {w : Words} (h : codec.read cursor = some (w, rest)) :
    ∃ left, next cursor = done (ofWords w) left := by
  obtain ⟨channel, frameId, raw, errors⟩ := w
  simp only [codec, Codec.read_pair_eq_some, Codec.read_gap_eq_some] at h
  obtain ⟨_, ⟨_, h₁, g₁, rfl⟩, _, h₂, _, h₃, left, h₄, -⟩ := h
  refine ⟨left, ?_⟩
  simp only [next, ofWords, take_bind h₁, skip_bind g₁, take_bind h₂, take_bind h₃]
  cases IspStatusCode.ofRaw? raw with
  | none => rfl
  | some code =>
    simp only [pure_bind, take_bind h₄]
    rfl

def decodeChecked (bytes : Bytes) : Checked IspStatus :=
  next.within "capture_isp_status" 0 16 bytes

theorem run_decodeChecked (bytes : Bytes) :
    (decodeChecked bytes).run = some (decode bytes) :=
  run_within size_codec (by decide) (fun _ _ _ h => next_eq h) _ 0 bytes

theorem not_misfits_ofWords (w : Words) : ¬ Misfits (ofWords w) := by
  unfold ofWords
  split
  split <;> rintro ⟨_, _, _, h⟩ <;> cases h

theorem needsExactly : NeedsExactly decode "capture_isp_status" 16 :=
  needsExactly_decode_bind size_codec not_misfits_ofWords _

-- Twelve of the sixteen bytes are read; behind a check for eleven the cursor runs out.
example : (next.within "capture_isp_status" 0 12 (Bytes.zeros 16)).run = some (.ok {}) := rfl

example : (next.within "capture_isp_status" 0 11 (Bytes.zeros 16)).run = none := rfl

end IspStatus

namespace IspProgramStatus

def next : Cursor IspProgramStatus := do
  let channel ← take .u8
  let settings ← take .u8
  skip 2
  let raw ← take .u32
  let code ← match IspProgramStatusCode.ofRaw? raw with
    | some code => pure code
    | none => throw (.invalidStatusCode "capture_isp_program_status" raw)
  let errors ← take (.flags .ispError)
  pure ⟨channel, settings, code, errors⟩

theorem next_eq {cursor rest : Bytes} {w : Words} (h : codec.read cursor = some (w, rest)) :
    ∃ left, next cursor = done (ofWords w) left := by
  obtain ⟨channel, settings, raw, errors⟩ := w
  simp only [codec, Codec.read_pair_eq_some, Codec.read_gap_eq_some] at h
  obtain ⟨_, h₁, _, ⟨_, h₂, g₂, rfl⟩, _, h₃, left, h₄, -⟩ := h
  refine ⟨left, ?_⟩
  simp only [next, ofWords, take_bind h₁, take_bind h₂, skip_bind g₂, take_bind h₃]
  cases IspProgramStatusCode.ofRaw? raw with
  | none => rfl
  | some code =>
    simp only [pure_bind, take_bind h₄]
    rfl

def decodeChecked (bytes : Bytes) : Checked IspProgramStatus :=
  next.within "capture_isp_program_status" 0 16 bytes

theorem run_decodeChecked (bytes : Bytes) :
    (decodeChecked bytes).run = some (decode bytes) :=
  run_within size_codec (by decide) (fun _ _ _ h => next_eq h) _ 0 bytes

theorem not_misfits_ofWords (w : Words) : ¬ Misfits (ofWords w) := by
  unfold ofWords
  split
  split <;> rintro ⟨_, _, _, h⟩ <;> cases h

theorem needsExactly : NeedsExactly decode "capture_isp_program_status" 16 :=
  needsExactly_decode_bind size_codec not_misfits_ofWords _

end IspProgramStatus

/-! ## ISP programs -/

namespace ProgramDescriptor

def next : Cursor ProgramDescriptor := do
  let settings ← take .u8
  let viChannel ← take .u8
  skip 2
  let sequence ← take .u32
  let offset ← take .u32
  let size ← take .u32
  let pushBufferBase ← take .u64
  -- The status has a decoder of its own, which checks its length again.
  let status ← IspProgramStatus.decodeChecked (← peek 16)
  skip 16
  let statsBuffer ← take .u64
  let programBuffer ← take .u64
  let activate ← take (.flags .activate)
  pure ⟨settings, if viChannel = noViChannel then none else some viChannel, sequence, offset, size,
    pushBufferBase, if status.code = .unknown then none else some status, statsBuffer,
    programBuffer, activate⟩

theorem next_eq {cursor rest : Bytes} {w : Words} (h : codec.read cursor = some (w, rest)) :
    ∃ left, next cursor = done (ofWords w) left := by
  obtain ⟨settings, viChannel, sequence, offset, size, pushBufferBase, status, statsBuffer,
    programBuffer, activate⟩ := w
  simp only [codec, Codec.read_pair_eq_some, Codec.read_gap_eq_some] at h
  obtain ⟨_, h₁, _, ⟨_, h₂, g₂, rfl⟩, _, h₃, _, h₄, _, h₅, before, h₆, _, h₇, _, h₈, _, h₉,
    left, h₁₀, -⟩ := h
  have hroom := Codec.size_le_of_read h₇
  obtain ⟨rfl, -⟩ := Codec.read_eq_some h₇
  have hinner : IspProgramStatus.decode (before.take 16) = IspProgramStatus.ofWords status := by
    rw [IspProgramStatus.decode, ← IspProgramStatus.size_codec, Codec.decode_take h₇]
    rfl
  rw [IspProgramStatus.size_codec] at hroom h₈
  refine ⟨left, ?_⟩
  simp only [next, take_bind h₁, take_bind h₂, skip_bind g₂, take_bind h₃, take_bind h₄,
    take_bind h₅, take_bind h₆, peek_bind hroom]
  rw [ofWords, ← hinner]
  refine bind_eq_done (lift_eq (IspProgramStatus.run_decodeChecked _) _) fun status => ?_
  simp only [skip_bind hroom, take_bind h₈, take_bind h₉, take_bind h₁₀]
  rfl

def decodeChecked (bytes : Bytes) : Checked ProgramDescriptor :=
  next.within "isp_program_descriptor" 0 64 bytes

theorem run_decodeChecked (bytes : Bytes) :
    (decodeChecked bytes).run = some (decode bytes) :=
  run_within size_codec (by decide) (fun _ _ _ h => next_eq h) _ 0 bytes

theorem not_misfits_ofWords (w : Words) : ¬ Misfits (ofWords w) := by
  refine not_misfits_bind (IspProgramStatus.not_misfits_ofWords _) fun status => ?_
  rintro ⟨_, _, _, h⟩
  cases h

theorem needsExactly : NeedsExactly decode "isp_program_descriptor" 64 :=
  needsExactly_decode_bind size_codec not_misfits_ofWords _

end ProgramDescriptor

namespace IspProgram

def nextHead : Cursor (UInt32 × UInt16) := do
  let id ← take .u32
  let found ← take .u16
  pure (id, found)

theorem nextHead_eq {cursor rest : Bytes} {p : UInt32 × UInt16}
    (h : headCodec.read cursor = some (p, rest)) : nextHead cursor = done (.ok p) rest := by
  simp only [headCodec, Codec.read_pair_eq_some] at h
  obtain ⟨_, h₁, h₂⟩ := h
  simp only [nextHead, take_bind h₁, take_bind h₂]
  rfl

/-- The check of magic number and version at the front of some bytes. -/
def checkHeaderChecked (bytes : Bytes) : Checked Unit := do
  let (id, found) ← nextHead.within recordName 0 6 bytes
  if id = magic ∧ found = version then pure ()
  else throw (.unsupportedVersion recordName id found magic version)

theorem run_checkHeaderChecked (bytes : Bytes) :
    (checkHeaderChecked bytes).run = some (checkHeader bytes) := by
  have hread : (nextHead.within recordName 0 6 bytes).run =
      some (headCodec.decode recordName bytes >>= .ok) :=
    run_within size_headCodec (by decide) (fun _ _ _ h => ⟨_, nextHead_eq h⟩) recordName 0 bytes
  rw [show headCodec.decode recordName bytes >>= .ok = headCodec.decode recordName bytes from
    bind_pure _] at hread
  refine Checked.run_bind hread fun p _ => ?_
  obtain ⟨id, found⟩ := p
  by_cases h : id = magic ∧ found = version
  · simp only [h, and_self, if_true]
    rfl
  · simp only [h, if_false]
    rfl

theorem needsExactly_checkHeader : NeedsExactly checkHeader "isp5_program" 6 := by
  refine needsExactly_decode_bind size_headCodec (fun p => ?_) _
  split
  split <;> rintro ⟨_, _, _, h⟩ <;> cases h

def nextHeader : Cursor (IspProgram × Nat) := do
  let raw ← take .u16
  let generation ← generationOf raw
  let crossbar ← take (.array .u32 4)
  let enables ← take .u32
  let autoFocusControl ← take .u32
  let statsFlags ← take .u32
  let count ← take .u32
  let count ← Rule.enforce [countRule count.toNat] fun _ => count.toNat
  let pixelSteps ← take (.array .u32 3)
  let overfetch ← take overfetchCodec
  let crops ← take (.array cropCodec 3)
  pure (⟨generation, crossbar, enables, autoFocusControl, statsFlags, pixelSteps, overfetch, crops,
    []⟩, count)

/-- The header that words describe, and how long the push buffer behind it is. -/
def headerOf : Words → Except CaptureError (IspProgram × Nat)
  | (raw, crossbar, enables, autoFocusControl, statsFlags, count, pixelSteps, overfetch,
      crops) => do
    let generation ← generationOf raw
    let count ← Rule.enforce [countRule count.toNat] fun _ => count.toNat
    pure (⟨generation, crossbar, enables, autoFocusControl, statsFlags, pixelSteps, overfetch,
      crops, []⟩, count)

theorem nextHeader_eq {cursor rest : Bytes} {w : Words}
    (h : bodyCodec.read cursor = some (w, rest)) :
    ∃ left, nextHeader cursor = done (headerOf w) left := by
  obtain ⟨raw, crossbar, enables, autoFocusControl, statsFlags, count, pixelSteps, overfetch,
    crops⟩ := w
  simp only [bodyCodec, Codec.read_pair_eq_some, Codec.read_gap_eq_some] at h
  obtain ⟨_, h₁, _, h₂, _, h₃, _, h₄, _, h₅, _, h₆, _, h₇, _, h₈, left, h₉, -⟩ := h
  refine ⟨left, ?_⟩
  simp only [nextHeader, take_bind h₁]
  refine bind_eq_done (check_eq _ _) fun generation => ?_
  simp only [take_bind h₂, take_bind h₃, take_bind h₄, take_bind h₅, take_bind h₆]
  refine bind_eq_done (rule_eq _ _) fun count => ?_
  simp only [take_bind h₇, take_bind h₈, take_bind h₉]
  rfl

theorem run_takeMany {bytes : Bytes} (h : 128 ≤ bytes.length) (count : Nat) :
    ((takeMany .u32 count).within recordName 128 (4 * count) bytes).run =
      some (readPushBuffer bytes count) := by
  have hhead : headCodec.size + bodyCodec.size = 128 := by rw [size_headCodec, size_bodyCodec]
  cases hread : Codec.u32.readMany count (bytes.drop 128) with
  | none =>
    have hshort := (Codec.readMany_eq_none_iff _ _ _).mp hread
    rw [List.length_drop, Codec.size_u32] at hshort
    simp only [readPushBuffer, hhead, hread, Codec.size_u32, Nat.mul_comm count]
    rw [within, Checked.cut, if_neg (by omega)]
    rfl
  | some p =>
    obtain ⟨words, rest⟩ := p
    have hfit : ¬ (bytes.drop 128).length < count * 4 := by
      rw [← Codec.size_u32, ← Codec.readMany_eq_none_iff, hread]
      simp
    rw [List.length_drop] at hfit
    have hown := takeMany_eq (Codec.readMany_take hread)
    rw [Codec.size_u32, Nat.mul_comm] at hown
    simp only [readPushBuffer, hhead, hread]
    rw [within, Checked.cut, if_pos (by omega)]
    show (takeMany .u32 count (bytes.slice 128 (4 * count)) >>= fun p => pure p.1).run = _
    rw [Bytes.slice, hown]
    rfl

def decodeChecked (bytes : Bytes) : Checked IspProgram := do
  checkHeaderChecked bytes
  let (p, count) ← nextHeader.within recordName 6 122 bytes
  let pushBuffer ← (takeMany .u32 count).within recordName 128 (4 * count) bytes
  pure { p with pushBuffer := pushBuffer }

theorem decode_eq (bytes : Bytes) : decode bytes = (do
    checkHeader bytes
    let (p, count) ← bodyCodec.decodeAt recordName 6 bytes >>= headerOf
    let pushBuffer ← readPushBuffer bytes count
    pure { p with pushBuffer := pushBuffer }) := by
  simp only [decode, headerOf, bind_assoc, pure_bind, size_headCodec]

theorem run_decodeChecked (bytes : Bytes) :
    (decodeChecked bytes).run = some (decode bytes) := by
  have hread := run_within size_bodyCodec (by decide) (fun _ _ _ h => nextHeader_eq h) recordName 6
    bytes
  rw [decode_eq]
  refine Checked.run_bind (run_checkHeaderChecked bytes) fun _ _ => ?_
  refine Checked.run_bind hread fun header hok => ?_
  obtain ⟨w, hw, -⟩ := CaptureError.bind_eq_ok.mp hok
  obtain ⟨hroom, -⟩ := Codec.decodeAt_eq_ok hw
  rw [size_bodyCodec] at hroom
  exact Checked.run_bind (run_takeMany (by omega) header.2) fun words _ => rfl

end IspProgram

/--
**No decoder reads beyond the bytes that it checked for.** With every read and every slice checked,
each of the ten decoders gives for any bytes the value or the error that it is defined to give, and
none of them faults. Eight of them refuse bytes that are shorter than their record as too few, and
no others, and for those that are long enough it does not matter what follows them.
-/
theorem decoders_within_bounds :
    (∀ bytes : Bytes,
      (ChannelConfig.decodeChecked bytes).run = some (ChannelConfig.decode bytes) ∧
      (IspConfig.decodeChecked bytes).run = some (IspConfig.decode bytes) ∧
      (decodeRequestChecked bytes).run = some (decodeRequest bytes) ∧
      (decodeStatusChecked bytes).run = some (decodeStatus bytes) ∧
      (CaptureStatus.decodeChecked bytes).run = some (CaptureStatus.decode bytes) ∧
      (MemoryInfo.decodeChecked bytes).run = some (MemoryInfo.decode bytes) ∧
      (ProgramDescriptor.decodeChecked bytes).run = some (ProgramDescriptor.decode bytes) ∧
      (IspStatus.decodeChecked bytes).run = some (IspStatus.decode bytes) ∧
      (IspProgramStatus.decodeChecked bytes).run = some (IspProgramStatus.decode bytes) ∧
      (IspProgram.decodeChecked bytes).run = some (IspProgram.decode bytes)) ∧
    NeedsExactly ChannelConfig.decode "capture_channel_config" 272 ∧
    NeedsExactly IspConfig.decode "capture_channel_isp_config" 184 ∧
    NeedsExactly decodeRequest "capture_descriptor" 384 ∧
    NeedsExactly MemoryInfo.decode "capture_descriptor_memoryinfo" 128 ∧
    NeedsExactly ProgramDescriptor.decode "isp_program_descriptor" 64 ∧
    NeedsExactly CaptureStatus.decode "capture_status" 56 ∧
    NeedsExactly IspStatus.decode "capture_isp_status" 16 ∧
    NeedsExactly IspProgramStatus.decode "capture_isp_program_status" 16 := by
  refine ⟨fun bytes => ⟨ChannelConfig.run_decodeChecked bytes, IspConfig.run_decodeChecked bytes,
    run_decodeRequestChecked bytes, run_decodeStatusChecked bytes,
    CaptureStatus.run_decodeChecked bytes, MemoryInfo.run_decodeChecked bytes,
    ProgramDescriptor.run_decodeChecked bytes, IspStatus.run_decodeChecked bytes,
    IspProgramStatus.run_decodeChecked bytes, IspProgram.run_decodeChecked bytes⟩, ?_⟩
  exact ⟨ChannelConfig.needsExactly, IspConfig.needsExactly, needsExactly_decodeRequest,
    MemoryInfo.needsExactly, ProgramDescriptor.needsExactly, CaptureStatus.needsExactly,
    IspStatus.needsExactly, IspProgramStatus.needsExactly⟩

end CaptureProtocol
