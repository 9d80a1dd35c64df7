import CaptureProtocol.Proofs.Isp.Program
import CaptureProtocol.Proofs.Record.Field

/-!
# Bytes that are not a program

Bytes can lack several things that a program has, and only the first is reported: magic number and
version, the whole header, a generation that is known, a push buffer that is not too long, and all
of its words. What is reported tells them apart.

* `Defect`, `defect?`: what bytes lack, and what they lack first.
* `decode_cases`: bytes that lack nothing are a program, and others are refused for what they lack
  first.
* `defect_eq_of_error`: the error tells the defects apart.
* `decode_refuses_first_defect`: **bytes are refused exactly for the first thing that they lack, and
  nothing behind a wrong version matters**.
-/

set_option autoImplicit false

namespace CaptureProtocol

namespace IspProgram

/-- The bytes begin with the magic number and the version of programs. -/
def HasHead (bytes : Bytes) : Prop := bytes.numberAt 0 4 = 0x50505349 ∧ bytes.numberAt 4 2 = 3

instance (bytes : Bytes) : Decidable (HasHead bytes) :=
  inferInstanceAs (Decidable (_ ∧ _))

/-- What bytes can lack to be a program. -/
inductive Defect where
  /-- Another magic number or another version. -/
  | version
  /-- The header is cut off. -/
  | header
  /-- The number of the generation is not known. -/
  | generation
  /-- The push buffer would hold more words than it can. -/
  | count
  /-- The push buffer is cut off. -/
  | pushBuffer
  deriving DecidableEq, Repr

/-- The first thing that bytes lack. -/
def defect? (bytes : Bytes) : Option Defect :=
  if ¬ HasHead bytes then some .version
  else if bytes.length < 128 then some .header
  else if bytes.numberAt 6 2 ∉ [3, 4, 5] then some .generation
  else if 4096 < bytes.numberAt 36 4 then some .count
  else if bytes.length < 128 + 4 * bytes.numberAt 36 4 then some .pushBuffer
  else none

/-- What is reported of bytes with a defect. -/
def Defect.error (bytes : Bytes) : Defect → CaptureError
  | version => .unsupportedVersion "isp5_program" (UInt32.ofNat (bytes.numberAt 0 4))
      (UInt16.ofNat (bytes.numberAt 4 2)) 0x50505349 3
  | header => .layoutMismatch "isp5_program" 128 bytes.length
  | generation => .unsupportedIspType (UInt16.ofNat (bytes.numberAt 6 2))
  | count => .configurationInvalid
      (.fieldOutOfRange "pushbuffer_size" (UInt64.ofNat (bytes.numberAt 36 4)) 4096)
  | pushBuffer =>
      .layoutMismatch "isp5_program" (128 + 4 * bytes.numberAt 36 4) bytes.length

variable {bytes : Bytes}

/-! ## Magic number and version -/

/-- Magic number and version are all that the check of the header looks at. -/
theorem checkHeader_cases (h : 6 ≤ bytes.length) :
    (HasHead bytes ∧ checkHeader bytes = .ok ()) ∨
      ¬ HasHead bytes ∧ checkHeader bytes = .error (Defect.version.error bytes) := by
  obtain ⟨⟨id, found⟩, hread⟩ := headCodec.exists_decode recordName size_headCodec h
  have hcheck : checkHeader bytes = if id = magic ∧ found = version then .ok ()
      else .error (.unsupportedVersion recordName id found magic version) := by
    rw [checkHeader, hread]
    rfl
  obtain ⟨hid, hfound⟩ := Codec.decodeAt_pair_eq_ok.mp hread
  have hid := Codec.toNat_of_decodeAt_u32 hid
  have hfound := Codec.toNat_of_decodeAt_u16 hfound
  rw [Nat.zero_add, Codec.size_u32] at hfound
  have hhead : HasHead bytes ↔ id = magic ∧ found = version := by
    rw [HasHead, ← hid, ← hfound, ← UInt32.toNat_inj, ← UInt16.toNat_inj]
    rfl
  by_cases hexpected : id = magic ∧ found = version
  · exact .inl ⟨hhead.mpr hexpected, hcheck.trans (if_pos hexpected)⟩
  · refine .inr ⟨fun hb => hexpected (hhead.mp hb), hcheck.trans ((if_neg hexpected).trans ?_)⟩
    rw [Defect.error, ← hid, ← hfound, UInt32.ofNat_toNat, UInt16.ofNat_toNat]
    rfl

theorem decode_of_version (h : 6 ≤ bytes.length) (hhead : ¬ HasHead bytes) :
    decode bytes = .error (Defect.version.error bytes) := by
  obtain ⟨hfound, -⟩ | ⟨-, hcheck⟩ := checkHeader_cases h
  · exact absurd hfound hhead
  · rw [decode, hcheck]
    rfl

/-! ## Behind the version -/

theorem exists_readPushBuffer {n : Nat} (h : 128 + 4 * n ≤ bytes.length) :
    ∃ words, readPushBuffer bytes n = .ok words := by
  cases hread : Codec.u32.readMany n (bytes.drop 128) with
  | none =>
    rw [Codec.readMany_eq_none_iff, List.length_drop, Codec.size_u32] at hread
    omega
  | some p => exact ⟨p.1, by simp only [readPushBuffer, size_header, hread]⟩

theorem generationOf_cases (raw : UInt16) :
    (raw.toNat ∈ [3, 4, 5] ∧ ∃ generation, generationOf raw = .ok generation) ∨
      raw.toNat ∉ [3, 4, 5] ∧ generationOf raw = .error (.unsupportedIspType raw) := by
  cases h : IspType.ofRaw? raw with
  | none => exact .inr ⟨IspType.ofRaw?_eq_none_iff.mp h, by simp only [generationOf, h]⟩
  | some generation =>
    refine .inl ⟨?_, generation, by simp only [generationOf, h]⟩
    rw [← IspType.raw_of_ofRaw? h]
    cases generation <;> decide

/-- Behind a good head, a whole header leaves three steps, which look at two of its numbers. -/
theorem decode_of_header (hcheck : checkHeader bytes = .ok ()) (h : 128 ≤ bytes.length) :
    ∃ (raw : UInt16) (make : IspType → List UInt32 → IspProgram),
      raw.toNat = bytes.numberAt 6 2 ∧
        decode bytes = (do
          let generation ← generationOf raw
          let count ← Rule.enforce [countRule (bytes.numberAt 36 4)] fun _ => bytes.numberAt 36 4
          let words ← readPushBuffer bytes count
          pure (make generation words)) := by
  obtain ⟨w, hbody⟩ := bodyCodec.exists_decodeAt recordName size_bodyCodec
    (show headCodec.size + 122 ≤ bytes.length from h)
  obtain ⟨raw, crossbar, enables, control, flags, count, steps, overfetch, crops⟩ := w
  have hparts := hbody
  simp only [bodyCodec, Codec.decodeAt_pair_eq_ok, size_headCodec, Codec.size_u16, Codec.size_u32,
    Codec.size_array, Nat.reduceAdd, Nat.reduceMul] at hparts
  obtain ⟨hraw, -, -, -, -, hcount, -⟩ := hparts
  refine ⟨raw, fun generation words => ⟨generation, crossbar, enables, control, flags, steps,
    overfetch, crops, words⟩, Codec.toNat_of_decodeAt_u16 hraw, ?_⟩
  rw [decode, hcheck, hbody, ← Codec.toNat_of_decodeAt_u32 hcount]
  rfl

/-- A whole header is refused for its generation, its count, or the words that are missing. -/
theorem decode_cases_of_header (hhead : HasHead bytes) (hcheck : checkHeader bytes = .ok ())
    (h : 128 ≤ bytes.length) :
    (∃ d, defect? bytes = some d ∧ decode bytes = .error (d.error bytes)) ∨
      defect? bytes = none ∧ ∃ p, decode bytes = .ok p := by
  obtain ⟨raw, make, hraw, hdecode⟩ := decode_of_header hcheck h
  rw [hdecode, defect?, if_neg (not_not.mpr hhead), if_neg (Nat.not_lt_of_le h), ← hraw]
  obtain ⟨hknown, generation, hgeneration⟩ | ⟨hunknown, hgeneration⟩ := generationOf_cases raw
  case inr =>
    refine .inl ⟨.generation, if_pos hunknown, ?_⟩
    rw [hgeneration, Defect.error, ← hraw, UInt16.ofNat_toNat]
    rfl
  rw [hgeneration, if_neg (not_not.mpr hknown)]
  by_cases hcount : 4096 < bytes.numberAt 36 4
  · refine .inl ⟨.count, if_pos hcount, ?_⟩
    show (CaptureError.ofRule (Rule.enforce _ _) >>= _) = _
    rw [enforce_of_overfull hcount]
    rfl
  rw [Rule.enforce_of_accepted _ ((accepted_countRule _).mpr (Nat.le_of_not_lt hcount)),
    if_neg hcount]
  -- What is left is to read the words, which the goal says up to the steps that succeeded.
  by_cases hroom : bytes.length < 128 + 4 * bytes.numberAt 36 4
  · refine .inl ⟨.pushBuffer, if_pos hroom, ?_⟩
    show (readPushBuffer bytes (bytes.numberAt 36 4) >>= _) = _
    rw [readPushBuffer_eq_error (by omega)]
    rfl
  · obtain ⟨words, hwords⟩ := exists_readPushBuffer (Nat.le_of_not_lt hroom)
    refine .inr ⟨if_neg hroom, make generation words, ?_⟩
    show (readPushBuffer bytes (bytes.numberAt 36 4) >>= _) = _
    rw [hwords]
    rfl

/-- Bytes that lack nothing are a program; others are refused for what they lack first. -/
theorem decode_cases (h : 6 ≤ bytes.length) :
    (∃ d, defect? bytes = some d ∧ decode bytes = .error (d.error bytes)) ∨
      defect? bytes = none ∧ ∃ p, decode bytes = .ok p := by
  obtain ⟨hhead, hcheck⟩ | ⟨hhead, hcheck⟩ := checkHeader_cases h
  · by_cases hheader : bytes.length < 128
    · refine .inl ⟨.header, ?_, decode_of_short_body hcheck hheader⟩
      rw [defect?, if_neg (not_not.mpr hhead), if_pos hheader]
    · exact decode_cases_of_header hhead hcheck (Nat.le_of_not_lt hheader)
  · exact .inl ⟨.version, if_pos hhead, decode_of_version h hhead⟩

/-! ## Telling defects apart -/

theorem defect?_eq_version_iff : defect? bytes = some .version ↔ ¬ HasHead bytes := by
  unfold defect?
  grind

/-- The words of a push buffer are missing only behind a whole header. -/
theorem header_of_defect (h : defect? bytes = some .pushBuffer) :
    128 ≤ bytes.length ∧ bytes.length < 128 + 4 * bytes.numberAt 36 4 := by
  unfold defect? at h
  grind

/-- The error tells the defects apart. -/
theorem defect_eq_of_error {other : Bytes} {d e : Defect} (hd : defect? bytes = some d)
    (he : defect? other = some e) (h : d.error bytes = e.error other) : d = e := by
  -- Only the two lengths that are too short are reported alike.
  cases d <;> cases e <;>
    simp only [Defect.error, reduceCtorEq, CaptureError.layoutMismatch.injEq] at h ⊢
  · obtain ⟨-, hneed, -⟩ := h
    have hcut := header_of_defect he
    omega
  · obtain ⟨-, hneed, -⟩ := h
    have hcut := header_of_defect hd
    omega

/-- Nothing behind magic number and version matters when these are wrong. -/
theorem decode_congr_of_version {other : Bytes} (h : 6 ≤ bytes.length)
    (hsame : bytes.take 6 = other.take 6) (hd : defect? bytes = some .version) :
    defect? other = some .version ∧ decode other = decode bytes := by
  have hother : 6 ≤ other.length := by
    have hlen := congrArg List.length hsame
    rw [List.length_take, List.length_take] at hlen
    omega
  have hid := Bytes.numberAt_congr hsame (show 0 + 4 ≤ 6 by decide)
  have hversion := Bytes.numberAt_congr hsame (show 4 + 2 ≤ 6 by decide)
  have hhead : ¬ HasHead bytes := defect?_eq_version_iff.mp hd
  have hhead' : ¬ HasHead other := by
    rwa [HasHead, ← hid, ← hversion]
  refine ⟨defect?_eq_version_iff.mpr hhead', ?_⟩
  rw [decode_of_version h hhead, decode_of_version hother hhead', Defect.error, Defect.error, hid,
    hversion]

/--
**Bytes are refused exactly for the first thing that they lack.** Of at least six bytes, what is
reported is the error of their first defect; they are a program exactly when they have none. Errors
of different defects differ, whatever the bytes. And if magic number or version is wrong, then all
bytes that begin with the same six are refused with the same error.
-/
theorem decode_refuses_first_defect :
    (∀ bytes : Bytes, 6 ≤ bytes.length →
      (∀ e, decode bytes = .error e ↔ ∃ d, defect? bytes = some d ∧ e = d.error bytes) ∧
        ((∃ p, decode bytes = .ok p) ↔ defect? bytes = none)) ∧
    (∀ (a b : Bytes) (d e : Defect), defect? a = some d → defect? b = some e →
      d.error a = e.error b → d = e) ∧
    ∀ a b : Bytes, 6 ≤ a.length → a.take 6 = b.take 6 → defect? a = some .version →
      defect? b = some .version ∧ decode b = decode a := by
  refine ⟨fun bytes h => ?_, fun a b d e => defect_eq_of_error, fun a b => decode_congr_of_version⟩
  obtain ⟨d, hd, herror⟩ | ⟨hnone, p, hp⟩ := decode_cases h
  · rw [hd, herror]
    simp [eq_comm]
  · rw [hnone, hp]
    simp

/-- Programs that were damaged in more than one way, and the defect that comes first. -/
def damagedPrograms : List (Bytes × Defect) :=
  let record := ({ pushBuffer := [1, 2, 3] } : IspProgram).used
  [((record.overwrite 4 [4, 0, 9]).take 100, .version),
    ((record.overwrite 6 [9]).take 127, .header),
    ((record.overwrite 6 [9]).overwrite 36 [1, 16], .generation),
    ((record.overwrite 36 [1, 16]).take 128, .count),
    (record.take 139, .pushBuffer)]

/--
Each damaged program is refused for the first defect. The one of another version is refused in the
same way when it ends with the version.
-/
theorem decode_refuses_first_defect_damaged :
    (∀ p ∈ damagedPrograms, decode p.1 = .error (p.2.error p.1)) ∧
      ∀ p ∈ damagedPrograms, p.2 = .version → decode (p.1.take 6) = decode p.1 := by
  obtain ⟨hexact, -, hversion⟩ := decode_refuses_first_defect
  have hdamaged : ∀ p ∈ damagedPrograms, 6 ≤ p.1.length ∧ defect? p.1 = some p.2 := by
    decide +kernel
  refine ⟨fun p hp => ?_, fun p hp hv => ?_⟩
  · obtain ⟨hlen, hd⟩ := hdamaged p hp
    exact ((hexact p.1 hlen).1 _).mpr ⟨p.2, hd, rfl⟩
  · obtain ⟨hlen, hd⟩ := hdamaged p hp
    rw [hv] at hd
    exact (hversion p.1 (p.1.take 6) hlen (by rw [List.take_take, Nat.min_self]) hd).2

end IspProgram

end CaptureProtocol
