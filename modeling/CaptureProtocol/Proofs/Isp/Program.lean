import CaptureProtocol.Isp.Program

/-!
# ISP programs through their record

The record of a program is its header, the used part of its push buffer, and zeros up to the end.
Reading it back needs the header and the used part only, and neither looks at what follows.

* `decode_of_words`: behind a good header only the push buffer is left to read.
* `decode_eq_ok`: what bytes consist of that a program was read from.
* `decode_encode_of_used_part`: **programs and the used part of their record determine each other**.
-/

set_option autoImplicit false

namespace CaptureProtocol

namespace IspProgram

/-- The record of a program without the zeros at its end. -/
def used (p : IspProgram) : Bytes :=
  headCodec.write (magic, version) ++
    (bodyCodec.write p.words ++ Codec.u32.writeMany p.pushBuffer)

/-- The bytes of the header that are ignored when read. -/
def IsReserved (i : Nat) : Prop := i = 58 ∨ i = 59 ∨ 84 ≤ i ∧ i < 128

instance (i : Nat) : Decidable (IsReserved i) :=
  inferInstanceAs (Decidable (i = 58 ∨ i = 59 ∨ 84 ≤ i ∧ i < 128))

theorem size_header : headCodec.size + bodyCodec.size = 128 := by
  rw [size_headCodec, size_bodyCodec]

theorem length_head : (headCodec.write (magic, version)).length = 6 :=
  (headCodec.length_write _).trans size_headCodec

theorem length_body (p : IspProgram) : (bodyCodec.write p.words).length = 122 :=
  (bodyCodec.length_write _).trans size_bodyCodec

theorem length_used (p : IspProgram) : p.used.length = 128 + 4 * p.pushBuffer.length := by
  rw [used, List.length_append, List.length_append, length_head, length_body,
    Codec.length_writeMany, Codec.size_u32]
  omega

theorem bytes_eq (p : IspProgram) :
    p.bytes = p.used ++ Bytes.zeros ((4096 - p.pushBuffer.length) * 4) := by
  simp [bytes, used, pushBufferWords, Codec.size_u32]

theorem length_bytes {p : IspProgram} (h : p.pushBuffer.length ≤ 4096) :
    p.bytes.length = 16512 := by
  rw [bytes_eq, List.length_append, length_used, Bytes.length_zeros]
  omega

theorem take_bytes (p : IspProgram) : p.bytes.take (128 + 4 * p.pushBuffer.length) = p.used := by
  rw [bytes_eq, ← length_used, List.take_left']
  rfl

/-! ## Writing -/

theorem accepted_countRule (count : Nat) : Rule.Accepted [countRule count] ↔ count ≤ 4096 :=
  Rule.accepted_noMoreThan

theorem enforce_of_overfull {α : Type} {count : Nat} (h : 4096 < count)
    (make : Rule.Accepted [countRule count] → α) :
    Rule.enforce [countRule count] make =
      .error (.fieldOutOfRange "pushbuffer_size" (UInt64.ofNat count) 4096) :=
  Rule.enforce_of_broken (decide_eq_false (Nat.not_le_of_lt h)) [] make

theorem encode_eq_ok {p : IspProgram} (h : p.pushBuffer.length ≤ 4096) :
    p.encode = .ok p.bytes :=
  Rule.enforce_bind_eq_ok.mpr
    ⟨(accepted_countRule _).mpr h, Bytes.finish_eq_ok.mpr ⟨length_bytes h, rfl⟩⟩

theorem encode_of_overfull {p : IspProgram} (h : 4096 < p.pushBuffer.length) :
    p.encode = .error (.configurationInvalid
      (.fieldOutOfRange "pushbuffer_size" (UInt64.ofNat p.pushBuffer.length) 4096)) := by
  rw [encode, enforce_of_overfull h]
  rfl

/-! ## Reading -/

theorem checkHeader_eq_ok {bytes : Bytes} :
    checkHeader bytes = .ok () ↔ headCodec.decode recordName bytes = .ok (magic, version) := by
  refine CaptureError.bind_eq_ok.trans ⟨?_, fun h => ⟨_, h, if_pos ⟨rfl, rfl⟩⟩⟩
  rintro ⟨⟨id, found⟩, hread, hcheck⟩
  by_cases h : id = magic ∧ found = version
  · rw [hread, h.1, h.2]
  · simp [h] at hcheck

theorem generationOf_eq_ok {raw : UInt16} {generation : IspType} :
    generationOf raw = .ok generation ↔ generation.raw = raw := by
  unfold generationOf
  constructor
  · intro h
    split at h
    · next hraw =>
      cases h
      exact IspType.raw_of_ofRaw? hraw
    · cases h
  · rintro rfl
    rw [IspType.ofRaw?_raw]

theorem decode_of_short_head {bytes : Bytes} (h : bytes.length < 6) :
    decode bytes = .error (.layoutMismatch recordName 6 bytes.length) := by
  have hshort : headCodec.decode recordName bytes =
      .error (.layoutMismatch recordName 6 bytes.length) := by
    rw [Codec.decode, Codec.decodeAt_eq_error_iff, size_headCodec]
    exact ⟨h, rfl⟩
  rw [decode, checkHeader, hshort]
  rfl

theorem decode_of_short_body {bytes : Bytes} (hcheck : checkHeader bytes = .ok ())
    (h : bytes.length < 128) :
    decode bytes = .error (.layoutMismatch recordName 128 bytes.length) := by
  have hshort : bodyCodec.decodeAt recordName headCodec.size bytes =
      .error (.layoutMismatch recordName 128 bytes.length) := by
    rw [Codec.decodeAt_eq_error_iff, size_header, size_headCodec, size_bodyCodec]
    exact ⟨by omega, rfl⟩
  rw [decode, hcheck, hshort]
  rfl

/-- Behind a good header only the push buffer is left to read. -/
theorem decode_of_words {p : IspProgram} {bytes : Bytes} (hcheck : checkHeader bytes = .ok ())
    (hbody : bodyCodec.decodeAt recordName headCodec.size bytes = .ok p.words)
    (hcount : p.pushBuffer.length ≤ 4096) :
    decode bytes = (readPushBuffer bytes p.pushBuffer.length).map fun words =>
      { p with pushBuffer := words } := by
  have hn : (UInt32.ofNat p.pushBuffer.length).toNat = p.pushBuffer.length := by
    rw [UInt32.toNat_ofNat']
    omega
  have hrule : Rule.enforce [countRule (UInt32.ofNat p.pushBuffer.length).toNat]
      (fun _ => (UInt32.ofNat p.pushBuffer.length).toNat) = .ok p.pushBuffer.length := by
    rw [hn]
    exact Rule.enforce_of_accepted _ ((accepted_countRule _).mpr hcount)
  rw [decode, hcheck, hbody]
  -- The next two steps are known to succeed; each `show` brings the following one to the front.
  show (generationOf p.generation.raw >>= _) = _
  rw [generationOf_eq_ok.mpr rfl]
  show (CaptureError.ofRule (Rule.enforce _ _) >>= _) = _
  rw [hrule]
  show (readPushBuffer bytes p.pushBuffer.length >>= _) = _
  cases readPushBuffer bytes p.pushBuffer.length <;> rfl

theorem readPushBuffer_append {front : Bytes} (hfront : front.length = 128) (words : List UInt32)
    (rest : Bytes) :
    readPushBuffer (front ++ (Codec.u32.writeMany words ++ rest)) words.length = .ok words := by
  have hdrop : (front ++ (Codec.u32.writeMany words ++ rest)).drop
      (headCodec.size + bodyCodec.size) = Codec.u32.writeMany words ++ rest := by
    rw [size_header, ← hfront, List.drop_left]
  simp only [readPushBuffer, hdrop, Codec.readMany_writeMany_append]

theorem readPushBuffer_eq_error {bytes : Bytes} {n : Nat} (h : bytes.length - 128 < 4 * n) :
    readPushBuffer bytes n = .error (.layoutMismatch recordName (128 + 4 * n) bytes.length) := by
  have hnone : Codec.u32.readMany n (bytes.drop 128) = none := by
    rw [Codec.readMany_eq_none_iff, List.length_drop, Codec.size_u32, Nat.mul_comm]
    exact h
  simp only [readPushBuffer, size_header, hnone, Codec.size_u32, Nat.mul_comm n]

theorem readPushBuffer_eq_ok {bytes : Bytes} {n : Nat} {words : List UInt32}
    (h : readPushBuffer bytes n = .ok words) :
    words.length = n ∧ 4 * n ≤ bytes.length - 128 ∧
      Codec.u32.writeMany words = bytes.slice 128 (4 * n) := by
  have hroom : 4 * n ≤ bytes.length - 128 := by
    refine Nat.le_of_not_lt fun hshort => ?_
    rw [readPushBuffer_eq_error hshort] at h
    cases h
  simp only [readPushBuffer, size_header] at h
  split at h
  · next read rest hread =>
    cases h
    obtain ⟨hlen, hwrite⟩ := Codec.readMany_eq_some rfl hread
    rw [Codec.size_u32, Nat.mul_comm] at hwrite
    exact ⟨hlen, hroom, hwrite⟩
  · cases h

theorem decode_eq_ok {p : IspProgram} {bytes : Bytes} (h : decode bytes = .ok p) :
    checkHeader bytes = .ok () ∧
      bodyCodec.decodeAt recordName headCodec.size bytes = .ok p.words ∧
      p.pushBuffer.length ≤ 4096 ∧
      readPushBuffer bytes p.pushBuffer.length = .ok p.pushBuffer := by
  obtain ⟨_, hcheck, h⟩ := CaptureError.bind_eq_ok.mp h
  obtain ⟨⟨raw, _, _, _, _, count, _⟩, hbody, h⟩ := CaptureError.bind_eq_ok.mp h
  obtain ⟨generation, hgeneration, h⟩ := CaptureError.bind_eq_ok.mp h
  obtain ⟨hcount, h⟩ := Rule.enforce_bind_eq_ok.mp h
  obtain ⟨pushBuffer, hread, h⟩ := CaptureError.bind_eq_ok.mp h
  cases h
  obtain rfl := generationOf_eq_ok.mp hgeneration
  obtain ⟨hlen, -, -⟩ := readPushBuffer_eq_ok hread
  refine ⟨hcheck, ?_, ?_, ?_⟩
  · simpa [words, hlen] using hbody
  · rw [hlen]
    exact (accepted_countRule _).mp hcount
  · rw [hlen]
    exact hread

/-! ## Both ways -/

theorem checkHeader_append (rest : Bytes) :
    checkHeader (headCodec.write (magic, version) ++ rest) = .ok () :=
  checkHeader_eq_ok.mpr (headCodec.decode_write_append _ _ _)

theorem decodeBody_append (p : IspProgram) (rest : Bytes) :
    bodyCodec.decodeAt recordName headCodec.size
      (headCodec.write (magic, version) ++ (bodyCodec.write p.words ++ rest)) = .ok p.words :=
  bodyCodec.decodeAt_write_append recordName (headCodec.write (magic, version)) p.words rest

theorem decode_used_append {p : IspProgram} (h : p.pushBuffer.length ≤ 4096) (rest : Bytes) :
    decode (p.used ++ rest) = .ok p := by
  have hfront : (headCodec.write (magic, version) ++ bodyCodec.write p.words).length = 128 := by
    rw [List.length_append, length_head, length_body]
  have hread := readPushBuffer_append hfront p.pushBuffer rest
  rw [List.append_assoc] at hread
  rw [used, List.append_assoc, List.append_assoc,
    decode_of_words (checkHeader_append _) (decodeBody_append p _) h, hread]
  rfl

/-- Cut off, a record is reported with the length of the first part that is not whole. -/
theorem decode_take_used {p : IspProgram} (h : p.pushBuffer.length ≤ 4096) {n : Nat}
    (hn : n < 128 + 4 * p.pushBuffer.length) :
    decode (p.used.take n) = .error (.layoutMismatch recordName
      (if n < 6 then 6 else if n < 128 then 128 else 128 + 4 * p.pushBuffer.length) n) := by
  have hlen : (p.used.take n).length = n := by
    rw [List.length_take, length_used]
    omega
  -- The cut is in magic number and version, in the rest of the header or in the push buffer.
  by_cases hhead : n < 6
  · rw [if_pos hhead, decode_of_short_head (by omega), hlen]
  have hcheck : checkHeader (p.used.take n) = .ok () := by
    rw [used, List.take_append, List.take_of_length_le (by rw [length_head]; omega)]
    exact checkHeader_append _
  by_cases hbody : n < 128
  · rw [if_neg hhead, if_pos hbody, decode_of_short_body hcheck (by omega), hlen]
  have hwords : bodyCodec.decodeAt recordName headCodec.size (p.used.take n) = .ok p.words := by
    rw [used, List.take_append, List.take_of_length_le (by rw [length_head]; omega),
      List.take_append, List.take_of_length_le (by rw [length_head, length_body]; omega)]
    exact decodeBody_append p _
  have hshort : readPushBuffer (p.used.take n) p.pushBuffer.length =
      .error (.layoutMismatch recordName (128 + 4 * p.pushBuffer.length) n) := by
    rw [readPushBuffer_eq_error (by omega), hlen]
  rw [if_neg hhead, if_neg hbody, decode_of_words hcheck hwords h, hshort]
  rfl

/-! ## What was read -/

theorem uses_eq : headCodec.uses ++ bodyCodec.uses =
    List.replicate 58 .data ++ (List.replicate 2 .reserved ++
      (List.replicate 24 .data ++ List.replicate 44 .reserved)) := by
  simp only [bodyCodec, Codec.uses_pair, Codec.uses_gap]
  rfl

theorem getElem?_uses {i : Nat} (h : i < 128) :
    (headCodec.uses ++ bodyCodec.uses)[i]? = some (if IsReserved i then .reserved else .data) := by
  rw [uses_eq]
  simp only [List.getElem?_append, List.getElem?_replicate, List.length_replicate, IsReserved]
  grind

/-- What a program was read from is what it is written as, up to the ignored bytes. -/
theorem used_of_decode {p : IspProgram} {bytes : Bytes} (h : decode bytes = .ok p) :
    128 + 4 * p.pushBuffer.length ≤ bytes.length ∧
      p.used = ByteUse.canonicalBlock (headCodec.uses ++ bodyCodec.uses) (bytes.take 128) ++
        bytes.slice 128 (4 * p.pushBuffer.length) := by
  obtain ⟨hcheck, hbody, -, hread⟩ := decode_eq_ok h
  obtain ⟨-, hhead⟩ := Codec.decodeAt_eq_ok (checkHeader_eq_ok.mp hcheck)
  obtain ⟨hroom, hwords⟩ := Codec.decodeAt_eq_ok hbody
  obtain ⟨-, hbuffer, hpush⟩ := readPushBuffer_eq_ok hread
  rw [size_headCodec, size_bodyCodec] at hroom
  have hfront : bytes.take 128 = bytes.slice 0 6 ++ bytes.slice 6 122 :=
    List.take_add (i := 6) (j := 122)
  have hlen : headCodec.uses.length = (bytes.slice 0 6).length := by
    rw [Bytes.length_slice_of_le (by omega)]
    rfl
  rw [size_headCodec] at hhead hwords
  rw [size_bodyCodec] at hwords
  refine ⟨by omega, ?_⟩
  rw [used, hhead, hwords, hpush, hfront, ByteUse.canonicalBlock_append hlen, List.append_assoc]

theorem getElem?_bytes_of_decode {p : IspProgram} {bytes : Bytes} (h : decode bytes = .ok p)
    {i : Nat} (hi : i < 16512) :
    p.bytes[i]? =
      if IsReserved i ∨ 128 + 4 * p.pushBuffer.length ≤ i then some 0 else bytes[i]? := by
  obtain ⟨hroom, hused⟩ := used_of_decode h
  have hlen := p.length_used
  rw [bytes_eq]
  -- The byte stands behind the used part, in the header or in the push buffer.
  by_cases hend : 128 + 4 * p.pushBuffer.length ≤ i
  · rw [if_pos (.inr hend), List.getElem?_append_right (by omega), hlen, Bytes.zeros,
      List.getElem?_replicate_of_lt (by omega)]
  have hheader : (ByteUse.canonicalBlock (headCodec.uses ++ bodyCodec.uses)
      (bytes.take 128)).length = 128 := by
    rw [hused, List.length_append, Bytes.length_slice_of_le hroom] at hlen
    omega
  rw [List.getElem?_append_left (by omega), hused]
  by_cases hi : i < 128
  · have hblock : i < (bytes.take 128).length := by
      rw [List.length_take]
      omega
    rw [List.getElem?_append_left (by omega),
      ByteUse.getElem?_canonicalBlock_of_reserved (getElem?_uses hi) hblock,
      List.getElem?_take_of_lt hi]
    simp only [hend, or_false]
  · have hr : ¬ IsReserved i := by
      rw [IsReserved]
      omega
    rw [List.getElem?_append_right (by omega), hheader, Bytes.getElem?_slice, if_pos (by omega),
      Nat.add_sub_cancel' (by omega), if_neg (by simp [hr, hend])]

/--
**Programs and the used part of their record determine each other.** A program whose push buffer
fits has a record of 16512 bytes, and it is read back from whatever begins with the used part of
the record; a record that is cut off inside that part is not read. A program whose push buffer
does not fit has no record. And what a program was read from is its record, except that the record
is zero where bytes are ignored and behind the used part of the push buffer.
-/
theorem decode_encode_of_used_part (p : IspProgram) :
    (p.pushBuffer.length ≤ 4096 →
      ∃ record, p.encode = .ok record ∧ record.length = 16512 ∧
        (∀ bytes : Bytes, bytes.take (128 + 4 * p.pushBuffer.length) =
          record.take (128 + 4 * p.pushBuffer.length) → decode bytes = .ok p) ∧
        ∀ n < 128 + 4 * p.pushBuffer.length,
          decode (record.take n) = .error (.layoutMismatch recordName
            (if n < 6 then 6 else if n < 128 then 128 else 128 + 4 * p.pushBuffer.length) n)) ∧
    (4096 < p.pushBuffer.length →
      p.encode = .error (.configurationInvalid
        (.fieldOutOfRange "pushbuffer_size" (UInt64.ofNat p.pushBuffer.length) 4096))) ∧
    ∀ bytes, decode bytes = .ok p →
      ∃ record, p.encode = .ok record ∧ record.length = 16512 ∧
        ∀ i < 16512, record[i]? =
          if IsReserved i ∨ 128 + 4 * p.pushBuffer.length ≤ i then some 0 else bytes[i]? := by
  refine ⟨?_, encode_of_overfull, ?_⟩
  · intro h
    refine ⟨p.bytes, encode_eq_ok h, length_bytes h, ?_, ?_⟩
    · intro bytes hb
      rw [take_bytes] at hb
      rw [← List.take_append_drop (128 + 4 * p.pushBuffer.length) bytes, hb]
      exact decode_used_append h _
    · intro n hn
      have hcut : p.bytes.take n = p.used.take n := by
        rw [bytes_eq, List.take_append_of_le_length (by rw [length_used]; omega)]
      rw [hcut]
      exact decode_take_used h hn
  · intro bytes hb
    have h := (decode_eq_ok hb).2.2.1
    exact ⟨p.bytes, encode_eq_ok h, length_bytes h, fun i hi => getElem?_bytes_of_decode hb hi⟩

end IspProgram

end CaptureProtocol
