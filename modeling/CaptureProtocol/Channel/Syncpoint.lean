import CaptureProtocol.Record.Decode
import CaptureProtocol.Rule

/-!
# Syncpoints

A syncpoint is a hardware counter with a threshold. Its value may be copied to a slot of a
Grid-of-Semaphores table, and it may have a shim register.

* `ofWords_words`: a syncpoint is read back from the words that it is written as.
* `exists_ofWords_iff`: which words of a record are a syncpoint.
* `getElem?_append_write_of_ofWords`: a syncpoint that was read from within a record is written as
  it was there, with zeros for what is forgotten.
-/

set_option autoImplicit false

namespace CaptureProtocol

/-- The table index of a syncpoint that is not copied anywhere. -/
def noGosIndex : UInt8 := 0xFF

/-- The rules for a slot of a Grid-of-Semaphores table. -/
def GosSlot.rules (sid index : UInt8) (offset : UInt16) : List Rule :=
  [.consistent "GoS SID 0 is reserved" (sid != 0),
    .atMost "gos_sid" sid.toUInt64 127,
    .atMost "gos_offset" offset.toUInt64 63,
    .consistent "GoS index 0xFF means no GoS" (index != noGosIndex)]

/-- A slot of a Grid-of-Semaphores table. -/
@[ext] structure GosSlot where
  /-- The stream id of the memory unit. -/
  sid : UInt8
  /-- Which table. -/
  index : UInt8
  /-- Which semaphore in the table. -/
  offset : UInt16
  accepted : Rule.Accepted (GosSlot.rules sid index offset)
  deriving DecidableEq

/-- The slot with the given numbers. -/
def GosSlot.make (sid index : UInt8) (offset : UInt16) : Except ConfigViolation GosSlot :=
  Rule.enforce (rules sid index offset) fun h => ⟨sid, index, offset, h⟩

theorem GosSlot.accepted_rules {sid index : UInt8} {offset : UInt16} :
    Rule.Accepted (rules sid index offset) ↔
      (1 ≤ sid.toNat ∧ sid.toNat ≤ 127 ∧ offset.toNat ≤ 63) ∧ index ≠ noGosIndex := by
  have hsid : sid ≠ 0 ↔ 1 ≤ sid.toNat := by
    rw [ne_eq, ← UInt8.toNat_inj, Nat.one_le_iff_ne_zero]
    rfl
  simp only [rules, Rule.accepted_cons, Rule.atMost_holds, Rule.consistent, bne_iff_ne, hsid,
    UInt8.toNat_toUInt64, UInt16.toNat_toUInt64, Rule.accepted_nil, and_true]
  constructor
  · rintro ⟨hpos, hle, hoffset, hindex⟩
    exact ⟨⟨hpos, hle, hoffset⟩, hindex⟩
  · rintro ⟨⟨hpos, hle, hoffset⟩, hindex⟩
    exact ⟨hpos, hle, hoffset, hindex⟩

theorem GosSlot.index_ne (slot : GosSlot) : slot.index ≠ noGosIndex := by
  have h := slot.accepted
  simp [Rule.Accepted, rules, Rule.consistent] at h
  exact h.2.2.2

/-- A hardware counter and its first threshold. Counter 0 stands for none. -/
@[ext] structure Syncpoint where
  id : UInt32
  threshold : UInt32
  /-- Where the counter is copied to. -/
  gos : Option GosSlot
  /-- The address of the shim register. -/
  shim : UInt64
  accepted : Rule.Accepted [.aligned "shim_addr" shim Layout.shimAlign]
  deriving DecidableEq

namespace Syncpoint

/-- No syncpoint. -/
def unused : Syncpoint := ⟨0, 0, none, 0, by decide⟩

instance : Inhabited Syncpoint := ⟨unused⟩

/-- The syncpoint with the given counter, table slot and shim register. -/
def make (id threshold : UInt32) (gos : Option GosSlot) (shim : UInt64) :
    Except ConfigViolation Syncpoint :=
  Rule.enforce [.aligned "shim_addr" shim Layout.shimAlign] fun h => ⟨id, threshold, gos, shim, h⟩

/-- Whether there is a counter. -/
def isUsed (sp : Syncpoint) : Bool := sp.id != 0

/-! ## The record -/

/-- The words of a syncpoint record in order. -/
abbrev Words := UInt32 × UInt32 × UInt8 × UInt8 × UInt16 × UInt64

/-- The format of a syncpoint record. -/
def codec : Codec Words :=
  .pair .u32 <| .pair .u32 <| .pair .u8 <| .pair .u8 <| .pair (.gap .u16 4) .u64

/-- The words of a syncpoint. -/
def words (sp : Syncpoint) : Words :=
  match sp.gos with
  | some slot => (sp.id, sp.threshold, slot.sid, slot.index, slot.offset, sp.shim)
  | none => (sp.id, sp.threshold, 0, noGosIndex, 0, sp.shim)

/-- The table slot that three words describe. -/
def gosOfWords (sid index : UInt8) (offset : UInt16) : Except ConfigViolation (Option GosSlot) :=
  if index = noGosIndex then .ok none else (GosSlot.make sid index offset).map some

/-- The syncpoint that the words of a record describe. -/
def ofWords : Words → Except ConfigViolation Syncpoint
  | (id, threshold, sid, index, offset, shim) => do
    let gos ← gosOfWords sid index offset
    make id threshold gos shim

theorem size_codec : codec.size = 24 := rfl

theorem ofWords_words (sp : Syncpoint) : ofWords sp.words = .ok sp := by
  obtain ⟨id, threshold, gos, shim, h⟩ := sp
  cases gos with
  | none =>
    simp only [words, ofWords, gosOfWords, if_true]
    exact Rule.enforce_of_accepted _ h
  | some slot =>
    have hg : gosOfWords slot.sid slot.index slot.offset = .ok (some slot) := by
      rw [gosOfWords, if_neg slot.index_ne, GosSlot.make, Rule.enforce_of_accepted _ slot.accepted]
      rfl
    simp only [words, ofWords, hg]
    exact Rule.enforce_of_accepted _ h

theorem gosOfWords_eq_ok {sid index : UInt8} {offset : UInt16} {gos : Option GosSlot}
    (h : gosOfWords sid index offset = .ok gos) :
    gos = none ∧ index = noGosIndex ∨
      ∃ slot, gos = some slot ∧ slot.sid = sid ∧ slot.index = index ∧ slot.offset = offset := by
  unfold gosOfWords at h
  split at h
  · rename_i hi
    cases h
    exact .inl ⟨rfl, hi⟩
  · cases hs : GosSlot.make sid index offset with
    | error violation => rw [hs] at h; cases h
    | ok slot =>
      rw [hs] at h
      cases h
      obtain ⟨_, rfl⟩ := Rule.enforce_eq_ok.mp hs
      exact .inr ⟨_, rfl, rfl, rfl, rfl⟩

theorem exists_gosOfWords_iff {sid index : UInt8} {offset : UInt16} :
    (∃ gos, gosOfWords sid index offset = .ok gos) ↔
      index = noGosIndex ∨ 1 ≤ sid.toNat ∧ sid.toNat ≤ 127 ∧ offset.toNat ≤ 63 := by
  unfold gosOfWords
  by_cases hi : index = noGosIndex
  · simp [hi]
  · rw [if_neg hi]
    constructor
    · rintro ⟨gos, h⟩
      cases hs : GosSlot.make sid index offset with
      | error violation => rw [hs] at h; cases h
      | ok slot =>
        obtain ⟨ha, -⟩ := Rule.enforce_eq_ok.mp hs
        exact .inr (GosSlot.accepted_rules.mp ha).1
    · rintro (h | h)
      · exact absurd h hi
      · have ha := GosSlot.accepted_rules.mpr ⟨h, hi⟩
        exact ⟨_, by rw [GosSlot.make, Rule.enforce_of_accepted _ ha]; rfl⟩

/-- What words describe a syncpoint: a slot of a table or none, and an aligned shim register. -/
theorem exists_ofWords_iff {id threshold : UInt32} {sid index : UInt8} {offset : UInt16}
    {shim : UInt64} :
    (∃ sp, ofWords (id, threshold, sid, index, offset, shim) = .ok sp) ↔
      (index = noGosIndex ∨ 1 ≤ sid.toNat ∧ sid.toNat ≤ 127 ∧ offset.toNat ≤ 63) ∧
        4 ∣ shim.toNat := by
  have hshim : Rule.Accepted [.aligned "shim_addr" shim Layout.shimAlign] ↔ 4 ∣ shim.toNat := by
    rw [Rule.accepted_cons,
      Rule.aligned_holds (show Layout.shimAlign.toNat.isPowerOfTwo from ⟨2, rfl⟩)]
    exact and_iff_left Rule.accepted_nil
  rw [← exists_gosOfWords_iff, ← hshim]
  constructor
  · rintro ⟨sp, h⟩
    obtain ⟨gos, hg, hm⟩ := CaptureError.bind_eq_ok.mp h
    obtain ⟨ha, -⟩ := Rule.enforce_eq_ok.mp hm
    exact ⟨⟨gos, hg⟩, ha⟩
  · rintro ⟨⟨gos, hg⟩, ha⟩
    exact ⟨_, CaptureError.bind_eq_ok.mpr ⟨gos, hg, Rule.enforce_of_accepted _ ha⟩⟩

/-- Only the stream id and the offset of a missing table slot are not kept. -/
theorem words_of_ofWords {id threshold : UInt32} {sid index : UInt8} {offset : UInt16}
    {shim : UInt64} {sp : Syncpoint}
    (h : ofWords (id, threshold, sid, index, offset, shim) = .ok sp) :
    sp.words = if index = noGosIndex then (id, threshold, 0, index, 0, shim)
      else (id, threshold, sid, index, offset, shim) := by
  simp only [ofWords] at h
  cases hg : gosOfWords sid index offset with
  | error violation => rw [hg] at h; cases h
  | ok gos =>
    rw [hg] at h
    obtain ⟨_, rfl⟩ := Rule.enforce_eq_ok.mp h
    rcases gosOfWords_eq_ok hg with ⟨rfl, rfl⟩ | ⟨slot, rfl, rfl, rfl, rfl⟩
    · rfl
    · rw [if_neg slot.index_ne]
      rfl

/--
Whether byte `i` is forgotten when a syncpoint is read from `start` on: the padding and, where no
table is named, what else there is of a table slot.
-/
def IsForgotten (record : Bytes) (start i : Nat) : Prop :=
  (start + 12 ≤ i ∧ i < start + 16) ∨
    record[start + 9]? = some noGosIndex ∧ (i = start + 8 ∨ i = start + 10 ∨ i = start + 11)

instance (record : Bytes) (start i : Nat) : Decidable (IsForgotten record start i) :=
  inferInstanceAs (Decidable (_ ∨ _))

/-- The table slot and the padding stand between two parts of eight bytes. -/
theorem codec_write (id threshold : UInt32) (shim : UInt64) :
    ∃ front back, front.length = 8 ∧ ∀ sid index offset,
      codec.write (id, threshold, sid, index, offset, shim) = front ++
        ([sid, index, UInt8.ofNat offset.toNat, UInt8.ofNat (offset.toNat / 0x100), 0, 0, 0, 0] ++
          back) := by
  refine ⟨Codec.u32.write id ++ Codec.u32.write threshold, Codec.u64.write shim, ?_, ?_⟩
  · simp only [List.length_append, Codec.size_write, Codec.size_u32]
  · intro sid index offset
    simp only [codec, Codec.write_pair, Codec.write_gap, List.append_assoc]
    rfl

theorem not_isForgotten_of_outside {record : Bytes} {i : Nat} (h : i < 8 ∨ 16 ≤ i) :
    ¬ IsForgotten record 0 i := by
  unfold IsForgotten
  omega

/-- A syncpoint is written as what it was read from, with zeros for what was forgotten. -/
theorem getElem?_write_of_ofWords {w : Words} {sp : Syncpoint} (h : ofWords w = .ok sp) (k : Nat) :
    (codec.write sp.words)[k]? =
      if IsForgotten (codec.write w) 0 k then some 0 else (codec.write w)[k]? := by
  obtain ⟨id, threshold, sid, index, offset, shim⟩ := w
  obtain ⟨front, back, hfront, hw⟩ := codec_write id threshold shim
  rw [words_of_ofWords h]
  by_cases hout : k < 8 ∨ 16 ≤ k
  · -- Outside of the table slot and the padding nothing changes.
    have hsame : ∀ x y : Bytes, x.length = 8 → y.length = 8 →
        (front ++ (x ++ back))[k]? = (front ++ (y ++ back))[k]? := by
      intro x y hx hy
      rcases hout with hlt | hge
      · rw [List.getElem?_append_left (by omega), List.getElem?_append_left (by omega)]
      · rw [List.getElem?_append_right (by omega), List.getElem?_append_right (by omega),
          List.getElem?_append_right (by omega), List.getElem?_append_right (by omega), hx, hy]
    rw [if_neg (not_isForgotten_of_outside hout), hw]
    by_cases hi : index = noGosIndex
    · rw [if_pos hi, hw]
      exact hsame _ _ rfl rfl
    · rw [if_neg hi, hw]
  · -- Inside, the bytes are taken one by one.
    have hk : k = 8 ∨ k = 9 ∨ k = 10 ∨ k = 11 ∨ k = 12 ∨ k = 13 ∨ k = 14 ∨ k = 15 := by omega
    rw [hw]
    by_cases hi : index = noGosIndex
    · rw [if_pos hi, hw]
      rcases hk with rfl | rfl | rfl | rfl | rfl | rfl | rfl | rfl <;>
        simp [IsForgotten, List.getElem?_append, hfront, hi]
    · rw [if_neg hi, hw]
      rcases hk with rfl | rfl | rfl | rfl | rfl | rfl | rfl | rfl <;>
        simp [IsForgotten, List.getElem?_append, hfront, hi]

/-- Within a larger record the same bytes are forgotten, further back. -/
theorem isForgotten_append (front : Bytes) {record : Bytes} (h : 10 ≤ record.length) (rest : Bytes)
    (i : Nat) : IsForgotten (front ++ (record ++ rest)) front.length i ↔
      front.length ≤ i ∧ IsForgotten record 0 (i - front.length) := by
  have hindex : (front ++ (record ++ rest))[front.length + 9]? = record[0 + 9]? := by
    rw [List.getElem?_append_right (by omega), Nat.add_sub_cancel_left,
      List.getElem?_append_left (by omega)]
  rw [IsForgotten, IsForgotten, hindex]
  by_cases hg : record[0 + 9]? = some noGosIndex
  · simp only [hg, true_and]
    omega
  · simp only [hg, false_and, or_false]
    omega

/-- The same within a larger record. -/
theorem getElem?_append_write_of_ofWords {w : Words} {sp : Syncpoint} (h : ofWords w = .ok sp)
    (front rest : Bytes) (i : Nat) :
    (front ++ (codec.write sp.words ++ rest))[i]? =
      if front.length ≤ i ∧ IsForgotten (codec.write w) 0 (i - front.length) then some 0
      else (front ++ (codec.write w ++ rest))[i]? := by
  have hold : (codec.write w).length = 24 := codec.size_write w
  have hnew : (codec.write sp.words).length = 24 := codec.size_write sp.words
  by_cases hi : front.length ≤ i
  · simp only [List.getElem?_append_right hi, hi, true_and]
    by_cases hin : i - front.length < 24
    · rw [List.getElem?_append_left (by omega), List.getElem?_append_left (by omega),
        getElem?_write_of_ofWords h]
    · rw [if_neg (not_isForgotten_of_outside (by omega)), List.getElem?_append_right (by omega),
        List.getElem?_append_right (by omega), hold, hnew]
  · simp only [hi, false_and, if_false]
    rw [List.getElem?_append_left (by omega), List.getElem?_append_left (by omega)]

end Syncpoint

end CaptureProtocol
