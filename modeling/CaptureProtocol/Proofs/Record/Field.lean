import CaptureProtocol.Record.Decode
import Mathlib.Data.Nat.Bitwise

/-!
# Fields of a record by their place

A record is also known by where its fields stand: every field is a number of so many bytes, lowest
byte first, at a fixed place. Reading a record is reading its parts, each at its own place, and a
word that is read is the number that stands there.

* `Bytes.numberAt`: the number at a place.
* `Codec.decodeAt_pair_eq_ok`, `Codec.decodeAt_gap_eq_ok`, `Codec.decodeAt_array`: where the parts
  of a record stand.
* `Codec.toNat_of_decodeAt_u32` and the like: a word that was read is the number at its place.
-/

set_option autoImplicit false

namespace CaptureProtocol

namespace Bytes

/-- The number that some bytes make, lowest byte first. -/
def number : Bytes → Nat
  | [] => 0
  | b :: bytes => b.toNat + 0x100 * number bytes

/-- The number of `width` bytes that stands at `offset`. -/
def numberAt (bytes : Bytes) (offset width : Nat) : Nat := (bytes.slice offset width).number

theorem number_append (front rest : Bytes) :
    (front ++ rest).number = front.number + 0x100 ^ front.length * rest.number := by
  induction front with
  | nil => simp [number]
  | cons b front ih =>
    simp only [List.cons_append, number, ih, List.length_cons, Nat.pow_succ]
    rw [Nat.mul_add, Nat.add_assoc, ← Nat.mul_assoc, Nat.mul_comm 0x100 (0x100 ^ front.length)]

/-- Bytes behind a number do not matter to it. -/
theorem numberAt_take {bytes : Bytes} {offset width n : Nat} (h : offset + width ≤ n) :
    numberAt (bytes.take n) offset width = bytes.numberAt offset width := by
  have hwidth : width ≤ n - offset := by omega
  rw [numberAt, numberAt, slice, slice, List.drop_take, List.take_take, Nat.min_eq_left hwidth]

theorem numberAt_congr {bytes other : Bytes} {offset width n : Nat}
    (h : bytes.take n = other.take n) (hw : offset + width ≤ n) :
    bytes.numberAt offset width = other.numberAt offset width := by
  rw [← numberAt_take hw, h, numberAt_take hw]

end Bytes

namespace Codec

variable {α β : Type} {record : String} {offset : Nat} {bytes : Bytes}

/-! ## Parts at their place -/

theorem decodeAt_eq_ok_iff {c : Codec α} {a : α} :
    c.decodeAt record offset bytes = .ok a ↔
      ∃ rest, c.read (bytes.drop offset) = some (a, rest) := by
  unfold decodeAt
  cases c.read (bytes.drop offset) with
  | none => simp
  | some p => simp [Prod.ext_iff]

theorem decodeAt_pair_eq_ok {c : Codec α} {d : Codec β} {a : α} {b : β} :
    (c.pair d).decodeAt record offset bytes = .ok (a, b) ↔
      c.decodeAt record offset bytes = .ok a ∧
        d.decodeAt record (offset + c.size) bytes = .ok b := by
  simp only [decodeAt_eq_ok_iff, read_pair_eq_some]
  constructor
  · rintro ⟨rest, middle, hc, hd⟩
    obtain ⟨rfl, -⟩ := read_eq_some hc
    rw [List.drop_drop] at hd
    exact ⟨⟨_, hc⟩, _, hd⟩
  · rintro ⟨⟨middle, hc⟩, rest, hd⟩
    obtain ⟨rfl, -⟩ := read_eq_some hc
    refine ⟨rest, _, hc, ?_⟩
    rw [List.drop_drop]
    exact hd

theorem decodeAt_gap_eq_ok {c : Codec α} {n : Nat} {a : α} :
    (c.gap n).decodeAt record offset bytes = .ok a ↔
      c.decodeAt record offset bytes = .ok a ∧ c.size + n ≤ bytes.length - offset := by
  simp only [decodeAt_eq_ok_iff, read_gap_eq_some]
  constructor
  · rintro ⟨rest, middle, hc, hn, -⟩
    have hle := size_le_of_read hc
    obtain ⟨rfl, -⟩ := read_eq_some hc
    rw [List.length_drop] at hle
    rw [List.length_drop, List.length_drop] at hn
    exact ⟨⟨_, hc⟩, by omega⟩
  · rintro ⟨⟨middle, hc⟩, hn⟩
    obtain ⟨rfl, -⟩ := read_eq_some hc
    refine ⟨_, _, hc, ?_, rfl⟩
    rw [List.length_drop, List.length_drop]
    omega

theorem decodeAt_iso_eq_ok {c : Codec α} {into : α → β} {back : β → α}
    {back_into : ∀ a, back (into a) = a} {into_back : ∀ b, into (back b) = b} {b : β} :
    (c.iso into back back_into into_back).decodeAt record offset bytes = .ok b ↔
      c.decodeAt record offset bytes = .ok (back b) := by
  simp only [decodeAt_eq_ok_iff]
  show (∃ rest, (c.read (bytes.drop offset)).map (fun p => (into p.1, p.2)) = some (b, rest)) ↔ _
  simp only [Option.map_eq_some_iff, Prod.exists, Prod.mk.injEq]
  constructor
  · rintro ⟨rest, a, middle, h, rfl, rfl⟩
    rw [back_into]
    exact ⟨_, h⟩
  · rintro ⟨rest, h⟩
    exact ⟨rest, back b, rest, h, into_back b, rfl⟩

/-- The records of an array stand one after another. -/
theorem decodeAt_array {c : Codec α} {n : Nat} {values : Vector α n}
    (h : (c.array n).decodeAt record offset bytes = .ok values) (k : Nat) (hk : k < n) :
    c.decodeAt record (offset + k * c.size) bytes = .ok values[k] := by
  induction n with
  | zero => exact absurd hk (Nat.not_lt_zero k)
  | succ n ih =>
    rw [array, decodeAt_iso_eq_ok, decodeAt_pair_eq_ok, size_array] at h
    obtain ⟨hfront, hlast⟩ := h
    by_cases hlt : k < n
    · have hfound := ih hfront hlt
      rwa [Vector.getElem_pop] at hfound
    · have hkn : k = n := by omega
      subst hkn
      exact hlast

/-! ## Words at their place -/

theorem number_write_u16 (w : UInt16) : (u16.write w).number = w.toNat := by
  have h := w.toNat_lt
  show (UInt8.ofNat w.toNat).toNat + 0x100 * ((UInt8.ofNat (w.toNat / 0x100)).toNat + 0x100 * 0) = _
  rw [UInt8.toNat_ofNat', UInt8.toNat_ofNat']
  omega

theorem number_write_u32 (w : UInt32) : (u32.write w).number = w.toNat := by
  have h := w.toNat_lt
  show (u16.write (UInt16.ofNat w.toNat) ++ u16.write (UInt16.ofNat (w.toNat / 0x10000))).number = _
  rw [Bytes.number_append, number_write_u16, number_write_u16, size_write, size_u16,
    UInt16.toNat_ofNat', UInt16.toNat_ofNat']
  omega

theorem number_write_u64 (w : UInt64) : (u64.write w).number = w.toNat := by
  have h := w.toNat_lt
  show (u32.write (UInt32.ofNat w.toNat) ++
    u32.write (UInt32.ofNat (w.toNat / 0x100000000))).number = _
  rw [Bytes.number_append, number_write_u32, number_write_u32, size_write, size_u32,
    UInt32.toNat_ofNat', UInt32.toNat_ofNat']
  omega

theorem number_of_decodeAt {c : Codec α} (hdata : c.uses = List.replicate c.size .data) {a : α}
    (h : c.decodeAt record offset bytes = .ok a) :
    (c.write a).number = bytes.numberAt offset c.size :=
  congrArg Bytes.number (write_of_decodeAt hdata h)

theorem toNat_of_decodeAt_u8 {w : UInt8} (h : u8.decodeAt record offset bytes = .ok w) :
    w.toNat = bytes.numberAt offset 1 := number_of_decodeAt rfl h

theorem toNat_of_decodeAt_u16 {w : UInt16} (h : u16.decodeAt record offset bytes = .ok w) :
    w.toNat = bytes.numberAt offset 2 :=
  (number_write_u16 w).symm.trans (number_of_decodeAt rfl h)

theorem toNat_of_decodeAt_u32 {w : UInt32} (h : u32.decodeAt record offset bytes = .ok w) :
    w.toNat = bytes.numberAt offset 4 :=
  (number_write_u32 w).symm.trans (number_of_decodeAt rfl h)

theorem toNat_of_decodeAt_u64 {w : UInt64} (h : u64.decodeAt record offset bytes = .ok w) :
    w.toNat = bytes.numberAt offset 8 :=
  (number_write_u64 w).symm.trans (number_of_decodeAt rfl h)

theorem toNat_of_decodeAt_flags {family : FlagFamily} {flags : FlagSet family}
    (h : (Codec.flags family).decodeAt record offset bytes = .ok flags) :
    flags.bits.toNat = bytes.numberAt offset 4 :=
  toNat_of_decodeAt_u32 (decodeAt_iso_eq_ok.mp h)

end Codec

end CaptureProtocol
