/-!
# Byte sequences

Shared memory and encoded records are lists of bytes. This module holds the three operations that
the rest of the library needs on them: a run of zeros, a slice, and an overwrite in place.

* `length_overwrite`: overwriting inside the memory keeps its length.
* `slice_overwrite`: what was written is what is read back.
* `overwrite_slice`: what was read and is written back changes nothing.
* `slice_overwrite_of_disjoint`: a slice that the patch does not touch keeps its bytes.
-/

set_option autoImplicit false

namespace CaptureProtocol

/-- Bytes in memory order, lowest address first. -/
abbrev Bytes := List UInt8

namespace Bytes

/-- A run of `n` zero bytes. -/
def zeros (n : Nat) : Bytes := List.replicate n 0

/-- The bytes from `offset` on, at most `size` of them. -/
def slice (bytes : Bytes) (offset size : Nat) : Bytes := (bytes.drop offset).take size

/-- The bytes with `patch` written over them from `offset` on. -/
def overwrite (bytes : Bytes) (offset : Nat) (patch : Bytes) : Bytes :=
  bytes.take offset ++ (patch ++ bytes.drop (offset + patch.length))

@[simp] theorem length_zeros (n : Nat) : (zeros n).length = n := by simp [zeros]

theorem zeros_add (m n : Nat) : zeros (m + n) = zeros m ++ zeros n := by
  simp [zeros, List.replicate_append_replicate]

theorem length_slice (bytes : Bytes) (offset size : Nat) :
    (bytes.slice offset size).length = min size (bytes.length - offset) := by
  simp [slice]

theorem length_slice_of_le {bytes : Bytes} {offset size : Nat} (h : offset + size ≤ bytes.length) :
    (bytes.slice offset size).length = size := by
  rw [length_slice]; omega

theorem length_overwrite {bytes patch : Bytes} {offset : Nat}
    (h : offset + patch.length ≤ bytes.length) :
    (bytes.overwrite offset patch).length = bytes.length := by
  simp [overwrite]; omega

/-- A part of some bytes is the slice at its place. -/
theorem slice_append (front part rest : Bytes) :
    (front ++ (part ++ rest)).slice front.length part.length = part := by
  simp [slice]

/-- Overwriting a part with as many bytes replaces it. -/
theorem overwrite_append {part patch : Bytes} (h : patch.length = part.length) (front rest : Bytes) :
    (front ++ (part ++ rest)).overwrite front.length patch = front ++ (patch ++ rest) := by
  simp [overwrite, h]

/-- A byte after an overwrite: the patch's inside its range, the old one elsewhere. -/
theorem getElem?_overwrite {bytes patch : Bytes} {offset : Nat}
    (h : offset + patch.length ≤ bytes.length) (i : Nat) :
    (bytes.overwrite offset patch)[i]? =
      if offset ≤ i ∧ i < offset + patch.length then patch[i - offset]? else bytes[i]? := by
  have hlen : (bytes.take offset).length = offset := by simp; omega
  unfold overwrite
  by_cases h₁ : i < offset
  · rw [List.getElem?_append_left (by omega), if_neg (by omega), List.getElem?_take, if_pos h₁]
  · rw [List.getElem?_append_right (by omega), hlen]
    by_cases h₂ : i - offset < patch.length
    · rw [List.getElem?_append_left h₂, if_pos (by omega)]
    · rw [List.getElem?_append_right (by omega), if_neg (by omega), List.getElem?_drop]
      congr 1; omega

theorem getElem?_slice (bytes : Bytes) (offset size i : Nat) :
    (bytes.slice offset size)[i]? = if i < size then bytes[offset + i]? else none := by
  simp [slice, List.getElem?_take, List.getElem?_drop]

/-- What is written over the front of an earlier patch leaves the rest of that patch. -/
theorem overwrite_overwrite {bytes old patch : Bytes} {offset : Nat}
    (h : offset + old.length ≤ bytes.length) (hle : patch.length ≤ old.length) :
    (bytes.overwrite offset old).overwrite offset patch =
      bytes.overwrite offset (patch ++ old.drop patch.length) := by
  have hfront : (bytes.take offset).length = offset := by
    rw [List.length_take]
    omega
  have hpart : (old.take patch.length).length = patch.length := by
    rw [List.length_take]
    omega
  have hend : offset + (patch ++ old.drop patch.length).length = offset + old.length := by
    rw [List.length_append, List.length_drop]
    omega
  have hreplace := overwrite_append hpart.symm (bytes.take offset)
    (old.drop patch.length ++ bytes.drop (offset + old.length))
  rw [← List.append_assoc (old.take _), List.take_append_drop, hfront] at hreplace
  calc (bytes.overwrite offset old).overwrite offset patch
      = bytes.take offset ++
          (patch ++ (old.drop patch.length ++ bytes.drop (offset + old.length))) := hreplace
    _ = bytes.overwrite offset (patch ++ old.drop patch.length) := by
      rw [overwrite, hend, List.append_assoc]

theorem slice_overwrite {bytes patch : Bytes} {offset : Nat}
    (h : offset + patch.length ≤ bytes.length) :
    (bytes.overwrite offset patch).slice offset patch.length = patch := by
  apply List.ext_getElem?
  intro i
  rw [getElem?_slice, getElem?_overwrite h]
  by_cases hi : i < patch.length
  · rw [if_pos hi, if_pos (by omega)]; congr 1; omega
  · rw [if_neg hi, List.getElem?_eq_none (by omega)]

/-- Bytes that are overwritten with what stands there stay as they are. -/
theorem overwrite_slice {bytes : Bytes} {offset size : Nat} (h : offset + size ≤ bytes.length) :
    bytes.overwrite offset (bytes.slice offset size) = bytes := by
  have hlen := length_slice_of_le h
  apply List.ext_getElem?
  intro i
  rw [getElem?_overwrite (by rw [hlen]; exact h), hlen]
  by_cases hi : offset ≤ i ∧ i < offset + size
  · rw [if_pos hi, getElem?_slice, if_pos (by omega), Nat.add_sub_cancel' hi.1]
  · rw [if_neg hi]

theorem slice_overwrite_of_length {bytes patch : Bytes} {offset size : Nat}
    (hpatch : patch.length = size) (h : offset + size ≤ bytes.length) :
    (bytes.overwrite offset patch).slice offset size = patch := by
  subst hpatch
  exact slice_overwrite h

theorem slice_overwrite_of_disjoint {bytes patch : Bytes} {offset start size : Nat}
    (h : offset + patch.length ≤ bytes.length)
    (hd : start + size ≤ offset ∨ offset + patch.length ≤ start) :
    (bytes.overwrite offset patch).slice start size = bytes.slice start size := by
  apply List.ext_getElem?
  intro i
  rw [getElem?_slice, getElem?_slice, getElem?_overwrite h]
  by_cases hi : i < size
  · rw [if_pos hi, if_pos hi, if_neg (by omega)]
  · rw [if_neg hi, if_neg hi]

end Bytes

end CaptureProtocol
