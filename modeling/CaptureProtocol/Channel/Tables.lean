import CaptureProtocol.Record.Decode

/-!
# Tables with a count

A record that holds a variable number of things has a count and a fixed number of entries, of which
the first ones are in use and the others are blank.

* `ofEntries_entries`: a list that fits is read back from its count and entries.
* `write_entries_ofEntries`, `getElem?_append_write_entries`: entries that were read are written as
  they were, blanks as zeros.
-/

set_option autoImplicit false

namespace CaptureProtocol.Tables

variable {α : Type}

/-- The entries that are in use. -/
def ofEntries {n : Nat} (count : UInt32) (entries : Vector α n) : List α :=
  entries.toList.take count.toNat

/-- The things followed by blanks; things that do not fit are left out. -/
def entries (n : Nat) (blank : α) (things : List α) : Vector α n :=
  Vector.ofFn fun i : Fin n => (things[i.val]?).getD blank

/-- The number of things as a word. -/
def count (things : List α) : UInt32 := UInt32.ofNat things.length

theorem toNat_count {things : List α} (h : things.length < UInt32.size) :
    (count things).toNat = things.length := by
  rw [count, UInt32.toNat_ofNat']
  exact Nat.mod_eq_of_lt h

theorem ofEntries_entries {n : Nat} {blank : α} {things : List α} (h : things.length ≤ n)
    (hn : n < UInt32.size) : ofEntries (count things) (entries n blank things) = things := by
  have hc : (count things).toNat = things.length := toNat_count (Nat.lt_of_le_of_lt h hn)
  apply List.ext_getElem?
  intro i
  rw [ofEntries, hc, List.getElem?_take]
  by_cases hi : i < things.length
  · rw [if_pos hi, Vector.getElem?_toList, entries, Vector.getElem?_ofFn, dif_pos (by omega),
      List.getElem?_eq_getElem hi]
    rfl
  · rw [if_neg hi, List.getElem?_eq_none (by omega)]

theorem toList_entries {n : Nat} {blank : α} {things : List α} (h : things.length ≤ n) :
    (entries n blank things).toList = things ++ List.replicate (n - things.length) blank := by
  apply List.ext_getElem?
  intro i
  rw [Vector.getElem?_toList, entries, Vector.getElem?_ofFn, List.getElem?_append,
    List.getElem?_replicate]
  by_cases hi : i < things.length
  · rw [dif_pos (by omega), if_pos hi, List.getElem?_eq_getElem hi]
    rfl
  · rw [if_neg hi]
    by_cases hn : i < n
    · have hnone : things[i]? = none := List.getElem?_eq_none (Nat.le_of_not_lt hi)
      rw [dif_pos hn, if_pos (by omega), hnone]
      rfl
    · rw [dif_neg hn, if_neg (by omega)]

theorem length_ofEntries {n : Nat} {count : UInt32} (things : Vector α n) (h : count.toNat ≤ n) :
    (ofEntries count things).length = count.toNat := by
  simp [ofEntries, h]

/-- The entries in use are those at the places below the count. -/
theorem forall_mem_ofEntries {n : Nat} {count : UInt32} {things : Vector α n}
    (h : count.toNat ≤ n) {p : α → Prop} :
    (∀ thing ∈ ofEntries count things, p thing) ↔
      ∀ k, (hk : k < n) → k < count.toNat → p things[k] := by
  simp only [ofEntries, List.mem_take_iff_getElem, Vector.length_toList, Vector.getElem_toList]
  constructor
  · intro hall k hk hcount
    exact hall _ ⟨k, by omega, rfl⟩
  · rintro hall thing ⟨k, hk, rfl⟩
    exact hall k (by omega) (by omega)

/-- Entries in use are written as they were read, the others as blanks. -/
theorem write_entries_ofEntries {c : Codec α} {n : Nat} {blank : α}
    (hb : c.write blank = Bytes.zeros c.size) {count : UInt32} (things : Vector α n)
    (h : count.toNat ≤ n) :
    (c.array n).write (entries n blank (ofEntries count things)) =
      ((c.array n).write things).take (count.toNat * c.size) ++
        Bytes.zeros ((n - count.toNat) * c.size) := by
  have hlen := length_ofEntries things h
  rw [c.write_array, c.write_array, toList_entries (by omega), c.writeMany_append, hlen,
    Codec.writeMany_blank hb, ofEntries, c.writeMany_take]

/-- The same within a larger record. -/
theorem getElem?_append_write_entries {c : Codec α} {n : Nat} {blank : α}
    (hb : c.write blank = Bytes.zeros c.size) {count : UInt32} (things : Vector α n)
    (h : count.toNat ≤ n) (front rest : Bytes) (i : Nat) :
    (front ++ ((c.array n).write (entries n blank (ofEntries count things)) ++ rest))[i]? =
      if front.length + count.toNat * c.size ≤ i ∧ i < front.length + n * c.size then some 0
      else (front ++ ((c.array n).write things ++ rest))[i]? := by
  have hsize (v : Vector α n) : ((c.array n).write v).length = n * c.size := by
    rw [Codec.size_write, Codec.size_array]
  have hle : count.toNat * c.size ≤ n * c.size := Nat.mul_le_mul_right _ h
  have hlen : (((c.array n).write things).take (count.toNat * c.size)).length =
      count.toNat * c.size := by
    rw [List.length_take, hsize]
    omega
  by_cases hfront : i < front.length
  · rw [List.getElem?_append_left hfront, List.getElem?_append_left hfront, if_neg (by omega)]
  have hbehind : front.length ≤ i := Nat.le_of_not_lt hfront
  rw [List.getElem?_append_right hbehind, List.getElem?_append_right hbehind]
  by_cases hrest : front.length + n * c.size ≤ i
  · rw [if_neg (by omega), List.getElem?_append_right (by rw [hsize]; omega),
      List.getElem?_append_right (by rw [hsize]; omega), hsize, hsize]
  rw [List.getElem?_append_left (by rw [hsize]; omega),
    List.getElem?_append_left (by rw [hsize]; omega), write_entries_ofEntries hb things h]
  by_cases hused : front.length + count.toNat * c.size ≤ i
  · rw [if_pos (by omega), List.getElem?_append_right (by omega), hlen, Nat.sub_mul, Bytes.zeros,
      List.getElem?_replicate_of_lt (by omega)]
  · rw [if_neg (by omega), List.getElem?_append_left (by omega), List.getElem?_take_of_lt (by omega)]

end CaptureProtocol.Tables
