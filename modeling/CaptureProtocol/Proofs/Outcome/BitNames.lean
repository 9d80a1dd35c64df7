import CaptureProtocol.Outcome.Receiver
import CaptureProtocol.Proofs.Outcome.WordBits
import Mathlib.Data.List.Nodup

/-!
# Error words against their table of names

A table of names takes an error word apart into the names of its bits and the word of the bits that
have none. For any table the two parts are as `testBit_known` and `testBit_leftover` say; when each
row names one bit and no two rows share a name, nothing of the word is lost.

* `IsCatalogue.splits`: what the table finds in a word.
* `IsCatalogue.eq_of_names`: **names and nameless bits determine the word**.
* `ReceiverBlock.isCatalogue`: the tables of the receiver are of this kind.
-/

set_option autoImplicit false

namespace CaptureProtocol

namespace BitNames

/-- The rows whose mask meets a word, in the order of the table. -/
def rowsOf (table : BitNames) (word : UInt32) : BitNames :=
  table.filter fun row => word &&& row.1 != 0

/-- Each row names a single bit, lower bits stand first, and no two rows have the same name. -/
structure IsCatalogue (table : BitNames) : Prop where
  single : ∀ row ∈ table, ∃ i : Fin 32, row.1.toNat = 2 ^ i.val
  ascending : table.Pairwise fun a b => a.1 < b.1
  distinct : (table.map Prod.snd).Nodup

/-- An error word taken apart: the rows of its named bits, lowest first, and the nameless bits. -/
structure Splits (table : BitNames) (word : UInt32) (rows : BitNames) (others : UInt32) :
    Prop where
  ascending : rows.Pairwise fun a b => a.1 < b.1
  mem_iff : ∀ row, row ∈ rows ↔
    row ∈ table ∧ ∃ i, row.1.toNat = 2 ^ i ∧ word.toNat.testBit i = true
  others_iff : ∀ i, others.toNat.testBit i = true ↔
    word.toNat.testBit i = true ∧ ∀ row ∈ table, row.1.toNat ≠ 2 ^ i

theorem namesOf_eq (table : BitNames) (word : UInt32) :
    table.namesOf word = (table.rowsOf word).map Prod.snd := rfl

theorem mem_rowsOf {table : BitNames} {word : UInt32} {row : UInt32 × String} :
    row ∈ table.rowsOf word ↔
      row ∈ table ∧ ∃ i, word.toNat.testBit i = true ∧ row.1.toNat.testBit i = true := by
  rw [rowsOf, List.mem_filter, bne_iff_ne, Ne, ← UInt32.toNat_inj, UInt32.toNat_and]
  exact and_congr_right fun _ => WordBits.and_ne_zero_iff

theorem testBit_known (table : BitNames) (i : Nat) :
    table.known.toNat.testBit i = true ↔ ∃ row ∈ table, row.1.toNat.testBit i = true := by
  rw [known, WordBits.testBit_foldl_union UInt32.toNat_or]
  simp

theorem testBit_leftover (table : BitNames) (word : UInt32) (i : Nat) :
    (table.leftover word).toNat.testBit i = true ↔
      word.toNat.testBit i = true ∧ ∀ row ∈ table, row.1.toNat.testBit i = false := by
  have hand : (table.leftover word).toNat.testBit i =
      (word.toNat.testBit i && !table.known.toNat.testBit i) :=
    WordBits.getLsbD_and_not word.toBitVec table.known.toBitVec i
  rw [hand, Bool.and_eq_true, Bool.not_eq_true', ← Bool.not_eq_true, testBit_known]
  simp

/-- A bit of a word is in some mask of the table, or it is left over. -/
theorem testBit_mask_or_leftover (table : BitNames) {word : UInt32} {i : Nat}
    (hi : word.toNat.testBit i = true) :
    (∃ row ∈ table, row.1.toNat.testBit i = true) ∨
      (table.leftover word).toNat.testBit i = true := by
  by_cases hmask : ∃ row ∈ table, row.1.toNat.testBit i = true
  · exact .inl hmask
  · exact .inr ((testBit_leftover table word i).mpr ⟨hi, by simpa using hmask⟩)

namespace IsCatalogue

variable {table : BitNames} (h : table.IsCatalogue)
include h

theorem testBit_row {row : UInt32 × String} (hrow : row ∈ table) (i : Nat) :
    row.1.toNat.testBit i = true ↔ row.1.toNat = 2 ^ i := by
  obtain ⟨p, hp⟩ := h.single row hrow
  rw [hp, Nat.testBit_two_pow, decide_eq_true_eq]
  constructor
  · rintro rfl
    rfl
  · exact fun heq => Nat.pow_right_injective (Nat.le_refl 2) heq

theorem mem_rowsOf_iff {word : UInt32} {row : UInt32 × String} :
    row ∈ table.rowsOf word ↔
      row ∈ table ∧ ∃ i, row.1.toNat = 2 ^ i ∧ word.toNat.testBit i = true := by
  rw [mem_rowsOf]
  refine and_congr_right fun hrow => exists_congr fun i => ?_
  rw [h.testBit_row hrow, and_comm]

/-- A catalogue takes every word apart. -/
theorem splits (word : UInt32) :
    table.Splits word (table.rowsOf word) (table.leftover word) where
  ascending := h.ascending.filter _
  mem_iff _ := h.mem_rowsOf_iff
  others_iff i := by
    rw [testBit_leftover]
    refine and_congr_right fun _ => forall₂_congr fun row hrow => ?_
    rw [← Bool.not_eq_true, h.testBit_row hrow]

theorem testBit_of_names {v w : UInt32} (hn : ∀ name ∈ table.namesOf v, name ∈ table.namesOf w)
    (hl : table.leftover v = table.leftover w) {i : Nat} (hi : v.toNat.testBit i = true) :
    w.toNat.testBit i = true := by
  rcases testBit_mask_or_leftover table hi with ⟨row, hrow, hrow_i⟩ | hleft
  · have hname : row.2 ∈ table.namesOf v :=
      List.mem_map_of_mem (mem_rowsOf.mpr ⟨hrow, i, hi, hrow_i⟩)
    obtain ⟨other, hother, heq⟩ := List.mem_map.mp (hn _ hname)
    obtain ⟨hmem, j, hw, hother_j⟩ := mem_rowsOf.mp hother
    -- The row that reports the name in the other word is the same one, so it has the same bit.
    obtain rfl := List.inj_on_of_nodup_map h.distinct hmem hrow heq
    rw [h.testBit_row hrow] at hrow_i hother_j
    rw [hrow_i] at hother_j
    rwa [Nat.pow_right_injective (Nat.le_refl 2) hother_j]
  · rw [hl] at hleft
    exact ((testBit_leftover table w i).mp hleft).1

/-- **The names of a word's bits and its nameless bits determine the word.** -/
theorem eq_of_names {v w : UInt32} (hn : ∀ name, name ∈ table.namesOf v ↔ name ∈ table.namesOf w)
    (hl : table.leftover v = table.leftover w) : v = w := by
  apply UInt32.toNat_inj.mp
  apply WordBits.eq_of_testBit_iff
  intro i
  exact ⟨h.testBit_of_names (fun name => (hn name).mp) hl,
    h.testBit_of_names (fun name => (hn name).mpr) hl.symm⟩

end IsCatalogue

end BitNames

/-- The tables of the receiver name each bit once. -/
theorem ReceiverBlock.isCatalogue (block : ReceiverBlock) : block.errors.IsCatalogue := by
  cases block <;> exact ⟨by decide, by decide, by decide⟩

end CaptureProtocol
