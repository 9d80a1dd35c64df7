import CaptureProtocol.Layout
import Mathlib.Data.Nat.Bitwise
import Mathlib.Order.Bounds.Basic

/-!
# Rounding up to a boundary

A size is rounded up to a power of two by adding all bits below it and clearing them. On machine
words the addition may wrap; as long as it does not, the result is what division says. The step in
between, the value with the whole of the power added, is 1 larger than what is needed: where no step
may leave the words, it stops a value that lies on the last boundary of all.

* `and_mask_high`: clearing the low bits of a word, as arithmetic.
* `toNat_alignUp`: the rounded size, unless the value is too large for that.
* `isLeast_roundUp`: what division gives is the first boundary from the value on.
* `alignUp?_eq`: what can be rounded up without a step that leaves the words.
* `alignUp_least_short_of_end`: **rounding up finds the first boundary from the value on**, at every
  value but the last boundary.
-/

set_option autoImplicit false

namespace CaptureProtocol.Layout

/-- The bits of a 64-bit number from a position on are what division leaves of it. -/
theorem and_mask_high {n k : Nat} (hn : n < 2 ^ 64) (hk : k < 64) :
    n &&& (2 ^ 64 - 1 - (2 ^ k - 1)) = n / 2 ^ k * 2 ^ k := by
  have hpow : 2 ^ k < 2 ^ 64 := Nat.pow_lt_pow_right (by decide) hk
  have hpos := Nat.two_pow_pos k
  have hmask : 2 ^ 64 - 1 - (2 ^ k - 1) = 2 ^ 64 - (2 ^ k - 1 + 1) := by omega
  apply Nat.eq_of_testBit_eq
  intro i
  rw [Nat.testBit_and, hmask, Nat.testBit_two_pow_sub_succ (by omega), Nat.testBit_two_pow_sub_one,
    Nat.testBit_mul_two_pow, Nat.testBit_div_two_pow]
  by_cases hlow : i < k
  · simp [hlow, Nat.not_le_of_lt hlow]
  · have hle := Nat.le_of_not_lt hlow
    rw [Nat.sub_add_cancel hle]
    by_cases hi : i < 64
    · simp [hi, hlow, hle]
    · have hzero : n.testBit i = false := Nat.testBit_lt_two_pow
        (Nat.lt_of_lt_of_le hn (Nat.pow_le_pow_right (by decide) (Nat.le_of_not_lt hi)))
      simp [hzero]

/-- Clearing the low bits behind the last boundary is rounding up. -/
theorem toNat_alignUp {value align : UInt64} (h : align.toNat.isPowerOfTwo)
    (hlt : value.toNat + align.toNat - 1 < 2 ^ 64) :
    (alignUp value align).toNat =
      (value.toNat + align.toNat - 1) / align.toNat * align.toNat := by
  obtain ⟨k, hk⟩ := h
  have hpos : 1 ≤ align.toNat := hk ▸ Nat.one_le_two_pow
  have hk64 : k < 64 := (Nat.pow_lt_pow_iff_right (by decide)).mp (hk ▸ align.toNat_lt)
  have hmask : (align - 1).toNat = align.toNat - 1 :=
    UInt64.toNat_sub_of_le _ _ (UInt64.le_iff_toNat_le.mpr hpos)
  have hsum : (value + align - 1).toNat = value.toNat + align.toNat - 1 := by
    rw [UInt64.toNat_sub, UInt64.toNat_add, show (1 : UInt64).toNat = 1 from rfl]
    omega
  rw [alignUp, UInt64.toNat_and, UInt64.toNat_not, hsum, hmask, hk]
  exact and_mask_high (hk ▸ hlt) hk64

/-- What division gives is the first boundary from the value on. -/
theorem isLeast_roundUp {align : Nat} (h : 0 < align) (value : Nat) :
    IsLeast {m | align ∣ m ∧ value ≤ m} ((value + align - 1) / align * align) := by
  constructor
  · have hlt : value + align - 1 < (value + align - 1) / align * align + align :=
      Nat.lt_div_mul_add h
    exact ⟨Nat.dvd_mul_left _ _, by omega⟩
  · rintro m ⟨⟨k, rfl⟩, hle⟩
    have hlt : value + align - 1 < (k + 1) * align := by
      rw [Nat.add_mul, Nat.one_mul, Nat.mul_comm]
      omega
    rw [Nat.mul_comm align k]
    exact Nat.mul_le_mul_right _ (Nat.le_of_lt_succ (Nat.div_lt_of_lt_mul (by rwa [Nat.mul_comm])))

section

variable {align : UInt64} (h : align.toNat.isPowerOfTwo)
include h

theorem isLeast_alignUp {value : UInt64} (hlt : value.toNat + align.toNat - 1 < 2 ^ 64) :
    IsLeast {m | align.toNat ∣ m ∧ value.toNat ≤ m} (alignUp value align).toNat := by
  rw [toNat_alignUp h hlt]
  exact isLeast_roundUp (Nat.pos_of_isPowerOfTwo h) _

/-- Only the sum with the whole power can leave the words. -/
theorem alignUp?_eq (value : UInt64) :
    alignUp? value align =
      if value.toNat + align.toNat < 2 ^ 64 then some (alignUp value align) else none := by
  have hpos : 0 < align.toNat := Nat.pos_of_isPowerOfTwo h
  by_cases hfit : value.toNat + align.toNat < 2 ^ 64
  · have hsum : (value + align).toNat = value.toNat + align.toNat := by
      rw [UInt64.toNat_add, Nat.mod_eq_of_lt hfit]
    have hlow : (1 : UInt64) ≤ align := UInt64.le_iff_toNat_le.mpr hpos
    have hlast : (1 : UInt64) ≤ value + align :=
      UInt64.le_iff_toNat_le.mpr (hsum ▸ Nat.le_add_left_of_le hpos)
    rw [if_pos hfit, alignUp?, sum?, if_pos (show _ < UInt64.size from hfit)]
    simp only [difference?, if_pos hlow, if_pos hlast, Option.bind_eq_bind, Option.bind_some]
    rfl
  · rw [if_neg hfit, alignUp?, sum?, if_neg (show ¬ _ < UInt64.size from hfit)]
    rfl

theorem alignUp?_eq_some_iff {value up : UInt64} :
    alignUp? value align = some up ↔
      value.toNat + align.toNat < 2 ^ 64 ∧ up = alignUp value align := by
  rw [alignUp?_eq h]
  split
  · next hfit => rw [Option.some.injEq, eq_comm, and_iff_right hfit]
  · next hfit => exact iff_of_false nofun fun hup => hfit hup.1

/-- In range, the last boundary is the one value that is not rounded up. -/
theorem alignUp?_of_le {value : UInt64} (hle : value.toNat + align.toNat ≤ 2 ^ 64) :
    alignUp? value align =
      if value.toNat + align.toNat = 2 ^ 64 then none else some (alignUp value align) := by
  rw [alignUp?_eq h]
  by_cases hend : value.toNat + align.toNat = 2 ^ 64
  · rw [if_neg (by omega), if_pos hend]
  · rw [if_pos (by omega), if_neg hend]

/-- A boundary is rounded up to itself. -/
theorem alignUp_of_dvd {value : UInt64} (hlt : value.toNat + align.toNat - 1 < 2 ^ 64)
    (hdvd : align.toNat ∣ value.toNat) : alignUp value align = value :=
  UInt64.toNat_inj.mp ((isLeast_alignUp h hlt).unique ⟨⟨hdvd, Nat.le_refl _⟩, fun _ hm => hm.2⟩)

/-- The words end at a boundary, so a boundary among them has room for a whole step behind it. -/
theorem toNat_add_le_of_dvd {value : UInt64} (hdvd : align.toNat ∣ value.toNat) :
    value.toNat + align.toNat ≤ 2 ^ 64 := by
  obtain ⟨k, hk⟩ := h
  have hend : align.toNat ∣ 2 ^ 64 := by
    rw [hk]
    exact Nat.pow_dvd_pow 2 (Nat.le_of_lt ((Nat.pow_lt_pow_iff_right (by decide)).mp
      (hk ▸ align.toNat_lt)))
  have hle : align.toNat ≤ 2 ^ 64 - value.toNat :=
    Nat.le_of_dvd (Nat.sub_pos_of_lt value.toNat_lt) (Nat.dvd_sub hend hdvd)
  have hlt := value.toNat_lt
  omega

theorem alignUp_mono {v w : UInt64} (hw : w.toNat + align.toNat - 1 < 2 ^ 64) (hle : v ≤ w) :
    alignUp v align ≤ alignUp w align := by
  have hnat : v.toNat ≤ w.toNat := UInt64.le_iff_toNat_le.mp hle
  have hv : v.toNat + align.toNat - 1 < 2 ^ 64 := by omega
  obtain ⟨⟨hdvd, hup⟩, -⟩ := isLeast_alignUp h hw
  exact UInt64.le_iff_toNat_le.mpr ((isLeast_alignUp h hv).2 ⟨hdvd, Nat.le_trans hnat hup⟩)

theorem isAligned_iff_alignUp_eq {value : UInt64} (hlt : value.toNat + align.toNat - 1 < 2 ^ 64) :
    isAligned value align = true ↔ alignUp value align = value := by
  rw [isAligned_iff h]
  constructor
  · exact alignUp_of_dvd h hlt
  · intro heq
    have hdvd := (isLeast_alignUp h hlt).1.1
    rwa [heq] at hdvd

/--
**Rounding up finds the first boundary from the value on, short of the end.** Wherever the bits below
the power can be added to the value, clearing them gives the least multiple that is not below the
value; it grows with the value, and rounding it up again changes nothing. A value is a multiple
exactly when its low bits are clear, which is when rounding up leaves it alone. Where no step may
leave the words, one of these values is lost: the last boundary, which with the whole power added is
where the words end. It is not rounded up, neither by itself nor after a value just below it.
-/
theorem alignUp_least_short_of_end :
    (∀ value : UInt64, value.toNat + align.toNat - 1 < 2 ^ 64 →
      IsLeast {m | align.toNat ∣ m ∧ value.toNat ≤ m} (alignUp value align).toNat ∧
      alignUp (alignUp value align) align = alignUp value align ∧
      (isAligned value align = true ↔ alignUp value align = value) ∧
      alignUp? value align =
        if value.toNat + align.toNat = 2 ^ 64 then none else some (alignUp value align)) ∧
    (∀ value : UInt64, 2 ^ 64 ≤ value.toNat + align.toNat - 1 → alignUp? value align = none) ∧
    (∀ v w : UInt64, v ≤ w → w.toNat + align.toNat - 1 < 2 ^ 64 →
      alignUp v align ≤ alignUp w align) ∧
    (∀ value up, alignUp? value align = some up →
      alignUp? up align = if up.toNat + align.toNat = 2 ^ 64 then none else some up) ∧
    ∀ value, isAligned value align = true ↔ align.toNat ∣ value.toNat := by
  have hpos : 0 < align.toNat := Nat.pos_of_isPowerOfTwo h
  -- Rounded up, a value stays in range: behind a boundary there is room up to the next one.
  have hroom : ∀ value : UInt64, value.toNat + align.toNat - 1 < 2 ^ 64 →
      (alignUp value align).toNat + align.toNat ≤ 2 ^ 64 := fun value hlt =>
    toNat_add_le_of_dvd h (isLeast_alignUp h hlt).1.1
  have hagain : ∀ value : UInt64, value.toNat + align.toNat - 1 < 2 ^ 64 →
      alignUp (alignUp value align) align = alignUp value align := by
    intro value hlt
    have hle := hroom value hlt
    exact alignUp_of_dvd h (by omega) (isLeast_alignUp h hlt).1.1
  refine ⟨fun value hlt => ⟨isLeast_alignUp h hlt, hagain value hlt,
      isAligned_iff_alignUp_eq h hlt, ?_⟩, fun value hge => ?_, fun v w hle hw => ?_,
    fun value up hup => ?_, fun value => isAligned_iff h⟩
  · exact alignUp?_of_le h (by omega)
  · rw [alignUp?_eq h, if_neg (by omega)]
  · exact alignUp_mono h hw hle
  · obtain ⟨hfit, rfl⟩ := (alignUp?_eq_some_iff h).mp hup
    have hlt : value.toNat + align.toNat - 1 < 2 ^ 64 := by omega
    rw [alignUp?_of_le h (hroom value hlt), hagain value hlt]

end

/-- A value next to the end is rounded up to the largest power of two. -/
theorem alignUp_least_short_of_end_largest :
    (0x8000_0000_0000_0000 : UInt64).toNat.isPowerOfTwo ∧
    (0x7fff_ffff_ffff_ffff : UInt64) ≤ 0x8000_0000_0000_0000 ∧
    (0x8000_0000_0000_0000 : UInt64).toNat + (0x8000_0000_0000_0000 : UInt64).toNat - 1 < 2 ^ 64 ∧
    IsLeast {m | 2 ^ 63 ∣ m ∧ 0x7fff_ffff_ffff_ffff ≤ m} (2 ^ 63) ∧
    alignUp? 0x7fff_ffff_ffff_ffff 0x8000_0000_0000_0000 = some 0x8000_0000_0000_0000 ∧
    alignUp? 0x8000_0000_0000_0000 0x8000_0000_0000_0000 = none ∧
    alignUp? 0x8000_0000_0000_0001 0x8000_0000_0000_0000 = none := by
  have hpow : (0x8000_0000_0000_0000 : UInt64).toNat.isPowerOfTwo := ⟨63, rfl⟩
  obtain ⟨hrange, hbeyond, -, hagain, -⟩ := alignUp_least_short_of_end hpow
  obtain ⟨hleast, -, -, hup⟩ := hrange 0x7fff_ffff_ffff_ffff (by decide)
  have hfound : alignUp? 0x7fff_ffff_ffff_ffff 0x8000_0000_0000_0000 =
      some 0x8000_0000_0000_0000 := hup
  exact ⟨hpow, by decide, by decide, hleast, hfound, hagain _ _ hfound,
    hbeyond 0x8000_0000_0000_0001 (by decide)⟩

/--
The last boundary of 64 is a multiple in range, and it is not rounded up to itself; nor is a value
below it once it has been rounded up.
-/
theorem last_boundary_not_rounded_up :
    (0x40 : UInt64).toNat.isPowerOfTwo ∧
    (0xffff_ffff_ffff_ffc0 : UInt64).toNat + (0x40 : UInt64).toNat - 1 < 2 ^ 64 ∧
    isAligned 0xffff_ffff_ffff_ffc0 0x40 = true ∧
    alignUp? 0xffff_ffff_ffff_ffc0 0x40 = none ∧
    alignUp? 0xffff_ffff_ffff_ff81 0x40 = some 0xffff_ffff_ffff_ffc0 :=
  ⟨⟨6, rfl⟩, by decide, by decide, by decide, by decide⟩

end CaptureProtocol.Layout
