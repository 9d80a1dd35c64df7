import CaptureProtocol.Flags.FlagSet
import Mathlib.Data.Nat.Bitwise

/-!
# Words bit by bit

Bit `i` of a word is `word.toNat.testBit i`. Masks and unions of masks are compared with a word in
one go; what that says of the single bits is the same for words of every width.

* `and_ne_zero_iff`: numbers meet exactly when they have a bit in common.
* `testBit_foldl_union`: the bits of a union are those of the masks that went into it.
* `FlagSet.contains_iff_testBit`: a single flag is in a word exactly when its bit is.
-/

set_option autoImplicit false

namespace CaptureProtocol

namespace WordBits

theorem and_ne_zero_iff {m n : Nat} :
    m &&& n ≠ 0 ↔ ∃ i, m.testBit i = true ∧ n.testBit i = true := by
  constructor
  · intro h
    obtain ⟨i, hi⟩ := Nat.exists_testBit_of_ne_zero h
    rw [Nat.testBit_and, Bool.and_eq_true] at hi
    exact ⟨i, hi⟩
  · rintro ⟨i, hm, hn⟩ h
    have hi := Nat.testBit_and m n i
    rw [h, Nat.zero_testBit, hm, hn] at hi
    cases hi

/-- Numbers with the same bits are the same number. -/
theorem eq_of_testBit_iff {m n : Nat} (h : ∀ i, m.testBit i = true ↔ n.testBit i = true) :
    m = n :=
  Nat.eq_of_testBit_eq fun i => Bool.eq_iff_iff.mpr (h i)

theorem and_two_pow_ne_zero_iff {m p : Nat} : m &&& 2 ^ p ≠ 0 ↔ m.testBit p = true := by
  rw [and_ne_zero_iff]
  simp [Nat.testBit_two_pow]

/-- A bit of one word that is not in another; no bit lies beyond the width of the word. -/
theorem getLsbD_and_not {width : Nat} (v w : BitVec width) (i : Nat) :
    (v &&& ~~~w).getLsbD i = (v.getLsbD i && !w.getLsbD i) := by
  rw [BitVec.getLsbD_and, BitVec.getLsbD_not]
  cases h : v.getLsbD i with
  | false => rfl
  | true => simp [BitVec.lt_of_getLsbD h]

/-- The bits of a union are those of the masks that went into it. -/
theorem testBit_foldl_union {W α : Type} {number : W → Nat} {union : W → W → W}
    (h : ∀ v w, number (union v w) = number v ||| number w) (mask : α → W) (things : List α)
    (word : W) (i : Nat) :
    (number (things.foldl (fun w a => union w (mask a)) word)).testBit i =
      ((number word).testBit i || things.any fun a => (number (mask a)).testBit i) := by
  induction things generalizing word with
  | nil => simp
  | cons a things ih =>
    rw [List.foldl_cons, ih, h, Nat.testBit_or, List.any_cons, Bool.or_assoc]

end WordBits

namespace FlagSet

/-- A single flag is in a word exactly when its bit is. -/
theorem contains_iff_testBit {family : FlagFamily} {flag : FlagSet family} {p : Nat}
    (h : flag.bits.toNat = 2 ^ p) (word : FlagSet family) :
    word.contains flag = true ↔ word.bits.toNat.testBit p = true := by
  have hand : (word.bits &&& flag.bits).toNat = (word.bits.toNat.testBit p).toNat * 2 ^ p := by
    rw [UInt32.toNat_and, h, Nat.and_two_pow]
  have hpos : 2 ^ p ≠ 0 := (Nat.two_pow_pos p).ne'
  rw [contains, beq_iff_eq, ← UInt32.toNat_inj, hand, h]
  cases word.bits.toNat.testBit p with
  | false => simpa using hpos.symm
  | true => simp

end FlagSet

end CaptureProtocol
