import CaptureProtocol.Outcome.Notify
import CaptureProtocol.Proofs.Outcome.WordBits
import Mathlib.Data.List.Nodup

/-!
# Notify words against the catalogue

The catalogue is scanned from front to back, and what it does not have is masked out of the word.
Since its positions ascend and each entry has one bit, the scan and the mask take the word apart.

* `splits_ofWord`: **a notify word is its catalogued bits, in ascending order, and the bits that no
  entry has**.
* `isHarmless_iff_masks`: a word is harmless exactly when it has no corrupting and no unknown bit.
-/

set_option autoImplicit false

namespace CaptureProtocol

namespace NotifyBit

/-- A notify word taken apart: its catalogued bits, lowest first, and the word of all others. -/
structure Splits (word : UInt64) (bits : List NotifyBit) (others : UInt64) : Prop where
  ascending : bits.Pairwise fun a b => a.position < b.position
  mem_iff : ∀ bit, bit ∈ bits ↔ word.toNat.testBit bit.position.toNat = true
  others_iff : ∀ i, others.toNat.testBit i = true ↔
    word.toNat.testBit i = true ∧ ∀ bit : NotifyBit, bit.position.toNat ≠ i
  union_eq : union bits ||| others = word

/-- Every bit of a notify word is in the catalogue and leaves the frame usable. -/
def IsHarmless (word : UInt64) : Prop :=
  ∀ i, word.toNat.testBit i = true →
    ∃ bit : NotifyBit, bit.position.toNat = i ∧ bit.impact = .harmless

/-! ## The catalogue -/

theorem mem_all (bit : NotifyBit) : bit ∈ all := by
  cases bit <;> decide

theorem all_ascending : all.Pairwise fun a b => a.position < b.position := by
  decide

theorem position_injective {a b : NotifyBit} (h : a.position = b.position) : a = b := by
  have hnodup : (all.map position).Nodup :=
    List.pairwise_map.mpr (all_ascending.imp UInt8.ne_of_lt)
  exact List.inj_on_of_nodup_map hnodup (mem_all a) (mem_all b) h

theorem isCorrupting_eq_false_iff (bit : NotifyBit) :
    bit.isCorrupting = false ↔ bit.impact = .harmless := by
  rw [isCorrupting]
  cases bit.impact <;> decide

theorem toNat_mask (bit : NotifyBit) : bit.mask.toNat = 2 ^ bit.position.toNat := by
  cases bit <;> rfl

/-! ## Scan and masks, bit by bit -/

theorem testBit_union (bits : List NotifyBit) (i : Nat) :
    (union bits).toNat.testBit i = true ↔ ∃ bit ∈ bits, bit.position.toNat = i := by
  rw [union, WordBits.testBit_foldl_union UInt64.toNat_or]
  simp [toNat_mask, Nat.testBit_two_pow]

theorem testBit_knownMask (i : Nat) :
    knownMask.toNat.testBit i = true ↔ ∃ bit : NotifyBit, bit.position.toNat = i := by
  simp [knownMask, testBit_union, mem_all]

theorem mem_ofWord (word : UInt64) (bit : NotifyBit) :
    bit ∈ ofWord word ↔ word.toNat.testBit bit.position.toNat = true := by
  rw [ofWord, List.mem_filter, bne_iff_ne, Ne, ← UInt64.toNat_inj, UInt64.toNat_and, toNat_mask]
  simp only [mem_all, true_and]
  exact WordBits.and_two_pow_ne_zero_iff

theorem testBit_others (word : UInt64) (i : Nat) :
    (word &&& ~~~knownMask).toNat.testBit i = true ↔
      word.toNat.testBit i = true ∧ ∀ bit : NotifyBit, bit.position.toNat ≠ i := by
  have hand : (word &&& ~~~knownMask).toNat.testBit i =
      (word.toNat.testBit i && !knownMask.toNat.testBit i) :=
    WordBits.getLsbD_and_not word.toBitVec knownMask.toBitVec i
  rw [hand, Bool.and_eq_true, Bool.not_eq_true', ← Bool.not_eq_true, testBit_knownMask, not_exists]

theorem union_ofWord (word : UInt64) : union (ofWord word) ||| word &&& ~~~knownMask = word := by
  apply UInt64.toNat_inj.mp
  apply WordBits.eq_of_testBit_iff
  intro i
  rw [UInt64.toNat_or, Nat.testBit_or, Bool.or_eq_true, testBit_union, testBit_others]
  constructor
  · rintro (⟨bit, hbit, rfl⟩ | ⟨hi, -⟩)
    · exact (mem_ofWord word bit).mp hbit
    · exact hi
  · intro hi
    by_cases hknown : ∃ bit : NotifyBit, bit.position.toNat = i
    · obtain ⟨bit, rfl⟩ := hknown
      exact .inl ⟨bit, (mem_ofWord word bit).mpr hi, rfl⟩
    · exact .inr ⟨hi, fun bit hbit => hknown ⟨bit, hbit⟩⟩

theorem eq_of_ofWord {v w : UInt64} (h : ∀ bit, bit ∈ ofWord v ↔ bit ∈ ofWord w)
    (ho : v &&& ~~~knownMask = w &&& ~~~knownMask) : v = w := by
  have hbits : ofWord v = ofWord w := by
    apply List.filter_congr
    intro bit _
    rw [Bool.eq_iff_iff]
    simpa [ofWord, mem_all] using h bit
  rw [← union_ofWord v, ← union_ofWord w, hbits, ho]

/-- **The catalogue takes every notify word apart.** -/
theorem splits_ofWord (word : UInt64) :
    Splits word (ofWord word) (word &&& ~~~knownMask) where
  ascending := all_ascending.filter _
  mem_iff := mem_ofWord word
  others_iff := testBit_others word
  union_eq := union_ofWord word

/-! ## What spoils a frame -/

theorem and_corruptingMask_ne_zero_iff (word : UInt64) :
    word &&& corruptingMask ≠ 0 ↔ ∃ bit ∈ ofWord word, bit.isCorrupting = true := by
  rw [Ne, ← UInt64.toNat_inj, UInt64.toNat_and]
  refine WordBits.and_ne_zero_iff.trans ⟨?_, ?_⟩
  · rintro ⟨i, hi, hc⟩
    obtain ⟨bit, hbit, rfl⟩ := (testBit_union _ i).mp hc
    exact ⟨bit, (mem_ofWord word bit).mpr hi, (List.mem_filter.mp hbit).2⟩
  · rintro ⟨bit, hbit, hc⟩
    refine ⟨bit.position.toNat, (mem_ofWord word bit).mp hbit, ?_⟩
    exact (testBit_union _ _).mpr ⟨bit, List.mem_filter.mpr ⟨mem_all bit, hc⟩, rfl⟩

theorem others_ne_zero_iff (word : UInt64) :
    word &&& ~~~knownMask ≠ 0 ↔
      ∃ i, word.toNat.testBit i = true ∧ ∀ bit : NotifyBit, bit.position.toNat ≠ i := by
  constructor
  · intro h
    have h : (word &&& ~~~knownMask).toNat ≠ 0 := fun h0 => h (UInt64.toNat_inj.mp h0)
    obtain ⟨i, hi⟩ := Nat.exists_testBit_of_ne_zero h
    exact ⟨i, (testBit_others word i).mp hi⟩
  · rintro ⟨i, hi⟩ h
    have hbit := (testBit_others word i).mpr hi
    rw [h] at hbit
    simp at hbit

/-- A word is harmless exactly when it has no corrupting and no unknown bit. -/
theorem isHarmless_iff_masks (word : UInt64) :
    IsHarmless word ↔ word &&& corruptingMask = 0 ∧ word &&& ~~~knownMask = 0 := by
  constructor
  · intro h
    constructor
    · by_contra hc
      obtain ⟨bit, hbit, hcorrupting⟩ := (and_corruptingMask_ne_zero_iff word).mp hc
      obtain ⟨other, hpos, hharmless⟩ := h _ ((mem_ofWord word bit).mp hbit)
      -- Positions are distinct, so the harmless entry is the corrupting one.
      have heq : other = bit := position_injective (UInt8.toNat_inj.mp hpos)
      rw [← heq, (isCorrupting_eq_false_iff other).mpr hharmless] at hcorrupting
      cases hcorrupting
    · by_contra ho
      obtain ⟨i, hi, hunknown⟩ := (others_ne_zero_iff word).mp ho
      obtain ⟨bit, hpos, -⟩ := h i hi
      exact hunknown bit hpos
  · rintro ⟨hc, ho⟩ i hi
    by_cases hknown : ∃ bit : NotifyBit, bit.position.toNat = i
    · obtain ⟨bit, rfl⟩ := hknown
      refine ⟨bit, rfl, (isCorrupting_eq_false_iff bit).mp ?_⟩
      by_contra hcorrupting
      exact (and_corruptingMask_ne_zero_iff word).mpr
        ⟨bit, (mem_ofWord word bit).mpr hi, by simpa using hcorrupting⟩ hc
    · exact absurd ho ((others_ne_zero_iff word).mpr
        ⟨i, hi, fun bit hbit => hknown ⟨bit, hbit⟩⟩)

theorem IsHarmless.of_or {word more : UInt64} (h : IsHarmless (word ||| more)) :
    IsHarmless word := by
  intro i hi
  apply h i
  rw [UInt64.toNat_or, Nat.testBit_or, hi, Bool.true_or]

end NotifyBit

end CaptureProtocol
