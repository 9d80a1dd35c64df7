import CaptureProtocol.Record.Codec

/-!
# Little-endian words

The 16-, 32- and 64-bit words of a record, lowest byte first. A word is the pair of its halves, so
its laws are those of `Codec.pair` and the fact that halves and whole determine each other.
-/

set_option autoImplicit false

namespace CaptureProtocol

/-- The 16-bit word with the given low and high byte. -/
def joinBytes (lo hi : UInt8) : UInt16 := UInt16.ofNat (lo.toNat + 0x100 * hi.toNat)

/-- The 32-bit word with the given low and high half. -/
def joinHalves (lo hi : UInt16) : UInt32 := UInt32.ofNat (lo.toNat + 0x10000 * hi.toNat)

/-- The 64-bit word with the given low and high half. -/
def joinWords (lo hi : UInt32) : UInt64 := UInt64.ofNat (lo.toNat + 0x100000000 * hi.toNat)

theorem toNat_joinBytes (lo hi : UInt8) :
    (joinBytes lo hi).toNat = lo.toNat + 0x100 * hi.toNat := by
  have h₁ := lo.toNat_lt
  have h₂ := hi.toNat_lt
  rw [joinBytes, UInt16.toNat_ofNat']
  omega

theorem toNat_joinHalves (lo hi : UInt16) :
    (joinHalves lo hi).toNat = lo.toNat + 0x10000 * hi.toNat := by
  have h₁ := lo.toNat_lt
  have h₂ := hi.toNat_lt
  rw [joinHalves, UInt32.toNat_ofNat']
  omega

theorem toNat_joinWords (lo hi : UInt32) :
    (joinWords lo hi).toNat = lo.toNat + 0x100000000 * hi.toNat := by
  have h₁ := lo.toNat_lt
  have h₂ := hi.toNat_lt
  rw [joinWords, UInt64.toNat_ofNat']
  omega

namespace Codec

/-- A 16-bit word. -/
def u16 : Codec UInt16 :=
  (u8.pair u8).iso (fun p => joinBytes p.1 p.2)
    (fun w => (UInt8.ofNat w.toNat, UInt8.ofNat (w.toNat / 0x100)))
    (fun p => by
      have h₁ := p.1.toNat_lt
      have h₂ := p.2.toNat_lt
      apply Prod.ext <;> apply UInt8.toNat_inj.mp <;>
        simp only [UInt8.toNat_ofNat', toNat_joinBytes] <;> omega)
    (fun w => by
      have h := w.toNat_lt
      apply UInt16.toNat_inj.mp
      simp only [toNat_joinBytes, UInt8.toNat_ofNat']
      omega)

/-- A 32-bit word. -/
def u32 : Codec UInt32 :=
  (u16.pair u16).iso (fun p => joinHalves p.1 p.2)
    (fun w => (UInt16.ofNat w.toNat, UInt16.ofNat (w.toNat / 0x10000)))
    (fun p => by
      have h₁ := p.1.toNat_lt
      have h₂ := p.2.toNat_lt
      apply Prod.ext <;> apply UInt16.toNat_inj.mp <;>
        simp only [UInt16.toNat_ofNat', toNat_joinHalves] <;> omega)
    (fun w => by
      have h := w.toNat_lt
      apply UInt32.toNat_inj.mp
      simp only [toNat_joinHalves, UInt16.toNat_ofNat']
      omega)

/-- A 64-bit word. -/
def u64 : Codec UInt64 :=
  (u32.pair u32).iso (fun p => joinWords p.1 p.2)
    (fun w => (UInt32.ofNat w.toNat, UInt32.ofNat (w.toNat / 0x100000000)))
    (fun p => by
      have h₁ := p.1.toNat_lt
      have h₂ := p.2.toNat_lt
      apply Prod.ext <;> apply UInt32.toNat_inj.mp <;>
        simp only [UInt32.toNat_ofNat', toNat_joinWords] <;> omega)
    (fun w => by
      have h := w.toNat_lt
      apply UInt64.toNat_inj.mp
      simp only [toNat_joinWords, UInt32.toNat_ofNat']
      omega)

theorem size_u16 : u16.size = 2 := rfl

theorem size_u32 : u32.size = 4 := rfl

theorem size_u64 : u64.size = 8 := rfl

end Codec

end CaptureProtocol
