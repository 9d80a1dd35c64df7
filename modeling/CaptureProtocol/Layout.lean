/-!
# Alignment and limits of the shared memory

The alignment that addresses and sizes must have, the bounds of the queues, and how many entries the
fixed tables of the records hold.

* `alignUp`, `alignUp?`: rounding up in words that wrap, and in steps that must fit in words.
* `isAligned_iff`: the test of the low bits is divisibility.
-/

set_option autoImplicit false

namespace CaptureProtocol.Layout

/-- Alignment of descriptor records in shared memory. -/
def descriptorAlign : UInt64 := 64

/-- Alignment of scalar fields in control messages. -/
def messageAlign : UInt64 := 8

/-- Alignment of Grid-of-Semaphores tables. -/
def gosTableAlign : UInt64 := 256

/-- Alignment of the base and the size of a memory-info surface. -/
def surfaceAlign : UInt64 := 16

/-- Alignment of syncpoint shim register addresses. -/
def shimAlign : UInt64 := 4

/-- Smallest depth of any request queue. -/
def minQueueDepth : UInt32 := 1

/-- Largest depth of a request queue. -/
def maxQueueDepth : UInt32 := 240

/-- Largest depth of an ISP program queue. -/
def maxProgramQueueDepth : UInt32 := 32

/-- Largest request or memory-info ring in bytes: 16 MiB. -/
def maxRingBytes : UInt64 := 0x1000000

/-- Grid-of-Semaphores tables that a VI channel can name. -/
def viGosTables : Nat := 12

/-- Grid-of-Semaphores tables that an ISP channel can name. -/
def ispGosTables : Nat := 8

/-- Output surfaces of a VI capture: three pixel planes and the embedded data. -/
def outputSurfaces : Nat := 4

/-- Regions that a fault-diagnostics record can check. -/
def faultRegions : Nat := 2

/-- Smallest engine status surface in bytes. -/
def engineStatusBytes : UInt64 := 16

/-- The number of the first unit of a kind: VI or ISP. -/
def firstUnit : UInt32 := 0

/-- The number of the second and last unit of a kind. -/
def lastUnit : UInt32 := 1

/-- Size of a capture descriptor in bytes. -/
def descriptorBytes : UInt32 := 384

/-- Size of a memory-info record in bytes. -/
def memoryInfoBytes : UInt32 := 128

/-- The value rounded up to a multiple of `align`, a power of two. -/
def alignUp (value align : UInt64) : UInt64 := (value + align - 1) &&& ~~~(align - 1)

/-- A sum that must fit in a word. -/
def sum? (a b : UInt64) : Option UInt64 :=
  if a.toNat + b.toNat < UInt64.size then some (a + b) else none

/-- A product that must fit in a word. -/
def product? (a b : UInt64) : Option UInt64 :=
  if a.toNat * b.toNat < UInt64.size then some (a * b) else none

/-- A difference that must not go below zero. -/
def difference? (a b : UInt64) : Option UInt64 :=
  if b ≤ a then some (a - b) else none

/--
The value rounded up where no step may leave the words: `align` is added whole before 1 is taken
away again.
-/
def alignUp? (value align : UInt64) : Option UInt64 := do
  let sum ← sum? value align
  let last ← difference? sum 1
  let low ← difference? align 1
  return last &&& ~~~low

/-- Whether the value is a multiple of `align`, a power of two. -/
def isAligned (value align : UInt64) : Bool := value &&& (align - 1) == 0

/-- The bits below a power of two are the remainder. -/
theorem isAligned_iff {value align : UInt64} (h : align.toNat.isPowerOfTwo) :
    isAligned value align = true ↔ align.toNat ∣ value.toNat := by
  obtain ⟨k, hk⟩ := h
  have hone : (1 : UInt64) ≤ align := UInt64.le_iff_toNat_le.mpr (hk ▸ Nat.one_le_two_pow)
  have hmask : (align - 1).toNat = align.toNat - 1 := UInt64.toNat_sub_of_le _ _ hone
  rw [isAligned, beq_iff_eq, ← UInt64.toNat_inj, UInt64.toNat_and, hmask, hk,
    Nat.and_two_pow_sub_one_eq_mod, Nat.dvd_iff_mod_eq_zero]
  rfl

end CaptureProtocol.Layout
