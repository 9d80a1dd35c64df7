import CaptureProtocol.Proofs.Channel.Acceptance

/-!
# Where the slots of the rings lie

The base of a ring and its bytes are checked, not the range of addresses that they make together:
addresses count on from 0 after the last one, and nothing compares the two rings. So slots of one
ring never get in each other's way, but they ascend only below the end of the address space, and it
is for the caller to keep the rings apart.

* `Address.slots_ascend_iff`: exactly when the slots of a ring ascend.
* `Address.exists_inRing_iff`: exactly when two rings have a byte in common.
* `PlacedRing`: what holds of every ring.
* `ChannelConfig.rings_placed`: **both rings of a channel are placed**, and their bases are taken as
  they come.
* `ChannelConfig.rings_past_the_end`: accepted rings that run past the last address or coincide.
-/

set_option autoImplicit false

namespace CaptureProtocol

namespace Address

variable {base other a : Address} {slots size n m : Nat}

/-- The address of a slot in a ring whose slots have `size` bytes. -/
def slot (base : Address) (size i : Nat) : Address := base.offset (UInt64.ofNat (i * size))

/-- The address belongs to a byte of one of the slots of a ring. -/
def InRing (a base : Address) (slots size : Nat) : Prop :=
  ∃ i < slots, ∃ k < size, (base.slot size i).offset (UInt64.ofNat k) = a

theorem isNull_eq_false_iff : a.isNull = false ↔ a.toNat ≠ 0 := by
  rw [isNull, beq_eq_false_iff_ne, ne_eq, ← UInt64.toNat_inj]
  rfl

theorem toNat_offset (base : Address) (n : Nat) :
    (base.offset (UInt64.ofNat n)).toNat = (base.toNat + n) % 2 ^ 64 := by
  rw [offset, UInt64.toNat_add, UInt64.toNat_ofNat', Nat.add_mod_mod]

theorem toNat_slot (base : Address) (size i : Nat) :
    (base.slot size i).toNat = (base.toNat + i * size) % 2 ^ 64 :=
  toNat_offset base (i * size)

theorem toNat_slot_of_lt {i : Nat} (h : base.toNat + i * size < 2 ^ 64) :
    (base.slot size i).toNat = base.toNat + i * size := by
  rw [toNat_slot]
  exact Nat.mod_eq_of_lt h

theorem slot_offset (base : Address) (size i k : Nat) :
    (base.slot size i).offset (UInt64.ofNat k) = base.offset (UInt64.ofNat (i * size + k)) := by
  rw [← UInt64.toNat_inj, toNat_offset, toNat_slot, toNat_offset, Nat.mod_add_mod, Nat.add_assoc]

/-- Every byte of a slot comes before the end of the ring. -/
theorem slotByte_lt {i k : Nat} (hi : i < slots) (hk : k < size) : i * size + k < slots * size := by
  rw [Nat.mul_comm i]
  exact Nat.mul_add_lt_mul_of_lt_of_lt hi hk

theorem offset_inj (hn : n < 2 ^ 64) (hm : m < 2 ^ 64) :
    base.offset (UInt64.ofNat n) = base.offset (UInt64.ofNat m) ↔ n = m := by
  rw [← UInt64.toNat_inj, toNat_offset, toNat_offset]
  omega

/-- No address is that of two bytes of a ring. -/
theorem slot_offset_inj (h : slots * size < 2 ^ 64) {i j k l : Nat} (hi : i < slots) (hk : k < size)
    (hj : j < slots) (hl : l < size)
    (heq : (base.slot size i).offset (UInt64.ofNat k) =
      (base.slot size j).offset (UInt64.ofNat l)) : i = j ∧ k = l := by
  have hik := slotByte_lt hi hk
  have hjl := slotByte_lt hj hl
  have hsize : 0 < size := Nat.zero_lt_of_lt hk
  rw [slot_offset, slot_offset, offset_inj (by omega) (by omega)] at heq
  have hij : i = j := by
    have hdiv := congrArg (· / size) heq
    simpa [Nat.mul_comm _ size, Nat.mul_add_div hsize, Nat.div_eq_of_lt hk, Nat.div_eq_of_lt hl]
      using hdiv
  subst hij
  exact ⟨rfl, Nat.add_left_cancel heq⟩

/-- The slots ascend from an address on exactly as long as the last one begins in time. -/
theorem slots_ascend_iff (hbase : base.toNat ≠ 0) (hsize : 0 < size) (hslots : 0 < slots)
    (h : slots * size < 2 ^ 64) :
    ((∀ i < slots, (base.slot size i).isNull = false) ∧
      ∀ j < slots, ∀ i < j, base.slot size i < base.slot size j) ↔
      base.toNat + (slots - 1) * size < 2 ^ 64 := by
  have hlt := base.toNat_lt
  constructor
  · rintro ⟨-, hascend⟩
    by_cases hone : slots = 1
    · subst hone
      simpa using hlt
    · -- A last slot past the end would come before the first one.
      have hle : (slots - 1) * size ≤ slots * size := Nat.mul_le_mul_right size (Nat.sub_le slots 1)
      have hends := hascend (slots - 1) (by omega) 0 (by omega)
      rw [UInt64.lt_iff_toNat_lt, toNat_slot, toNat_slot] at hends
      omega
  · intro hlast
    have hslot : ∀ i < slots, (base.slot size i).toNat = base.toNat + i * size := by
      intro i hi
      have hle : i * size ≤ (slots - 1) * size := Nat.mul_le_mul_right size (by omega)
      exact toNat_slot_of_lt (by omega)
    constructor
    · intro i hi
      rw [isNull_eq_false_iff, hslot i hi]
      omega
    · intro j hj i hij
      have hstep : i * size < j * size := Nat.mul_lt_mul_of_pos_right hij hsize
      rw [UInt64.lt_iff_toNat_lt, hslot i (by omega), hslot j hj]
      omega

/-- A ring has the addresses from its base on, as many as it has bytes. -/
theorem inRing_iff (h : slots * size < 2 ^ 64) :
    a.InRing base slots size ↔ (a - base).toNat < slots * size := by
  have hbase := base.toNat_lt
  have ha := a.toNat_lt
  constructor
  · rintro ⟨i, hi, k, hk, rfl⟩
    have hlt := slotByte_lt hi hk
    rw [slot_offset, UInt64.toNat_sub, toNat_offset]
    omega
  · intro hlt
    have hsize : 0 < size := Nat.pos_of_ne_zero fun h0 => by simp [h0] at hlt
    -- The distance from the base gives the slot and the byte of it.
    refine ⟨(a - base).toNat / size, Nat.div_lt_of_lt_mul (Nat.mul_comm slots size ▸ hlt),
      (a - base).toNat % size, Nat.mod_lt _ hsize, ?_⟩
    rw [slot_offset, Nat.div_add_mod', ← UInt64.toNat_inj, toNat_offset, UInt64.toNat_sub]
    omega

/-- Two rings have a byte in common exactly when one of them begins within the other. -/
theorem exists_inRing_iff (hn : slots * size < 2 ^ 63) (hm : n * m < 2 ^ 63)
    (hpos : 0 < slots * size) (hpos' : 0 < n * m) :
    (∃ a : Address, a.InRing base slots size ∧ a.InRing other n m) ↔
      (other - base).toNat < slots * size ∨ (base - other).toNat < n * m := by
  simp only [inRing_iff (show slots * size < 2 ^ 64 by omega),
    inRing_iff (show n * m < 2 ^ 64 by omega)]
  have hbase := base.toNat_lt
  have hother := other.toNat_lt
  constructor
  · rintro ⟨a, ha, ha'⟩
    have hlt := a.toNat_lt
    rw [UInt64.toNat_sub] at ha ha' ⊢
    rw [UInt64.toNat_sub]
    omega
  · rintro (h | h)
    · exact ⟨other, h, by simpa using hpos'⟩
    · exact ⟨base, by simpa using hpos, h⟩

end Address

/-- How a ring of `slots` slots of `size` bytes lies in the address space. -/
structure PlacedRing (base : Address) (slots size : Nat) : Prop where
  aligned : ∀ i, 64 ∣ (base.slot size i).toNat
  /-- No byte belongs to two slots or twice to one. -/
  apart : ∀ i < slots, ∀ k < size, ∀ j < slots, ∀ l < size,
    (base.slot size i).offset (UInt64.ofNat k) = (base.slot size j).offset (UInt64.ofNat l) →
      i = j ∧ k = l
  /-- The slots of a ring that ends with the address space or earlier lie one after another. -/
  within : base.toNat + slots * size ≤ 2 ^ 64 →
    ∀ i < slots, (base.slot size i).toNat = base.toNat + i * size
  /-- No slot is null and the slots ascend exactly as long as the last one begins in time. -/
  ascending :
    ((∀ i < slots, (base.slot size i).isNull = false) ∧
      ∀ j < slots, ∀ i < j, base.slot size i < base.slot size j) ↔
      base.toNat + (slots - 1) * size < 2 ^ 64

theorem PlacedRing.of_legal {base : Address} {slots size record : Nat}
    (hring : LegalRing base.toNat slots size record) (hrecord : 0 < record) (hslots : 0 < slots) :
    PlacedRing base slots size := by
  have hsize : 0 < size := Nat.lt_of_lt_of_le hrecord hring.record_le
  have hbytes : slots * size < 2 ^ 64 := Nat.lt_of_le_of_lt hring.bytes_le (by decide)
  refine ⟨fun i => ?_, fun i hi k hk j hj l hl => Address.slot_offset_inj hbytes hi hk hj hl,
    fun hfits i hi => ?_, Address.slots_ascend_iff hring.base_ne hsize hslots hbytes⟩
  · rw [Address.toNat_slot, Nat.dvd_mod_iff (by decide)]
    exact Nat.dvd_add hring.base_aligned (Nat.dvd_mul_left_of_dvd hring.entry_aligned i)
  · have hlt : i * size < slots * size := Nat.mul_lt_mul_of_pos_right hi hsize
    exact Address.toNat_slot_of_lt (by omega)

namespace ChannelConfig

theorem acceptable (c : ChannelConfig) : c.settings.Acceptable :=
  ChannelSettings.accepted_iff.mp c.accepted

/--
**Both rings of every channel are placed.** Their slots are aligned and have their bytes to
themselves, and they are non-null and ascend exactly when the last one begins before the end of the
address space. The rings have a byte in common exactly when one begins within the other, counting on
past the end; whether they do does not matter to acceptance, which asks of the bases that they are
non-null and aligned and nothing more.
-/
theorem rings_placed (c : ChannelConfig) :
    PlacedRing c.settings.requests c.depth.slots c.requestBytes ∧
      PlacedRing c.settings.memoryInfo c.depth.slots c.memoryInfoBytes ∧
      ((∃ a : Address, a.InRing c.settings.requests c.depth.slots c.requestBytes ∧
          a.InRing c.settings.memoryInfo c.depth.slots c.memoryInfoBytes) ↔
        (c.settings.memoryInfo - c.settings.requests).toNat < c.requestRingBytes ∨
          (c.settings.requests - c.settings.memoryInfo).toNat < c.memoryInfoRingBytes) ∧
      ∀ requests memoryInfo : Address,
        (∃ c', ({ c.settings with requests := requests, memoryInfo := memoryInfo } :
            ChannelSettings).build = .ok c') ↔
          (requests.isNull = false ∧ 64 ∣ requests.toNat) ∧
            memoryInfo.isNull = false ∧ 64 ∣ memoryInfo.toNat := by
  have hok := c.acceptable
  have hbytes := c.ringBytes_le
  have hrequest := Nat.mul_pos c.depth.slots_pos (Nat.lt_of_lt_of_le (by decide) c.descriptor_le)
  have hmemory := Nat.mul_pos c.depth.slots_pos (Nat.lt_of_lt_of_le (by decide) c.memoryInfo_le)
  refine ⟨.of_legal hok.requests (by decide) c.depth.slots_pos,
    .of_legal hok.memoryInfo (by decide) c.depth.slots_pos,
    Address.exists_inRing_iff (Nat.lt_of_le_of_lt hbytes.1 (by decide))
      (Nat.lt_of_le_of_lt hbytes.2 (by decide)) hrequest hmemory, fun requests memoryInfo => ?_⟩
  rw [ChannelSettings.exists_build_iff, Address.isNull_eq_false_iff, Address.isNull_eq_false_iff]
  constructor
  · intro h
    exact ⟨⟨h.requests.base_ne, h.requests.base_aligned⟩, h.memoryInfo.base_ne,
      h.memoryInfo.base_aligned⟩
  · rintro ⟨⟨hne, haligned⟩, hne', haligned'⟩
    exact { hok with
      requests := { hok.requests with base_ne := hne, base_aligned := haligned }
      memoryInfo := { hok.memoryInfo with base_ne := hne', base_aligned := haligned' } }

/-- A request ring whose second slot begins after the last address. -/
def wrapping : ChannelConfig where
  settings := { requests := 0xFFFFFFFFFFFFFE80, memoryInfo := 0x1000, queueDepth := 2 }
  accepted := by decide

/-- Two rings with the same base. -/
def coinciding : ChannelConfig where
  settings := { requests := 0x1000, memoryInfo := 0x1000, queueDepth := 1 }
  accepted := by decide

/--
A ring that runs past the last address is built and read, and its second slot is null; two rings at
the same place are built and read, too.
-/
theorem rings_past_the_end :
    (wrapping.settings.build = .ok wrapping ∧ decode wrapping.bytes = .ok wrapping ∧
      2 ^ 64 < wrapping.settings.requests.toNat + wrapping.requestRingBytes ∧
      1 < wrapping.depth.slots ∧
      (wrapping.settings.requests.slot wrapping.requestBytes 1).isNull = true ∧
      wrapping.settings.requests.slot wrapping.requestBytes 1 <
        wrapping.settings.requests.slot wrapping.requestBytes 0) ∧
    coinciding.settings.build = .ok coinciding ∧ decode coinciding.bytes = .ok coinciding ∧
      coinciding.settings.requests.InRing coinciding.settings.requests coinciding.depth.slots
        coinciding.requestBytes ∧
      coinciding.settings.requests.InRing coinciding.settings.memoryInfo coinciding.depth.slots
        coinciding.memoryInfoBytes := by
  refine ⟨⟨by decide, rfl, by decide, by decide, by decide, by decide⟩, by decide, rfl, ?_, ?_⟩
  · exact ⟨0, by decide, 0, by decide, rfl⟩
  · exact ⟨0, by decide, 0, by decide, rfl⟩

end ChannelConfig

end CaptureProtocol
