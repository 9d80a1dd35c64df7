import CaptureProtocol.Rule

/-!
# Device addresses and queue depths

Addresses are 64-bit numbers as the coprocessor sees them. A queue depth is a number of slots that a
request queue may have.
-/

set_option autoImplicit false

namespace CaptureProtocol

/-- An address as the coprocessor sees it; 0 is no address. -/
abbrev Address := UInt64

namespace Address

/-- An address as text. -/
def text (address : Address) : String := Text.hex address.toNat

/-- Whether the address is none. -/
def isNull (address : Address) : Bool := address == 0

/-- The address `bytes` further on, counting on from 0 after the last one. -/
def offset (address : Address) (bytes : UInt64) : Address := address + bytes

/-- The address, refused under the name `field` when it is 0 or not a multiple of `align`. -/
def aligned (field : String) (address : Address) (align : UInt64) :
    Except ConfigViolation Address :=
  Rule.enforce [.nonZero field address, .aligned field address align] fun _ => address

end Address

/-- The depth of a request queue. -/
structure QueueDepth where
  count : UInt32
  pos : Layout.minQueueDepth ≤ count
  le_max : count ≤ Layout.maxQueueDepth
  deriving DecidableEq

namespace QueueDepth

/-- The number of slots. -/
def slots (depth : QueueDepth) : Nat := depth.count.toNat

theorem slots_pos (depth : QueueDepth) : 0 < depth.slots :=
  Nat.lt_of_lt_of_le Nat.zero_lt_one (UInt32.le_iff_toNat_le.mp depth.pos)

theorem slots_le (depth : QueueDepth) : depth.slots ≤ 240 :=
  UInt32.le_iff_toNat_le.mp depth.le_max

/-- A depth of a queue of capture requests. -/
def requests (count : UInt32) : Except ConfigViolation QueueDepth :=
  Rule.enforce [.depth "queue_depth" count Layout.maxQueueDepth] fun h =>
    have hd : Layout.minQueueDepth ≤ count ∧ count ≤ Layout.maxQueueDepth := by
      simpa [Rule.Accepted, Rule.depth] using h
    ⟨count, hd.1, hd.2⟩

/-- A depth of a queue of ISP programs, which is shorter. -/
def programs (count : UInt32) : Except ConfigViolation QueueDepth :=
  Rule.enforce [.depth "program_queue_depth" count Layout.maxProgramQueueDepth] fun h =>
    have hd : Layout.minQueueDepth ≤ count ∧ count ≤ Layout.maxProgramQueueDepth := by
      simpa [Rule.Accepted, Rule.depth] using h
    ⟨count, hd.1, UInt32.le_trans hd.2 (by decide)⟩

/-- The slot of a ring of this depth that belongs to a sequence number. -/
def slotOf (depth : QueueDepth) (sequence : UInt32) : Nat := (sequence % depth.count).toNat

theorem slotOf_lt (depth : QueueDepth) (sequence : UInt32) :
    depth.slotOf sequence < depth.slots := by
  rw [slotOf, UInt32.toNat_mod]
  exact Nat.mod_lt _ depth.slots_pos

end QueueDepth

end CaptureProtocol
