import CaptureProtocol.Flags.Family
import CaptureProtocol.Text

/-!
# Flag words

A `FlagSet family` is a 32-bit word of flags. Any word is one: bits without a name are kept.
-/

set_option autoImplicit false

namespace CaptureProtocol

/-- A word of flags of one family. -/
@[ext] structure FlagSet (family : FlagFamily) where
  bits : UInt32
  deriving DecidableEq, Repr

namespace FlagSet

variable {family : FlagFamily}

/-- No flag at all. -/
def empty : FlagSet family := ⟨0⟩

instance : Inhabited (FlagSet family) := ⟨empty⟩

/-- The flags of either word. -/
def union (a b : FlagSet family) : FlagSet family := ⟨a.bits ||| b.bits⟩

/-- Whether every flag of `b` is in `a`. -/
def contains (a b : FlagSet family) : Bool := a.bits &&& b.bits == b.bits

/-- Whether no bit is set. -/
def isEmpty (a : FlagSet family) : Bool := a.bits == 0

/-- Every known flag. -/
def all (family : FlagFamily) : FlagSet family := ⟨family.known⟩

/-- The word without its unknown bits. -/
def truncate (a : FlagSet family) : FlagSet family := ⟨a.bits &&& family.known⟩

/-- Whether the word has known bits only. -/
def isKnown (a : FlagSet family) : Bool := a.bits &&& ~~~family.known == 0

/-- Whether every known flag is in the word. -/
def isAll (a : FlagSet family) : Bool := family.known ||| a.bits == a.bits

/-- The known flags that are not in the word. -/
def complement (a : FlagSet family) : FlagSet family := ⟨family.known &&& ~~~a.bits⟩

/-- The names of the flags in the word, in declaration order. -/
def names (a : FlagSet family) : List String :=
  (family.flags.filter fun flag => a.contains ⟨flag.2⟩).map Prod.fst

/-- The word as text: its names and then its nameless bits in hexadecimal. -/
def describe (a : FlagSet family) : String :=
  let leftover := a.bits &&& ~~~family.named
  let parts := a.names ++ if leftover = 0 then [] else [Text.hex leftover.toNat]
  family.title ++ "(" ++ (if parts.isEmpty then "0x0" else " | ".intercalate parts) ++ ")"

theorem contains_union_right (a b : FlagSet family) : (a.union b).contains b = true := by
  have h : (a.bits ||| b.bits) &&& b.bits = b.bits := by
    apply UInt32.toBitVec_inj.mp
    ext i hi
    simp +contextual
  simp [contains, union, h]

theorem contains_union_left {a c : FlagSet family} (b : FlagSet family)
    (h : a.contains c = true) : (a.union b).contains c = true := by
  have h : a.bits &&& c.bits = c.bits := by simpa [contains] using h
  have hu : (a.bits ||| b.bits) &&& c.bits = c.bits := by
    apply UInt32.toBitVec_inj.mp
    ext i hi
    have hb : (a.bits.toBitVec[i] && c.bits.toBitVec[i]) = c.bits.toBitVec[i] := by
      rw [← BitVec.getElem_and, ← UInt32.toBitVec_and, h]
    cases hc : c.bits.toBitVec[i] <;> simp [hc] at hb ⊢
    simp [hb]
  simp [contains, union, hu]

end FlagSet

/-! ## Flags that the protocol acts on -/

namespace ChannelFlags

/-- The channel outputs embedded data. -/
def embdata : FlagSet .channel := ⟨0x40⟩

/-- The channel has a line timer. -/
def linetimer : FlagSet .channel := ⟨0x1000⟩

/-- The sensor is connected over SLVS-EC. -/
def slvsec : FlagSet .channel := ⟨0x2000⟩

/-- Errors go to the system error handler as the masks say. -/
def hsmErrorMasks : FlagSet .channel := ⟨0x4000⟩

/-- The channel can run permanent-fault diagnostics. -/
def pfsd : FlagSet .channel := ⟨0x8000⟩

/-- The channel is bound to a CSI stream. -/
def csi : FlagSet .channel := ⟨0x10000⟩

/-- Flags that are accepted and no longer acted on. -/
def deprecated : FlagSet .channel := ⟨0x780⟩

end ChannelFlags

namespace ViFlags

/-- The frame carries embedded data. -/
def embdata : FlagSet .vi := ⟨0x2⟩

/-- The frame uses the line timer. -/
def lineTimer : FlagSet .vi := ⟨0x10⟩

end ViFlags

namespace StatusFlags

/-- The channel hit an unrecoverable error and must be reset. -/
def channelInError : FlagSet .status := ⟨0x2⟩

end StatusFlags

end CaptureProtocol
