import CaptureProtocol.Error
import CaptureProtocol.Flags.FlagSet
import CaptureProtocol.Record.Word

/-!
# Reading records out of memory

Reading a record checks its length first; a record that does not fit is reported under its name,
with the number of bytes that it needs and the number that there are.

* `decodeAt_eq_error_iff`: reading fails exactly when the bytes end before the record does.
* `decodeAt_append`: bytes after the record do not matter.
* `getElem?_write_canonical`: what was read is written as it was, each byte in its canonical form.
* `decode_congr`: bytes that are ignored do not matter.
* `read_pair_eq_some`, `read_gap_eq_some`, `read_skip_eq_some`: a record is read part by part.
* `finish_eq_ok`: a record is handed out exactly when it has its length.
-/

set_option autoImplicit false

namespace CaptureProtocol.Codec

variable {α : Type}

/-- A word of flags. -/
def flags (family : FlagFamily) : Codec (FlagSet family) :=
  u32.iso FlagSet.mk FlagSet.bits (fun _ => rfl) (fun _ => rfl)

theorem size_flags (family : FlagFamily) : (flags family).size = 4 := rfl

/-- The record that begins at `offset`, reported as `record` when it does not fit. -/
def decodeAt (c : Codec α) (record : String) (offset : Nat) (bytes : Bytes) :
    Except CaptureError α :=
  match c.read (bytes.drop offset) with
  | some (a, _) => .ok a
  | none => .error (.layoutMismatch record (offset + c.size) bytes.length)

/-- The record at the front of some bytes. -/
def decode (c : Codec α) (record : String) (bytes : Bytes) : Except CaptureError α :=
  c.decodeAt record 0 bytes

/--
The bytes with a record written over them at `offset`, reported as `record` when it does not fit.
-/
def writeAt (c : Codec α) (record : String) (offset : Nat) (a : α) (bytes : Bytes) :
    Except CaptureError Bytes :=
  if offset + c.size ≤ bytes.length then .ok (bytes.overwrite offset (c.write a))
  else .error (.layoutMismatch record (offset + c.size) bytes.length)

/-- Records in a row: the values of the first `n` and the bytes after them. -/
def readMany (c : Codec α) : (n : Nat) → Bytes → Option (List α × Bytes)
  | 0, bytes => some ([], bytes)
  | n + 1, bytes =>
    match c.read bytes with
    | none => none
    | some (a, rest) => (c.readMany n rest).map fun p => (a :: p.1, p.2)

/-- The bytes of records in a row. -/
def writeMany (c : Codec α) (values : List α) : Bytes := values.flatMap c.write

theorem read_eq_none_iff (c : Codec α) (bytes : Bytes) :
    c.read bytes = none ↔ bytes.length < c.size := by
  constructor
  · intro h
    refine Nat.lt_of_not_le fun hle => ?_
    obtain ⟨a, ha, -⟩ := c.exists_read (bytes.take c.size) (bytes.drop c.size)
      (by rw [List.length_take]; exact Nat.min_eq_left hle)
    rw [List.take_append_drop, h] at ha
    cases ha
  · exact c.read_of_short bytes

theorem size_le_of_read {c : Codec α} {bytes : Bytes} {p : α × Bytes}
    (h : c.read bytes = some p) : c.size ≤ bytes.length := by
  refine Nat.le_of_not_lt fun hlt => ?_
  rw [(c.read_eq_none_iff bytes).mpr hlt] at h
  cases h

/-- What was read, and that it was read from the front. -/
theorem read_eq_some {c : Codec α} {bytes rest : Bytes} {a : α}
    (h : c.read bytes = some (a, rest)) :
    rest = bytes.drop c.size ∧ c.write a = ByteUse.canonicalBlock c.uses (bytes.take c.size) := by
  have hle := size_le_of_read h
  obtain ⟨b, hb, hw⟩ := c.exists_read (bytes.take c.size) (bytes.drop c.size)
    (by rw [List.length_take]; exact Nat.min_eq_left hle)
  rw [List.take_append_drop, h] at hb
  cases hb
  exact ⟨rfl, hw⟩

theorem write_injective (c : Codec α) {a b : α} (h : c.write a = c.write b) : a = b := by
  have ha := c.read_write_append a []
  rw [h, c.read_write_append b []] at ha
  exact (congrArg Prod.fst (Option.some.inj ha)).symm

/-- Bytes after the record do not matter to what is read. -/
theorem read_append {c : Codec α} {bytes rest : Bytes} {a : α} (h : c.read bytes = some (a, rest))
    (more : Bytes) : c.read (bytes ++ more) = some (a, rest ++ more) := by
  obtain ⟨rfl, hw⟩ := read_eq_some h
  obtain ⟨b, hb, hwb⟩ := c.exists_read (bytes.take c.size) (bytes.drop c.size ++ more)
    (by rw [List.length_take]; exact Nat.min_eq_left (size_le_of_read h))
  rw [← List.append_assoc, List.take_append_drop] at hb
  rw [hb, c.write_injective (hw.trans hwb.symm)]

/-- A record is read from its own bytes alone. -/
theorem read_take {c : Codec α} {bytes rest : Bytes} {a : α} (h : c.read bytes = some (a, rest)) :
    c.read (bytes.take c.size) = some (a, []) := by
  obtain ⟨b, hb, -⟩ := c.exists_read (bytes.take c.size) []
    (by rw [List.length_take]; exact Nat.min_eq_left (size_le_of_read h))
  rw [List.append_nil] at hb
  have hwhole := read_append hb (bytes.drop c.size)
  rw [List.take_append_drop, h] at hwhole
  cases hwhole
  exact hb

theorem decodeAt_of_read {c : Codec α} {record : String} {offset : Nat} {bytes rest : Bytes} {a : α}
    (h : c.read (bytes.drop offset) = some (a, rest)) : c.decodeAt record offset bytes = .ok a := by
  simp only [decodeAt, h]

theorem decode_take {c : Codec α} {record : String} {bytes rest : Bytes} {a : α}
    (h : c.read bytes = some (a, rest)) : c.decode record (bytes.take c.size) = .ok a :=
  decodeAt_of_read (read_take h)

theorem decodeAt_eq_error_iff (c : Codec α) (record : String) (offset : Nat) (bytes : Bytes)
    (e : CaptureError) :
    c.decodeAt record offset bytes = .error e ↔
      bytes.length - offset < c.size ∧
        e = .layoutMismatch record (offset + c.size) bytes.length := by
  have h := c.read_eq_none_iff (bytes.drop offset)
  rw [List.length_drop] at h
  unfold decodeAt
  split
  · next a rest hr =>
    rw [hr] at h
    simp only [reduceCtorEq, false_iff] at h
    simp [h]
  · next hr => simp [h.mp hr, eq_comm]

/-- There is a record to read where there are enough bytes. -/
theorem exists_decodeAt (c : Codec α) (record : String) {offset size : Nat} {bytes : Bytes}
    (hsize : c.size = size) (h : offset + size ≤ bytes.length) :
    ∃ a, c.decodeAt record offset bytes = .ok a := by
  cases hr : c.decodeAt record offset bytes with
  | ok a => exact ⟨a, rfl⟩
  | error e =>
    have := ((c.decodeAt_eq_error_iff record offset bytes e).mp hr).1
    omega

theorem exists_decode (c : Codec α) (record : String) {size : Nat} {bytes : Bytes}
    (hsize : c.size = size) (h : size ≤ bytes.length) : ∃ a, c.decode record bytes = .ok a :=
  c.exists_decodeAt record hsize (by omega)

theorem decode_write_append (c : Codec α) (record : String) (a : α) (rest : Bytes) :
    c.decode record (c.write a ++ rest) = .ok a := by
  simp [decode, decodeAt, c.read_write_append]

theorem decode_write (c : Codec α) (record : String) (a : α) :
    c.decode record (c.write a) = .ok a := by
  simpa using c.decode_write_append record a []

theorem decodeAt_append (c : Codec α) (record : String) (offset : Nat) (bytes rest : Bytes)
    (h : offset + c.size ≤ bytes.length) :
    c.decodeAt record offset (bytes ++ rest) = c.decodeAt record offset bytes := by
  have hdrop : (bytes ++ rest).drop offset = bytes.drop offset ++ rest :=
    List.drop_append_of_le_length (by omega)
  have hnone := c.read_eq_none_iff (bytes.drop offset)
  rw [List.length_drop] at hnone
  cases hr : c.read (bytes.drop offset) with
  | none =>
    rw [hr] at hnone
    simp only [true_iff] at hnone
    omega
  | some p => simp only [decodeAt, hdrop, hr, read_append hr]

theorem decodeAt_write_append (c : Codec α) (record : String) (front : Bytes) (a : α)
    (rest : Bytes) : c.decodeAt record front.length (front ++ (c.write a ++ rest)) = .ok a := by
  simp [decodeAt, c.read_write_append]

/-- What was read at an offset, and that there was room for it. -/
theorem decodeAt_eq_ok {c : Codec α} {record : String} {offset : Nat} {bytes : Bytes} {a : α}
    (h : c.decodeAt record offset bytes = .ok a) :
    c.size ≤ bytes.length - offset ∧
      c.write a = ByteUse.canonicalBlock c.uses (bytes.slice offset c.size) := by
  have hnone := c.read_eq_none_iff (bytes.drop offset)
  rw [List.length_drop] at hnone
  unfold decodeAt at h
  split at h
  · next b rest hr =>
    cases h
    rw [hr] at hnone
    simp only [reduceCtorEq, false_iff, Nat.not_lt] at hnone
    exact ⟨hnone, (read_eq_some hr).2⟩
  · cases h

/-- What is written for a value that was read is what stands there, if every byte counts. -/
theorem write_of_decodeAt {c : Codec α} (hdata : c.uses = List.replicate c.size .data)
    {record : String} {offset : Nat} {bytes : Bytes} {a : α}
    (h : c.decodeAt record offset bytes = .ok a) : c.write a = bytes.slice offset c.size := by
  obtain ⟨-, hw⟩ := decodeAt_eq_ok h
  have hle : (bytes.slice offset c.size).length ≤ c.size := by
    rw [Bytes.length_slice]
    exact Nat.min_le_left _ _
  rw [hw, hdata, ByteUse.canonicalBlock_data hle]

/-- A record that was read is written as it was, each byte in its canonical form. -/
theorem getElem?_write_canonical {c : Codec α} {record : String} {bytes : Bytes} {a : α}
    (h : c.decode record bytes = .ok a) (i : Nat) :
    (c.write a)[i]? = c.uses[i]?.bind fun use => bytes[i]?.map use.canonical := by
  obtain ⟨-, hw⟩ := decodeAt_eq_ok h
  rw [hw, ByteUse.getElem?_canonicalBlock, Bytes.getElem?_slice, Nat.zero_add]
  by_cases hi : i < c.size
  · rw [if_pos hi]
  · have hu : c.uses[i]? = none := List.getElem?_eq_none (Nat.le_of_not_lt hi)
    rw [hu]
    rfl

/-- Only the bytes that are not ignored matter to what is read. -/
theorem decode_congr (c : Codec α) (record : String) {bytes other : Bytes}
    (hb : c.size ≤ bytes.length) (ho : c.size ≤ other.length)
    (h : ∀ i < c.size, c.uses[i]? ≠ some .reserved → bytes[i]? = other[i]?) :
    c.decode record bytes = c.decode record other := by
  obtain ⟨a, ha⟩ := c.exists_decode record rfl hb
  obtain ⟨b, ho'⟩ := c.exists_decode record rfl ho
  have hwrite : c.write a = c.write b := by
    apply List.ext_getElem?
    intro i
    rw [getElem?_write_canonical ha, getElem?_write_canonical ho']
    cases hu : c.uses[i]? with
    | none => rfl
    | some use =>
      have hi : i < c.size := (List.getElem?_eq_some_iff.mp hu).1
      by_cases hr : use = .reserved
      · rw [hr, List.getElem?_eq_getElem (by omega : i < bytes.length),
          List.getElem?_eq_getElem (by omega : i < other.length)]
        rfl
      · rw [h i hi (by rw [hu]; simpa using hr)]
  rw [ha, ho', c.write_injective hwrite]

/-- A record that was read is written as it was, with zeros for the ignored bytes. -/
theorem getElem?_write_of_decode {c : Codec α} {record : String} {bytes : Bytes} {a : α}
    (h : c.decode record bytes = .ok a) {i : Nat} {p : Prop} [Decidable p]
    (hu : c.uses[i]? = some (if p then .reserved else .data)) :
    (c.write a)[i]? = if p then some 0 else bytes[i]? := by
  obtain ⟨hroom, hw⟩ := decodeAt_eq_ok h
  have hi : i < c.size := (List.getElem?_eq_some_iff.mp hu).1
  rw [hw, ByteUse.getElem?_canonicalBlock_of_reserved hu
    (by rw [Bytes.length_slice_of_le (by omega)]; exact hi), Bytes.getElem?_slice, if_pos hi,
    Nat.zero_add]

/-- Where the bytes of a value stand, the value is read. -/
theorem decodeAt_of_slice {c : Codec α} {record : String} {offset : Nat} {bytes : Bytes} {a : α}
    (h : bytes.slice offset c.size = c.write a) : c.decodeAt record offset bytes = .ok a := by
  have hsplit : bytes.drop offset = c.write a ++ (bytes.drop offset).drop c.size := by
    rw [← h]
    exact (List.take_append_drop _ _).symm
  exact decodeAt_of_read (by rw [hsplit, c.read_write_append])

/-! ## Part by part -/

theorem read_pair_eq_some {β : Type} {c : Codec α} {d : Codec β} {bytes rest : Bytes}
    {p : α × β} : (c.pair d).read bytes = some (p, rest) ↔
      ∃ middle, c.read bytes = some (p.1, middle) ∧ d.read middle = some (p.2, rest) := by
  obtain ⟨a, b⟩ := p
  show (match c.read bytes with
    | none => none
    | some (a, rest) =>
      match d.read rest with
      | none => none
      | some (b, rest) => some ((a, b), rest)) = _ ↔ _
  cases hc : c.read bytes with
  | none => simp
  | some first =>
    obtain ⟨x, middle⟩ := first
    cases hd : d.read middle with
    | none => grind
    | some second => grind

theorem read_reserved_eq_some {n : Nat} {bytes rest : Bytes} :
    (reserved n).read bytes = some ((), rest) ↔ n ≤ bytes.length ∧ rest = bytes.drop n := by
  constructor
  · intro h
    obtain ⟨hrest, -⟩ := read_eq_some h
    have hle := size_le_of_read h
    rw [size_reserved] at hrest hle
    exact ⟨hle, hrest⟩
  · rintro ⟨hle, rfl⟩
    cases h : (reserved n).read bytes with
    | none =>
      rw [read_eq_none_iff, size_reserved] at h
      omega
    | some p =>
      obtain ⟨hrest, -⟩ := read_eq_some h
      rw [size_reserved] at hrest
      rw [← hrest]

theorem read_gap_eq_some {c : Codec α} {n : Nat} {bytes rest : Bytes} {a : α} :
    (c.gap n).read bytes = some (a, rest) ↔
      ∃ middle, c.read bytes = some (a, middle) ∧ n ≤ middle.length ∧ rest = middle.drop n := by
  show ((c.pair (reserved n)).read bytes).map (fun p => (p.1.1, p.2)) = _ ↔ _
  rw [Option.map_eq_some_iff]
  constructor
  · rintro ⟨⟨p, tail⟩, h, heq⟩
    cases heq
    obtain ⟨middle, hc, hr⟩ := read_pair_eq_some.mp h
    exact ⟨middle, hc, read_reserved_eq_some.mp hr⟩
  · rintro ⟨middle, hc, hr⟩
    exact ⟨((a, ()), rest), read_pair_eq_some.mpr ⟨middle, hc, read_reserved_eq_some.mpr hr⟩, rfl⟩

theorem read_skip_eq_some {c : Codec α} {n : Nat} {bytes rest : Bytes} {a : α} :
    (skip n c).read bytes = some (a, rest) ↔
      n ≤ bytes.length ∧ c.read (bytes.drop n) = some (a, rest) := by
  show (((reserved n).pair c).read bytes).map (fun p => (p.1.2, p.2)) = _ ↔ _
  rw [Option.map_eq_some_iff]
  constructor
  · rintro ⟨⟨p, tail⟩, h, heq⟩
    cases heq
    obtain ⟨middle, hr, hc⟩ := read_pair_eq_some.mp h
    obtain ⟨hle, rfl⟩ := read_reserved_eq_some.mp hr
    exact ⟨hle, hc⟩
  · rintro ⟨hle, hc⟩
    exact ⟨(((), a), rest), read_pair_eq_some.mpr ⟨_, read_reserved_eq_some.mpr ⟨hle, rfl⟩, hc⟩,
      rfl⟩

/-! ## Records in a row -/

theorem length_writeMany (c : Codec α) (values : List α) :
    (c.writeMany values).length = values.length * c.size := by
  induction values with
  | nil => simp [writeMany]
  | cons a values ih =>
    have ha : (c.write a).length = c.size := c.length_write a
    rw [writeMany] at ih
    rw [writeMany, List.flatMap_cons, List.length_append, ih, ha, List.length_cons, Nat.succ_mul,
      Nat.add_comm]

theorem writeMany_append (c : Codec α) (front rest : List α) :
    c.writeMany (front ++ rest) = c.writeMany front ++ c.writeMany rest :=
  List.flatMap_append

theorem write_array (c : Codec α) : ∀ {n : Nat} (v : Vector α n),
    (c.array n).write v = c.writeMany v.toList
  | 0, v => by
    have hv : v = #v[] := Vector.eq_empty
    rw [hv]
    rfl
  | n + 1, v => by
    have hv : v.toList = v.pop.toList ++ [v[n]] := by
      have hback := v.push_pop_back
      rw [Vector.back] at hback
      conv => lhs; rw [← hback]
      exact Vector.toList_push
    rw [hv, writeMany_append, ← write_array c v.pop]
    simp [array, iso, pair, writeMany]

/-- The first records are written as the first bytes. -/
theorem writeMany_take (c : Codec α) (values : List α) (n : Nat) :
    c.writeMany (values.take n) = (c.writeMany values).take (n * c.size) := by
  induction values generalizing n with
  | nil => simp [writeMany]
  | cons a values ih =>
    cases n with
    | zero => simp [writeMany]
    | succ n =>
      rw [writeMany] at ih
      rw [writeMany, writeMany, List.take_succ_cons, List.flatMap_cons, List.flatMap_cons,
        Nat.succ_mul, Nat.add_comm, ← c.size_write a, List.take_length_add_append, c.size_write,
        ← ih]
      rfl

theorem writeMany_blank {c : Codec α} {blank : α} (h : c.write blank = Bytes.zeros c.size)
    (n : Nat) : c.writeMany (List.replicate n blank) = Bytes.zeros (n * c.size) := by
  induction n with
  | zero => simp [writeMany, Bytes.zeros]
  | succ n ih =>
    rw [writeMany] at ih
    rw [writeMany, List.replicate_succ, List.flatMap_cons, h, ih, ← Bytes.zeros_add, Nat.succ_mul,
      Nat.add_comm]

theorem readMany_writeMany_append (c : Codec α) (values : List α) (rest : Bytes) :
    c.readMany values.length (c.writeMany values ++ rest) = some (values, rest) := by
  induction values with
  | nil => rfl
  | cons a values ih =>
    rw [writeMany] at ih
    simp [writeMany, readMany, c.read_write_append, ih]

theorem readMany_eq_none_iff (c : Codec α) (n : Nat) (bytes : Bytes) :
    c.readMany n bytes = none ↔ bytes.length < n * c.size := by
  induction n generalizing bytes with
  | zero => simp [readMany]
  | succ n ih =>
    have hread := c.read_eq_none_iff bytes
    rw [readMany, Nat.succ_mul]
    split
    · next hr =>
      rw [hr] at hread
      simp only [true_iff] at hread ⊢
      omega
    · next a rest hr =>
      obtain ⟨rfl, -⟩ := read_eq_some hr
      rw [hr] at hread
      simp only [reduceCtorEq, false_iff] at hread
      rw [Option.map_eq_none_iff, ih, List.length_drop]
      omega

/-- Records are read from their own bytes alone. -/
theorem readMany_take {c : Codec α} {n : Nat} {bytes rest : Bytes} {values : List α}
    (h : c.readMany n bytes = some (values, rest)) :
    c.readMany n (bytes.take (n * c.size)) = some (values, []) := by
  induction n generalizing bytes values with
  | zero =>
    cases h
    simp [readMany]
  | succ n ih =>
    rw [readMany] at h
    split at h
    · cases h
    · next a middle hr =>
      obtain ⟨⟨values, tail⟩, hmany, heq⟩ := Option.map_eq_some_iff.mp h
      cases heq
      obtain ⟨rfl, -⟩ := read_eq_some hr
      have hfirst := read_append (read_take hr) ((bytes.drop c.size).take (n * c.size))
      have hsplit : (n + 1) * c.size = c.size + n * c.size := by rw [Nat.succ_mul, Nat.add_comm]
      rw [hsplit, List.take_add, readMany]
      simp [hfirst, ih hmany]

/-- Values that were read are written as the bytes that they were read from. -/
theorem readMany_eq_some {c : Codec α} (hdata : c.uses = List.replicate c.size .data) {n : Nat}
    {bytes rest : Bytes} {values : List α} (h : c.readMany n bytes = some (values, rest)) :
    values.length = n ∧ c.writeMany values = bytes.take (n * c.size) := by
  induction n generalizing bytes values with
  | zero =>
    cases h
    simp [writeMany]
  | succ n ih =>
    rw [readMany] at h
    split at h
    · cases h
    · next a more hr =>
      obtain ⟨⟨values, tail⟩, hmany, heq⟩ := Option.map_eq_some_iff.mp h
      cases heq
      obtain ⟨rfl, hw⟩ := read_eq_some hr
      obtain ⟨hlen, hws⟩ := ih hmany
      have htake : (bytes.take c.size).length ≤ c.size := List.length_take_le c.size bytes
      rw [hdata, ByteUse.canonicalBlock_data htake] at hw
      rw [writeMany] at hws
      refine ⟨congrArg (· + 1) hlen, ?_⟩
      rw [writeMany, List.flatMap_cons, hw, hws, Nat.succ_mul, Nat.add_comm (n * c.size),
        List.take_add]

end CaptureProtocol.Codec

namespace CaptureProtocol.Bytes

/-- The bytes of a whole record, reported as `record` when there are not `size` of them. -/
def finish (bytes : Bytes) (record : String) (size : Nat) : Except CaptureError Bytes :=
  if bytes.length = size then .ok bytes else .error (.layoutMismatch record size bytes.length)

theorem finish_eq_ok {bytes out : Bytes} {record : String} {size : Nat} :
    bytes.finish record size = .ok out ↔ bytes.length = size ∧ bytes = out := by
  unfold finish
  split
  · rename_i h
    simp [h]
  · rename_i h
    simp [h]

end CaptureProtocol.Bytes
