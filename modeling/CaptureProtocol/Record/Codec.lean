import CaptureProtocol.Record.Bytes

/-!
# Fixed-size record formats

A `Codec α` is the byte format of a record that holds a value of type `α`: how long it is, what each
of its bytes is for, and how a value is written and read. Formats are built from words by sequencing
(`pair`), repetition (`array`), reserved space (`gap`) and change of representation (`iso`), and
each builder carries the laws along.

* `read_write_append`: a written value is read back, whatever follows it.
* `exists_read`: every block of the right length can be read, and writing what was read gives the
  block again with its reserved bytes zero and its truth values zero or one.
* `read_of_short`: nothing is read from a block that is too short.
-/

set_option autoImplicit false

namespace CaptureProtocol

/-- What a record does with one of its bytes. -/
inductive ByteUse where
  /-- Every value of the byte counts and is written back as it was read. -/
  | data
  /-- The byte is ignored when read and zero when written. -/
  | reserved
  /-- Zero reads as false and any other value as true; written as zero or one. -/
  | truth
  deriving DecidableEq, Repr

/-- The byte that writing what was read from `b` gives. -/
def ByteUse.canonical : ByteUse → UInt8 → UInt8
  | .data, b => b
  | .reserved, _ => 0
  | .truth, b => if b = 0 then 0 else 1

/-- A block of bytes with each byte replaced by its canonical value. -/
def ByteUse.canonicalBlock (uses : List ByteUse) (block : Bytes) : Bytes :=
  List.zipWith ByteUse.canonical uses block

namespace ByteUse

theorem getElem?_canonicalBlock (uses : List ByteUse) (block : Bytes) (i : Nat) :
    (canonicalBlock uses block)[i]? =
      uses[i]?.bind fun use => block[i]?.map use.canonical := by
  rw [canonicalBlock, List.getElem?_zipWith]
  cases uses[i]? with
  | none => rfl
  | some use => cases block[i]? <;> rfl

/-- Of data and ignored bytes the ignored ones become zero. -/
theorem getElem?_canonicalBlock_of_reserved {uses : List ByteUse} {block : Bytes} {i : Nat}
    {p : Prop} [Decidable p] (hu : uses[i]? = some (if p then .reserved else .data))
    (hi : i < block.length) :
    (canonicalBlock uses block)[i]? = if p then some 0 else block[i]? := by
  rw [getElem?_canonicalBlock, hu, List.getElem?_eq_getElem hi]
  by_cases hp : p <;> simp [hp, canonical]

theorem canonicalBlock_append {uses₁ uses₂ : List ByteUse} {block₁ block₂ : Bytes}
    (h : uses₁.length = block₁.length) :
    canonicalBlock (uses₁ ++ uses₂) (block₁ ++ block₂) =
      canonicalBlock uses₁ block₁ ++ canonicalBlock uses₂ block₂ :=
  List.zipWith_append h

/-- A block without reserved bytes and truth values is canonical as it is. -/
theorem canonicalBlock_data {n : Nat} {block : Bytes} (h : block.length ≤ n) :
    canonicalBlock (List.replicate n .data) block = block := by
  induction block generalizing n with
  | nil => simp [canonicalBlock]
  | cons b block ih =>
    obtain ⟨n, rfl⟩ := Nat.exists_eq_succ_of_ne_zero (Nat.ne_zero_of_lt h)
    exact congrArg (b :: ·) (ih (Nat.le_of_succ_le_succ h))

end ByteUse

/-- The byte format of a record that holds a value of type `α`. -/
structure Codec (α : Type) where
  /-- What each byte is for; the record is as long as this list. -/
  uses : List ByteUse
  /-- The bytes of a value. -/
  write : α → Bytes
  /-- The value at the front of some bytes and the bytes after it; nothing if they are too few. -/
  read : Bytes → Option (α × Bytes)
  length_write : ∀ a, (write a).length = uses.length
  read_write_append : ∀ a rest, read (write a ++ rest) = some (a, rest)
  exists_read : ∀ block rest, block.length = uses.length →
    ∃ a, read (block ++ rest) = some (a, rest) ∧ write a = ByteUse.canonicalBlock uses block
  read_of_short : ∀ bytes, bytes.length < uses.length → read bytes = none

namespace Codec

variable {α β : Type}

/-- The length of the record in bytes. -/
def size (c : Codec α) : Nat := c.uses.length

/-- One byte. -/
def u8 : Codec UInt8 where
  uses := [.data]
  write b := [b]
  read
    | [] => none
    | b :: rest => some (b, rest)
  length_write _ := rfl
  read_write_append _ _ := rfl
  exists_read block rest h := by
    match block, h with
    | [b], _ => exact ⟨b, rfl, rfl⟩
  read_of_short bytes h := by
    match bytes, h with
    | [], _ => rfl

/-- One byte that holds a truth value. -/
def truth : Codec Bool where
  uses := [.truth]
  write b := [if b then 1 else 0]
  read
    | [] => none
    | b :: rest => some (b != 0, rest)
  length_write _ := rfl
  read_write_append b _ := by cases b <;> rfl
  exists_read block rest h := by
    match block, h with
    | [b], _ =>
      refine ⟨b != 0, rfl, ?_⟩
      by_cases hb : b = 0 <;> simp [ByteUse.canonicalBlock, ByteUse.canonical, hb]
  read_of_short bytes h := by
    match bytes, h with
    | [], _ => rfl

/-- Nothing at all: the empty record. -/
def nothing : Codec Unit where
  uses := []
  write _ := []
  read bytes := some ((), bytes)
  length_write _ := rfl
  read_write_append _ _ := rfl
  exists_read block rest h := by
    rw [List.length_eq_zero_iff.mp h]
    exact ⟨(), rfl, rfl⟩
  read_of_short _ h := absurd h (Nat.not_lt_zero _)

/-- One record after another. -/
def pair (c : Codec α) (d : Codec β) : Codec (α × β) where
  uses := c.uses ++ d.uses
  write p := c.write p.1 ++ d.write p.2
  read bytes :=
    match c.read bytes with
    | none => none
    | some (a, rest) =>
      match d.read rest with
      | none => none
      | some (b, rest) => some ((a, b), rest)
  length_write p := by simp [c.length_write, d.length_write]
  read_write_append p rest := by
    simp only [List.append_assoc, c.read_write_append, d.read_write_append]
  exists_read block rest h := by
    rw [List.length_append] at h
    obtain ⟨a, ha, hwa⟩ := c.exists_read (block.take c.uses.length)
      (block.drop c.uses.length ++ rest) (by rw [List.length_take]; omega)
    obtain ⟨b, hb, hwb⟩ := d.exists_read (block.drop c.uses.length) rest
      (by rw [List.length_drop]; omega)
    refine ⟨(a, b), ?_, ?_⟩
    · rw [← List.append_assoc, List.take_append_drop] at ha
      simp only [ha, hb]
    · show c.write a ++ d.write b = _
      rw [hwa, hwb]
      conv => rhs; rw [← List.take_append_drop c.uses.length block]
      unfold ByteUse.canonicalBlock
      rw [List.zipWith_append (by rw [List.length_take]; omega)]
  read_of_short bytes h := by
    rw [List.length_append] at h
    by_cases hc : bytes.length < c.uses.length
    · simp only [c.read_of_short bytes hc]
    · obtain ⟨a, ha, -⟩ := c.exists_read (bytes.take c.uses.length) (bytes.drop c.uses.length)
        (by rw [List.length_take]; omega)
      rw [List.take_append_drop] at ha
      simp only [ha, d.read_of_short (bytes.drop c.uses.length) (by rw [List.length_drop]; omega)]

/-- The same bytes read as another type. -/
def iso (c : Codec α) (into : α → β) (back : β → α) (back_into : ∀ a, back (into a) = a)
    (into_back : ∀ b, into (back b) = b) : Codec β where
  uses := c.uses
  write b := c.write (back b)
  read bytes := (c.read bytes).map fun p => (into p.1, p.2)
  length_write b := c.length_write (back b)
  read_write_append b rest := by simp [c.read_write_append, into_back]
  exists_read block rest h := by
    obtain ⟨a, ha, hw⟩ := c.exists_read block rest h
    exact ⟨into a, by simp [ha], by rw [back_into]; exact hw⟩
  read_of_short bytes h := by simp [c.read_of_short bytes h]

/-- One reserved byte. -/
def reservedByte : Codec Unit where
  uses := [.reserved]
  write _ := [0]
  read
    | [] => none
    | _ :: rest => some ((), rest)
  length_write _ := rfl
  read_write_append _ _ := rfl
  exists_read block rest h := by
    match block, h with
    | [_], _ => exact ⟨(), rfl, rfl⟩
  read_of_short bytes h := by
    match bytes, h with
    | [], _ => rfl

/-- A run of `n` reserved bytes. -/
def reserved : Nat → Codec Unit
  | 0 => nothing
  | n + 1 => (reservedByte.pair (reserved n)).iso (fun _ => ()) (fun _ => ((), ()))
      (fun _ => rfl) (fun _ => rfl)

/-- A record followed by `n` reserved bytes. -/
def gap (c : Codec α) (n : Nat) : Codec α :=
  (c.pair (reserved n)).iso Prod.fst (fun a => (a, ())) (fun _ => rfl) (fun _ => rfl)

/-- `n` reserved bytes followed by a record. -/
def skip (n : Nat) (c : Codec α) : Codec α :=
  ((reserved n).pair c).iso Prod.snd (fun a => ((), a)) (fun _ => rfl) (fun _ => rfl)

/-- `n` records of one format in a row. -/
def array (c : Codec α) : (n : Nat) → Codec (Vector α n)
  | 0 => nothing.iso (fun _ => #v[]) (fun _ => ()) (fun _ => rfl) (fun v => by
      simp)
  | n + 1 => ((array c n).pair c).iso (fun p => p.1.push p.2) (fun v => (v.pop, v[n]))
      (fun p => by simp) (fun v => by
        have h := v.push_pop_back
        simpa [Vector.back] using h)

/-! ## Sizes -/

theorem size_u8 : u8.size = 1 := rfl

theorem size_truth : truth.size = 1 := rfl

theorem size_pair (c : Codec α) (d : Codec β) : (c.pair d).size = c.size + d.size :=
  List.length_append

theorem size_iso (c : Codec α) (into : α → β) (back : β → α) (h₁ : ∀ a, back (into a) = a)
    (h₂ : ∀ b, into (back b) = b) : (c.iso into back h₁ h₂).size = c.size := rfl

theorem size_reserved : ∀ n, (reserved n).size = n
  | 0 => rfl
  | n + 1 => by rw [reserved, size_iso, size_pair, size_reserved n, Nat.add_comm]; rfl

theorem size_gap (c : Codec α) (n : Nat) : (c.gap n).size = c.size + n := by
  rw [gap, size_iso, size_pair, size_reserved]

theorem size_skip (n : Nat) (c : Codec α) : (skip n c).size = n + c.size := by
  rw [skip, size_iso, size_pair, size_reserved]

theorem size_array (c : Codec α) : ∀ n, (c.array n).size = n * c.size
  | 0 => (Nat.zero_mul _).symm
  | n + 1 => by rw [array, size_iso, size_pair, size_array c n, Nat.succ_mul]

/-! ## Uses -/

theorem uses_pair (c : Codec α) (d : Codec β) : (c.pair d).uses = c.uses ++ d.uses := rfl

theorem uses_reserved : ∀ n, (reserved n).uses = List.replicate n .reserved
  | 0 => rfl
  | n + 1 => congrArg (ByteUse.reserved :: ·) (uses_reserved n)

theorem uses_gap (c : Codec α) (n : Nat) :
    (c.gap n).uses = c.uses ++ List.replicate n .reserved :=
  congrArg (c.uses ++ ·) (uses_reserved n)

/-! ## Written bytes -/

theorem size_write (c : Codec α) (a : α) : (c.write a).length = c.size := c.length_write a

theorem write_pair (c : Codec α) (d : Codec β) (p : α × β) :
    (c.pair d).write p = c.write p.1 ++ d.write p.2 := rfl

/-- Reserved bytes are written as zeros. -/
theorem write_reserved : ∀ n, (reserved n).write () = Bytes.zeros n
  | 0 => rfl
  | n + 1 => by
    show 0 :: (reserved n).write () = _
    rw [write_reserved n]
    rfl

theorem write_gap (c : Codec α) (n : Nat) (a : α) :
    (c.gap n).write a = c.write a ++ Bytes.zeros n := by
  rw [← write_reserved]
  rfl

end Codec

end CaptureProtocol
