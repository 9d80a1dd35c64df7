import CaptureProtocol.Record.Decode
import CaptureProtocol.Rule

/-!
# Reading with a cursor

A decoder checks once that a record is there and then reads it field by field from a cursor. The
single reads are not checked any more: a cursor that runs out is a fault. Here a fault is a result
of its own, so that a decoder that never runs out can be told from one that does.

* `Cursor.take_bind`, `Cursor.skip_bind`, `Cursor.peek_bind`: steps that do not run out.
* `Cursor.run_within`: **a reader that needs what a format reads does not run out behind a check for
  the size of that format**, and gives what reading the format gives.
* `NeedsExactly`: a decoder that refuses what is shorter than its record, and sees nothing else.
-/

set_option autoImplicit false

namespace CaptureProtocol

/-- What code gives that may fault: nothing after a fault, else a value or an error. -/
abbrev Checked := ExceptT CaptureError Option

/-- What is read from a cursor, which is the bytes that are left. -/
abbrev Cursor := StateT Bytes Checked

variable {α β γ : Type}

/-- The end of code that does what it must not do. -/
def Checked.fault : Checked α := ExceptT.mk none

/-- The `size` bytes at `offset`, reported as `record` when they are not there. -/
def Checked.cut (record : String) (offset size : Nat) (bytes : Bytes) : Checked Bytes :=
  if offset + size ≤ bytes.length then pure (bytes.slice offset size)
  else throw (.layoutMismatch record (offset + size) bytes.length)

/-- Code and what follows it, each without a fault. -/
theorem Checked.run_bind {x : Checked α} {f : α → Checked β} {r : Except CaptureError α}
    {g : α → Except CaptureError β} (hx : x.run = some r)
    (hf : ∀ a, r = .ok a → (f a).run = some (g a)) : (x >>= f).run = some (r >>= g) := by
  obtain rfl : x = ExceptT.mk (some r) := hx
  cases r with
  | error e => rfl
  | ok a => exact hf a rfl

namespace Cursor

/-- The next record of a format. -/
def take (c : Codec α) : Cursor α := fun cursor =>
  match c.read cursor with
  | some p => pure p
  | none => Checked.fault

/-- Passes over `n` bytes. -/
def skip (n : Nat) : Cursor Unit := fun cursor =>
  if n ≤ cursor.length then pure ((), cursor.drop n) else Checked.fault

/-- The next `n` bytes, without passing over them. -/
def peek (n : Nat) : Cursor Bytes := fun cursor =>
  if n ≤ cursor.length then pure (cursor.take n, cursor) else Checked.fault

/-- The next `n` records of a format. -/
def takeMany (c : Codec α) : Nat → Cursor (List α)
  | 0 => pure []
  | n + 1 => do
    let a ← take c
    let rest ← takeMany c n
    pure (a :: rest)

/-- What is read from the `size` bytes at `offset`, once they are known to be there. -/
def within (r : Cursor α) (record : String) (offset size : Nat) (bytes : Bytes) : Checked α := do
  let block ← Checked.cut record offset size bytes
  r.run' block

/-- A value or an error with the bytes that are left after a value. -/
def done (x : Except CaptureError α) (rest : Bytes) : Checked (α × Bytes) :=
  ExceptT.mk (some (x.map (·, rest)))

/-! ## Steps that do not run out -/

theorem take_eq {c : Codec α} {cursor rest : Bytes} {a : α} (h : c.read cursor = some (a, rest)) :
    take c cursor = done (.ok a) rest := by
  rw [take, h]
  rfl

theorem take_bind {c : Codec α} {cursor rest : Bytes} {a : α} (h : c.read cursor = some (a, rest))
    (f : α → Cursor β) : (take c >>= f) cursor = f a rest := by
  show (take c cursor >>= fun p => f p.1 p.2) = _
  rw [take, h]
  rfl

theorem skip_bind {n : Nat} {cursor : Bytes} (h : n ≤ cursor.length) (f : Unit → Cursor β) :
    (skip n >>= f) cursor = f () (cursor.drop n) := by
  show (skip n cursor >>= fun p => f p.1 p.2) = _
  rw [skip, if_pos h]
  rfl

theorem peek_bind {n : Nat} {cursor : Bytes} (h : n ≤ cursor.length) (f : Bytes → Cursor β) :
    (peek n >>= f) cursor = f (cursor.take n) cursor := by
  show (peek n cursor >>= fun p => f p.1 p.2) = _
  rw [peek, if_pos h]
  rfl

/-! ## Steps that may be refused -/

theorem check_eq (x : Except CaptureError α) (cursor : Bytes) :
    (liftM x : Cursor α) cursor = done x cursor := by
  cases x <;> rfl

theorem rule_eq (x : Except ConfigViolation α) (cursor : Bytes) :
    (liftM x : Cursor α) cursor = done (CaptureError.ofRule x) cursor := by
  cases x <;> rfl

theorem lift_eq {x : Checked α} {result : Except CaptureError α} (h : x.run = some result)
    (cursor : Bytes) : (liftM x : Cursor α) cursor = done result cursor := by
  obtain rfl : x = ExceptT.mk (some result) := h
  cases result <;> rfl

/-- A step and what follows it, each with its own result. -/
theorem bind_eq_done {r : Cursor α} {f : α → Cursor β} {x : Except CaptureError α}
    {g : α → Except CaptureError β} {cursor middle rest : Bytes} (hr : r cursor = done x middle)
    (hf : ∀ a, f a middle = done (g a) rest) : (r >>= f) cursor = done (x >>= g) rest := by
  show (r cursor >>= fun p => f p.1 p.2) = _
  rw [hr]
  cases x with
  | error e => rfl
  | ok a => exact hf a

/-- The same where only rules are refused. -/
theorem bind_eq_done_rule {r : Cursor α} {f : α → Cursor β} {x : Except ConfigViolation α}
    {g : α → Except ConfigViolation β} {cursor middle rest : Bytes}
    (hr : r cursor = done (CaptureError.ofRule x) middle)
    (hf : ∀ a, f a middle = done (CaptureError.ofRule (g a)) rest) :
    (r >>= f) cursor = done (CaptureError.ofRule (x >>= g)) rest := by
  rw [CaptureError.ofRule_bind]
  exact bind_eq_done hr hf

/-- Rules may be checked before the value that they are checked for is there. -/
theorem enforce_bind_eq_done {rules : List Rule} {n : α} {f : α → Cursor β} {a : γ}
    {g : γ → Except ConfigViolation β} {cursor rest : Bytes}
    (hf : f n cursor = done (CaptureError.ofRule (g a)) rest) :
    ((liftM (Rule.enforce rules fun _ => n) : Cursor α) >>= f) cursor =
      done (CaptureError.ofRule (Rule.enforce rules (fun _ => a) >>= g)) rest := by
  simp only [Rule.enforce_const]
  cases Rule.firstBroken rules with
  | none => exact hf
  | some r => rfl

theorem takeMany_eq {c : Codec α} {n : Nat} {cursor rest : Bytes} {values : List α}
    (h : c.readMany n cursor = some (values, rest)) :
    takeMany c n cursor = done (.ok values) rest := by
  induction n generalizing cursor values with
  | zero =>
    cases h
    rfl
  | succ n ih =>
    rw [Codec.readMany] at h
    split at h
    · cases h
    · next a middle hr =>
      obtain ⟨⟨values, tail⟩, hmany, heq⟩ := Option.map_eq_some_iff.mp h
      cases heq
      rw [takeMany, take_bind hr]
      exact bind_eq_done (g := fun values => .ok (a :: values)) (ih hmany) fun _ => rfl

/-! ## Reading behind a check -/

/--
**A reader that needs what a format reads does not run out** behind a check for the size of that
format. What it gives is what reading the format gives, and what is made of that.
-/
theorem run_within {c : Codec α} {size : Nat} (hsize : c.size = size) (hpos : 0 < size)
    {r : Cursor β} {f : α → Except CaptureError β}
    (h : ∀ cursor a rest, c.read cursor = some (a, rest) → ∃ left, r cursor = done (f a) left)
    (record : String) (offset : Nat) (bytes : Bytes) :
    (r.within record offset size bytes).run = some (c.decodeAt record offset bytes >>= f) := by
  subst hsize
  cases hread : c.read (bytes.drop offset) with
  | none =>
    have hshort := (c.read_eq_none_iff _).mp hread
    rw [List.length_drop] at hshort
    have herror := (c.decodeAt_eq_error_iff record offset bytes _).mpr ⟨hshort, rfl⟩
    rw [within, Checked.cut, if_neg (by omega), herror]
    rfl
  | some p =>
    obtain ⟨a, rest⟩ := p
    have hfit := Codec.size_le_of_read hread
    rw [List.length_drop] at hfit
    obtain ⟨left, hr⟩ := h _ _ _ (Codec.read_take hread)
    rw [within, Checked.cut, if_pos (by omega), Codec.decodeAt_of_read hread]
    show (r (bytes.slice offset c.size) >>= fun p => pure p.1).run = some (f a)
    rw [Bytes.slice, hr]
    cases f a <;> rfl

end Cursor

/-! ## What a decoder needs -/

/-- The bytes were too few. -/
def Misfits (result : Except CaptureError α) : Prop :=
  ∃ record expected actual, result = .error (.layoutMismatch record expected actual)

theorem not_misfits_ofRule (x : Except ConfigViolation α) : ¬ Misfits (CaptureError.ofRule x) := by
  rintro ⟨_, _, _, h⟩
  cases x <;> cases h

theorem not_misfits_bind {x : Except CaptureError α} {f : α → Except CaptureError β}
    (hx : ¬ Misfits x) (hf : ∀ a, ¬ Misfits (f a)) : ¬ Misfits (x >>= f) := by
  cases x with
  | error e =>
    rintro ⟨record, expected, actual, h⟩
    cases h
    exact hx ⟨record, expected, actual, rfl⟩
  | ok a => exact hf a

/-- A decoder that refuses what is shorter than its record as such, and looks at nothing else. -/
structure NeedsExactly (decode : Bytes → Except CaptureError α) (record : String) (size : Nat) :
    Prop where
  short : ∀ bytes, bytes.length < size →
    decode bytes = .error (.layoutMismatch record size bytes.length)
  long : ∀ bytes, size ≤ bytes.length → ¬ Misfits (decode bytes)
  append : ∀ bytes rest, size ≤ bytes.length → decode (bytes ++ rest) = decode bytes

/-- What is too few is all that lacks bytes. -/
theorem NeedsExactly.misfits_iff {decode : Bytes → Except CaptureError α} {record : String}
    {size : Nat} (h : NeedsExactly decode record size) (bytes : Bytes) :
    Misfits (decode bytes) ↔ bytes.length < size := by
  constructor
  · intro hm
    exact Nat.lt_of_not_le fun hle => h.long bytes hle hm
  · intro hlt
    exact ⟨_, _, _, h.short bytes hlt⟩

/-- Decoders that read one format at its place and do not find bytes missing later. -/
theorem needsExactly_decodeAt_bind {c : Codec α} {offset size : Nat}
    (hsize : offset + c.size = size) (hpos : offset = 0 ∨ 0 < c.size)
    {f : α → Except CaptureError β} (hf : ∀ a, ¬ Misfits (f a)) (record : String) :
    NeedsExactly (fun bytes => c.decodeAt record offset bytes >>= f) record size where
  short bytes h := by
    have herror := (c.decodeAt_eq_error_iff record offset bytes _).mpr ⟨by omega, rfl⟩
    rw [hsize] at herror
    rw [herror]
    rfl
  long bytes h := by
    refine not_misfits_bind ?_ hf
    rintro ⟨_, _, _, herror⟩
    have hshort := ((c.decodeAt_eq_error_iff _ _ _ _).mp herror).1
    omega
  append bytes rest h := by
    rw [c.decodeAt_append record offset bytes rest (by omega)]

/-- Decoders that read one format from the front. -/
theorem needsExactly_decode_bind {c : Codec α} {size : Nat} (hsize : c.size = size)
    {f : α → Except CaptureError β} (hf : ∀ a, ¬ Misfits (f a)) (record : String) :
    NeedsExactly (fun bytes => c.decode record bytes >>= f) record size :=
  needsExactly_decodeAt_bind ((Nat.zero_add c.size).trans hsize) (.inl rfl) hf record

end CaptureProtocol
