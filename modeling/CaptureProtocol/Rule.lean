import CaptureProtocol.Error
import CaptureProtocol.Layout

/-!
# Configuration rules

A rule is a condition together with the violation that is reported when it does not hold. The rules
of a value stand in a list; the first broken one is reported, and a value that passes carries the
proof that it does.

* `enforce_eq_ok`: a value is built exactly when every rule holds.
* `enforce_eq_error`: what is reported is the violation of the first rule that does not hold.
* `nonZero_holds`, `aligned_holds`, `atMost_holds` and the like: what each rule asks of the numbers.
-/

set_option autoImplicit false

namespace CaptureProtocol

/-- A condition and what to report when it does not hold. -/
structure Rule where
  holds : Bool
  violation : ConfigViolation

namespace Rule

/-- Every rule of the list holds. -/
def Accepted (rules : List Rule) : Prop := ∀ r ∈ rules, r.holds = true

instance (rules : List Rule) : Decidable (Accepted rules) :=
  inferInstanceAs (Decidable (∀ r ∈ rules, r.holds = true))

/-- The first rule of the list that does not hold. -/
def firstBroken (rules : List Rule) : Option Rule := rules.find? fun r => !r.holds

theorem firstBroken_eq_none {rules : List Rule} : firstBroken rules = none ↔ Accepted rules := by
  simp [firstBroken, Accepted]

/-- The value built from the proof that every rule holds, or else the first violation. -/
def enforce {α : Type} (rules : List Rule) (make : Accepted rules → α) :
    Except ConfigViolation α :=
  match h : firstBroken rules with
  | none => .ok (make (firstBroken_eq_none.mp h))
  | some r => .error r.violation

theorem enforce_of_accepted {α : Type} {rules : List Rule} (make : Accepted rules → α)
    (h : Accepted rules) : enforce rules make = .ok (make h) := by
  unfold enforce
  split
  · rfl
  · next r hr => rw [firstBroken_eq_none.mpr h] at hr; cases hr

theorem enforce_eq_ok {α : Type} {rules : List Rule} {make : Accepted rules → α} {a : α} :
    enforce rules make = .ok a ↔ ∃ h : Accepted rules, make h = a := by
  constructor
  · intro he
    unfold enforce at he
    split at he
    · next h => exact ⟨firstBroken_eq_none.mp h, Except.ok.inj he⟩
    · cases he
  · rintro ⟨h, rfl⟩
    exact enforce_of_accepted make h

theorem enforce_eq_error {α : Type} {rules : List Rule} {make : Accepted rules → α}
    {violation : ConfigViolation} :
    enforce rules make = .error violation ↔
      ∃ r, firstBroken rules = some r ∧ r.violation = violation := by
  unfold enforce
  split
  · next h => simp [h]
  · next r h => simp [h]

/-- The first rule of the list is looked at first. -/
theorem enforce_of_broken {α : Type} {r : Rule} (h : r.holds = false) (rules : List Rule)
    (make : Accepted (r :: rules) → α) : enforce (r :: rules) make = .error r.violation :=
  enforce_eq_error.mpr ⟨r, by simp [firstBroken, h], rfl⟩

/-- What is reported is the violation of a rule that does not hold. -/
theorem broken_of_enforce {α : Type} {rules : List Rule} {make : Accepted rules → α}
    {violation : ConfigViolation} (h : enforce rules make = .error violation) :
    ∃ r ∈ rules, r.holds = false ∧ r.violation = violation := by
  obtain ⟨r, hr, hv⟩ := enforce_eq_error.mp h
  have hbroken := List.find?_some hr
  exact ⟨r, List.mem_of_find?_eq_some hr, by simpa using hbroken, hv⟩

/-- What is done under some rules succeeds exactly when they hold and it succeeds itself. -/
theorem enforce_bind_eq_ok {α β : Type} {rules : List Rule} {make : Accepted rules → α}
    {f : α → Except CaptureError β} {b : β} :
    (CaptureError.ofRule (enforce rules make) >>= f) = .ok b ↔
      ∃ h : Accepted rules, f (make h) = .ok b := by
  rw [CaptureError.bind_eq_ok]
  constructor
  · rintro ⟨a, ha, hf⟩
    obtain ⟨h, rfl⟩ := enforce_eq_ok.mp (CaptureError.ofRule_eq_ok.mp ha)
    exact ⟨h, hf⟩
  · rintro ⟨h, hf⟩
    exact ⟨_, CaptureError.ofRule_eq_ok.mpr (enforce_of_accepted make h), hf⟩

theorem accepted_nil : Accepted [] := by simp [Accepted]

theorem accepted_cons {r : Rule} {rules : List Rule} :
    Accepted (r :: rules) ↔ r.holds = true ∧ Accepted rules := by
  simp [Accepted]

theorem accepted_append {rules₁ rules₂ : List Rule} :
    Accepted (rules₁ ++ rules₂) ↔ Accepted rules₁ ∧ Accepted rules₂ := by
  simp only [Accepted, List.mem_append]
  constructor
  · intro h
    exact ⟨fun r hr => h r (.inl hr), fun r hr => h r (.inr hr)⟩
  · rintro ⟨h₁, h₂⟩ r (hr | hr)
    · exact h₁ r hr
    · exact h₂ r hr

theorem accepted_flatMap {α : Type} {values : List α} {rules : α → List Rule} :
    Accepted (values.flatMap rules) ↔ ∀ value ∈ values, Accepted (rules value) := by
  simp only [Accepted, List.mem_flatMap]
  constructor
  · intro h value hv r hr
    exact h r ⟨value, hv, hr⟩
  · rintro h r ⟨value, hv, hr⟩
    exact h value hv r hr

theorem accepted_map {α : Type} {values : List α} {rule : α → Rule} :
    Accepted (values.map rule) ↔ ∀ value ∈ values, (rule value).holds = true := by
  simp [Accepted]

theorem firstBroken_append (rules₁ rules₂ : List Rule) :
    firstBroken (rules₁ ++ rules₂) = (firstBroken rules₁).or (firstBroken rules₂) :=
  List.find?_append

theorem enforce_const {α : Type} (rules : List Rule) (a : α) :
    enforce rules (fun _ => a) =
      match firstBroken rules with
      | none => .ok a
      | some r => .error r.violation := by
  unfold enforce
  split
  · next h => simp only [h]
  · next r h => simp only [h]

/-- Rules one after another are checked one after another. -/
theorem enforce_append {α : Type} (rules₁ rules₂ : List Rule) (a : α) :
    enforce (rules₁ ++ rules₂) (fun _ => a) =
      enforce rules₁ (fun _ => ()) >>= fun _ => enforce rules₂ fun _ => a := by
  simp only [enforce_const, firstBroken_append]
  cases firstBroken rules₁ <;> rfl

/-! ## Single rules -/

/-- The address is set. -/
def nonZero (field : String) (value : UInt64) : Rule :=
  ⟨value != 0, .zeroAddress field⟩

theorem nonZero_holds {field : String} {value : UInt64} :
    (nonZero field value).holds = true ↔ value.toNat ≠ 0 := by
  rw [nonZero, bne_iff_ne, ne_eq, ← UInt64.toNat_inj]
  rfl

/-- The value is a multiple of `align`, a power of two. -/
def aligned (field : String) (value align : UInt64) : Rule :=
  ⟨Layout.isAligned value align, .misaligned field value align⟩

theorem aligned_holds {field : String} {value align : UInt64} (h : align.toNat.isPowerOfTwo) :
    (aligned field value align).holds = true ↔ align.toNat ∣ value.toNat :=
  Layout.isAligned_iff h

/-- The value does not exceed `max`. -/
def atMost (field : String) (value max : UInt64) : Rule :=
  ⟨decide (value ≤ max), .fieldOutOfRange field value max⟩

theorem atMost_holds {field : String} {value max : UInt64} :
    (atMost field value max).holds = true ↔ value.toNat ≤ max.toNat := by
  rw [atMost, decide_eq_true_iff, UInt64.le_iff_toNat_le]

/-- There are at most `max` things. -/
def noMoreThan (field : String) (count max : Nat) : Rule :=
  ⟨decide (count ≤ max), .fieldOutOfRange field (UInt64.ofNat count) (UInt64.ofNat max)⟩

theorem accepted_noMoreThan {field : String} {count max : Nat} :
    Accepted [noMoreThan field count max] ↔ count ≤ max := by
  rw [accepted_cons]
  exact (and_iff_left accepted_nil).trans decide_eq_true_iff

/-- The entry holds a record of `min` bytes. -/
def holdsRecord (field : String) (size min : UInt32) : Rule :=
  ⟨decide (min ≤ size), .entryTooSmall field size min⟩

theorem holdsRecord_holds {field : String} {size min : UInt32} :
    (holdsRecord field size min).holds = true ↔ min.toNat ≤ size.toNat := by
  rw [holdsRecord, decide_eq_true_iff, UInt32.le_iff_toNat_le]

/-- The queue has at least one slot and at most `max`. -/
def depth (field : String) (depth max : UInt32) : Rule :=
  ⟨decide (Layout.minQueueDepth ≤ depth) && decide (depth ≤ max),
    .queueDepthOutOfRange field depth Layout.minQueueDepth max⟩

theorem depth_holds {field : String} {count max : UInt32} :
    (depth field count max).holds = true ↔ 1 ≤ count.toNat ∧ count.toNat ≤ max.toNat := by
  rw [depth, Bool.and_eq_true, decide_eq_true_iff, decide_eq_true_iff, UInt32.le_iff_toNat_le,
    UInt32.le_iff_toNat_le]
  rfl

/-- The condition holds; `reason` says what contradicts what when it does not. -/
def consistent (reason : String) (condition : Bool) : Rule :=
  ⟨condition, .inconsistent reason⟩

/-- A flag that is set asks for a condition. -/
theorem consistent_holds {reason : String} {flag condition : Bool} :
    (consistent reason (!flag || condition)).holds = true ↔ (flag = true → condition = true) := by
  cases flag <;> simp [consistent]

/-! ## Groups of rules -/

/-- A ring's base address is set and aligned for descriptors. -/
def ringBase (field : String) (base : UInt64) : List Rule :=
  [nonZero field base, aligned field base Layout.descriptorAlign]

theorem accepted_ringBase {field : String} {base : UInt64} :
    Accepted (ringBase field base) ↔ base.toNat ≠ 0 ∧ 64 ∣ base.toNat := by
  rw [ringBase, accepted_cons, accepted_cons, nonZero_holds,
    aligned_holds (show Layout.descriptorAlign.toNat.isPowerOfTwo from ⟨6, rfl⟩)]
  exact and_congr_right fun _ => and_iff_left accepted_nil

/-- A ring's entries are aligned for descriptors and hold a record of `min` bytes. -/
def ringEntry (field : String) (size min : UInt32) : List Rule :=
  [aligned field size.toUInt64 Layout.descriptorAlign, holdsRecord field size min]

theorem accepted_ringEntry {field : String} {size min : UInt32} :
    Accepted (ringEntry field size min) ↔ 64 ∣ size.toNat ∧ min.toNat ≤ size.toNat := by
  rw [ringEntry, accepted_cons, accepted_cons, holdsRecord_holds,
    aligned_holds (show Layout.descriptorAlign.toNat.isPowerOfTwo from ⟨6, rfl⟩),
    UInt32.toNat_toUInt64]
  exact and_congr_right fun _ => and_iff_left accepted_nil

/-- A whole ring of `depth` entries fits the largest ring. -/
def ringBytes (field : String) (depth entry : UInt32) : Rule :=
  atMost field (depth.toUInt64 * entry.toUInt64) Layout.maxRingBytes

theorem ringBytes_holds {field : String} {depth entry : UInt32} :
    (ringBytes field depth entry).holds = true ↔ depth.toNat * entry.toNat ≤ 0x1000000 := by
  have hlt : depth.toNat * entry.toNat < 2 ^ 32 * 2 ^ 32 :=
    Nat.mul_lt_mul'' depth.toNat_lt entry.toNat_lt
  have hmul : (depth.toUInt64 * entry.toUInt64).toNat = depth.toNat * entry.toNat := by
    rw [UInt64.toNat_mul, UInt32.toNat_toUInt64, UInt32.toNat_toUInt64]
    exact Nat.mod_eq_of_lt hlt
  rw [ringBytes, atMost, decide_eq_true_iff, UInt64.le_iff_toNat_le, hmul]
  rfl

/-- There are at most `max` Grid-of-Semaphores tables, each one set and aligned. -/
def gosTables (field : String) (tables : List UInt64) (max : Nat) : List Rule :=
  ⟨decide (tables.length ≤ max), .tooManyGosTables tables.length max⟩ ::
    tables.flatMap fun table => [nonZero field table, aligned field table Layout.gosTableAlign]

theorem accepted_gosTables {field : String} {tables : List UInt64} {max : Nat} :
    Accepted (gosTables field tables max) ↔
      tables.length ≤ max ∧ ∀ table ∈ tables, table.toNat ≠ 0 ∧ 256 ∣ table.toNat := by
  have htable : ∀ table : UInt64,
      Accepted [nonZero field table, aligned field table Layout.gosTableAlign] ↔
        table.toNat ≠ 0 ∧ 256 ∣ table.toNat := by
    intro table
    rw [accepted_cons, accepted_cons, nonZero_holds,
      aligned_holds (show Layout.gosTableAlign.toNat.isPowerOfTwo from ⟨8, rfl⟩)]
    exact and_congr_right fun _ => and_iff_left accepted_nil
  rw [gosTables, accepted_cons, decide_eq_true_iff, accepted_flatMap]
  simp only [htable]

/-- A memory-info surface has an aligned base and size, and a base if it has a size. -/
def surface (field : String) (base size : UInt64) : List Rule :=
  [aligned field base Layout.surfaceAlign, aligned field size Layout.surfaceAlign,
    ⟨size == 0 || base != 0, .zeroAddress field⟩]

theorem accepted_surface {field : String} {base size : UInt64} :
    Accepted (surface field base size) ↔
      16 ∣ base.toNat ∧ 16 ∣ size.toNat ∧ (size.toNat ≠ 0 → base.toNat ≠ 0) := by
  have hbase : (size == 0 || base != 0) = true ↔ (size.toNat ≠ 0 → base.toNat ≠ 0) := by
    rw [Bool.or_eq_true, beq_iff_eq, bne_iff_ne, ne_eq, ← UInt64.toNat_inj, ← UInt64.toNat_inj]
    exact Decidable.or_iff_not_imp_left
  rw [surface, accepted_cons, accepted_cons, accepted_cons, hbase,
    aligned_holds (show Layout.surfaceAlign.toNat.isPowerOfTwo from ⟨4, rfl⟩),
    aligned_holds (show Layout.surfaceAlign.toNat.isPowerOfTwo from ⟨4, rfl⟩)]
  exact and_congr_right fun _ => and_congr_right fun _ => and_iff_left accepted_nil

end Rule

end CaptureProtocol
