import CaptureProtocol.Proofs.Outcome.BitNames

/-!
# A word against any table

The tables of the receiver name each bit once. Nothing of this is needed to take a word apart: a
mask may have several bits or none, masks may overlap, and a row may stand in the table twice. The
names that are found and the bits that are left over still divide the word between them.

* `BitNames.Picks`: which rows a word picks, row by row down the table.
* `BitNames.picks_iff`: the rows that are found are the rows that the word picks.
* `BitNames.testBit_union`: the union of the masks of some rows.
* `BitNames.takes_word_apart`: **names and leftover bits divide every word**, and when each row has
  a single bit, the rows that were picked and the leftover bits make up the word again.
-/

set_option autoImplicit false

namespace CaptureProtocol

namespace BitNames

/-- A mask and a word have a bit in common. -/
def Meets (mask word : UInt32) : Prop :=
  ∃ i, mask.toNat.testBit i = true ∧ word.toNat.testBit i = true

/--
The rows of a table that a word picks: in the order of the table, each as often as it stands there,
and no row whose mask does not meet the word.
-/
inductive Picks (word : UInt32) : BitNames → BitNames → Prop where
  | nil : Picks word [] []
  | met {row : UInt32 × String} {table rows : BitNames} (h : Meets row.1 word)
      (rest : Picks word table rows) : Picks word (row :: table) (row :: rows)
  | passed {row : UInt32 × String} {table rows : BitNames} (h : ¬ Meets row.1 word)
      (rest : Picks word table rows) : Picks word (row :: table) rows

/-- Every bit of some mask of the rows. -/
def union : BitNames → UInt32
  | [] => 0
  | row :: rows => row.1 ||| union rows

/-! ## The rows that are found -/

theorem meets_iff {mask word : UInt32} : Meets mask word ↔ (word &&& mask != 0) = true := by
  rw [bne_iff_ne, Ne, ← UInt32.toNat_inj, UInt32.toNat_and]
  exact (exists_congr fun _ => and_comm).trans WordBits.and_ne_zero_iff.symm

theorem rowsOf_cons_of_meets {row : UInt32 × String} {word : UInt32} (h : Meets row.1 word)
    (table : BitNames) : rowsOf (row :: table) word = row :: rowsOf table word := by
  unfold rowsOf
  exact List.filter_cons_of_pos (meets_iff.mp h)

theorem rowsOf_cons_of_not_meets {row : UInt32 × String} {word : UInt32} (h : ¬ Meets row.1 word)
    (table : BitNames) : rowsOf (row :: table) word = rowsOf table word := by
  unfold rowsOf
  exact List.filter_cons_of_neg (mt meets_iff.mpr h)

theorem picks_rowsOf (table : BitNames) (word : UInt32) :
    Picks word table (table.rowsOf word) := by
  induction table with
  | nil => exact .nil
  | cons row table ih =>
    by_cases h : Meets row.1 word
    · rw [rowsOf_cons_of_meets h]
      exact .met h ih
    · rw [rowsOf_cons_of_not_meets h]
      exact .passed h ih

theorem Picks.eq_rowsOf {word : UInt32} {table rows : BitNames} (h : Picks word table rows) :
    rows = table.rowsOf word := by
  induction h with
  | nil => rfl
  | met h _ ih => rw [rowsOf_cons_of_meets h, ih]
  | passed h _ ih => rw [rowsOf_cons_of_not_meets h, ih]

/-- A word picks these rows and no others. -/
theorem picks_iff {word : UInt32} {table rows : BitNames} :
    Picks word table rows ↔ rows = table.rowsOf word := by
  constructor
  · exact Picks.eq_rowsOf
  · rintro rfl
    exact picks_rowsOf table word

/-! ## Unions of masks -/

theorem testBit_union (rows : BitNames) (i : Nat) :
    rows.union.toNat.testBit i = true ↔ ∃ row ∈ rows, row.1.toNat.testBit i = true := by
  induction rows with
  | nil => simp [union]
  | cons row rows ih =>
    rw [union, UInt32.toNat_or, Nat.testBit_or, Bool.or_eq_true, ih]
    simp

theorem not_meets_leftover {table : BitNames} {row : UInt32 × String} (h : row ∈ table)
    (word : UInt32) : ¬ Meets row.1 (table.leftover word) := by
  rintro ⟨i, hmask, hleft⟩
  have hclear := ((testBit_leftover table word i).mp hleft).2 row h
  exact Bool.false_ne_true (hclear.symm.trans hmask)

/-- What is left over, and what the word has in common with all the masks, is the whole word. -/
theorem eq_leftover_or (table : BitNames) (word : UInt32) :
    word = table.leftover word ||| (word &&& table.union) := by
  apply UInt32.toNat_inj.mp
  apply WordBits.eq_of_testBit_iff
  intro i
  rw [UInt32.toNat_or, UInt32.toNat_and, Nat.testBit_or, Nat.testBit_and, Bool.or_eq_true,
    Bool.and_eq_true, testBit_union]
  constructor
  · intro hword
    rcases testBit_mask_or_leftover table hword with hmask | hleft
    · exact .inr ⟨hword, hmask⟩
    · exact .inl hleft
  · rintro (hleft | ⟨hword, -⟩)
    · exact ((testBit_leftover table word i).mp hleft).1
    · exact hword

/-- A row with a single bit is picked only by words that have this bit. -/
theorem testBit_of_mem_rowsOf {table : BitNames} {word : UInt32} {row : UInt32 × String}
    (hsingle : ∃ p, row.1.toNat = 2 ^ p) (hrow : row ∈ table.rowsOf word) {i : Nat}
    (hi : row.1.toNat.testBit i = true) : word.toNat.testBit i = true := by
  obtain ⟨p, hp⟩ := hsingle
  obtain ⟨-, j, hword, hj⟩ := mem_rowsOf.mp hrow
  rw [hp, Nat.testBit_two_pow, decide_eq_true_eq] at hi hj
  obtain rfl : j = i := hj.symm.trans hi
  exact hword

theorem union_rowsOf_or_leftover {table : BitNames}
    (hsingle : ∀ row ∈ table, ∃ p, row.1.toNat = 2 ^ p) (word : UInt32) :
    (table.rowsOf word).union ||| table.leftover word = word := by
  apply UInt32.toNat_inj.mp
  apply WordBits.eq_of_testBit_iff
  intro i
  rw [UInt32.toNat_or, Nat.testBit_or, Bool.or_eq_true, testBit_union]
  constructor
  · rintro (⟨row, hrow, hi⟩ | hleft)
    · exact testBit_of_mem_rowsOf (hsingle row (mem_rowsOf.mp hrow).1) hrow hi
    · exact ((testBit_leftover table word i).mp hleft).1
  · intro hword
    rcases testBit_mask_or_leftover table hword with ⟨row, hrow, hi⟩ | hleft
    · exact .inl ⟨row, mem_rowsOf.mpr ⟨hrow, i, hword, hi⟩, hi⟩
    · exact .inr hleft

/--
**Names and leftover bits divide every word.** Whatever the masks of a table are, the names that
are found are those of the rows that the word picks, the leftover bits are in no mask, and the word
is what is left over together with what it has in common with all the masks. When each mask is a
single bit, the masks that were picked and the leftover bits are the whole word.
-/
theorem takes_word_apart (table : BitNames) (word : UInt32) :
    (∀ names, names = table.namesOf word ↔
      ∃ rows, Picks word table rows ∧ names = rows.map Prod.snd) ∧
    (∀ row ∈ table, ¬ Meets row.1 (table.leftover word)) ∧
    word = table.leftover word ||| (word &&& table.union) ∧
    ((∀ row ∈ table, ∃ p, row.1.toNat = 2 ^ p) →
      ∀ rows, Picks word table rows → rows.union ||| table.leftover word = word) := by
  refine ⟨fun names => ?_, fun row hrow => not_meets_leftover hrow word,
    eq_leftover_or table word, fun hsingle rows hrows => ?_⟩
  · simp only [picks_iff, exists_eq_left, namesOf_eq]
  · rw [picks_iff.mp hrows]
    exact union_rowsOf_or_leftover hsingle word

/-- Single bits, one of them under two names and another twice under the same name. -/
def doubledBits : BitNames :=
  [(0x4, "late"), (0x8000_0000, "lost"), (0x1, "early"), (0x4, "delayed"), (0x8000_0000, "lost")]

/-- A bit with two names and a bit with the same name twice are one bit each of the word. -/
theorem takes_word_apart_doubledBits :
    ((0x4, "late") ∈ doubledBits ∧ ¬ Meets 0x4 (doubledBits.leftover 0x8000_0016)) ∧
    (∀ row ∈ doubledBits, ∃ p, row.1.toNat = 2 ^ p) ∧
    ∃ rows, Picks 0x8000_0016 doubledBits rows ∧
      rows.map Prod.snd = ["late", "lost", "delayed", "lost"] ∧
      rows.union ||| doubledBits.leftover 0x8000_0016 = 0x8000_0016 := by
  obtain ⟨hnames, hleft, -, hunion⟩ := takes_word_apart doubledBits 0x8000_0016
  have hmem : ((0x4, "late") : UInt32 × String) ∈ doubledBits := by decide
  have hsingle : ∀ row ∈ doubledBits, ∃ p, row.1.toNat = 2 ^ p := by
    intro row hrow
    simp only [doubledBits, List.mem_cons, List.not_mem_nil, or_false] at hrow
    rcases hrow with rfl | rfl | rfl | rfl | rfl
    exacts [⟨2, rfl⟩, ⟨31, rfl⟩, ⟨0, rfl⟩, ⟨2, rfl⟩, ⟨31, rfl⟩]
  obtain ⟨rows, hrows, hfound⟩ :=
    (hnames ["late", "lost", "delayed", "lost"]).mp (by decide)
  exact ⟨⟨hmem, hleft _ hmem⟩, hsingle, rows, hrows, hfound.symm, hunion hsingle rows hrows⟩

end BitNames

end CaptureProtocol
