import CaptureProtocol.CommandLine.Number
import CaptureProtocol.Proofs.Text
import Mathlib.Data.Nat.Digits.Defs
import Mathlib.Tactic.Ring

/-!
# Which texts are numbers

A word on the command line is hexadecimal behind `0x` or `0X` and decimal without them. Underscores
do not count, a plus sign may stand in front of the digits, and what the digits denote is a number of
any size; only numbers that fit in a word are read.

* `IsDigit`, `Numeral`: digits and the number that a row of them denotes, by Mathlib's `ofDigits`.
* `Denotes`: the texts that denote a number.
* `digitsFrom?_eq_some_iff`: reading digits from the front gives the number that they denote.
* `word64?_eq_some_iff`: a word is read from the texts that denote it.
* `numeral_toDigits`: the digits of a number denote it.
* `words_read_exactly`: **a word is read exactly from the texts that denote it**, with all numbers
  that are too large refused.
-/

set_option autoImplicit false

namespace CaptureProtocol.CommandLine

open Text (SameLetter)

/-- A character that stands for a number below the base. Letters may be small or capital. -/
def IsDigit (base : Nat) (c : Char) (d : Nat) : Prop :=
  d < base ∧ SameLetter (Nat.digitChar d) c

/-- One digit or more, the first of which counts most, and the number that they denote. -/
def Numeral (base : Nat) (cs : List Char) (n : Nat) : Prop :=
  cs ≠ [] ∧ ∃ ds, List.Forall₂ (IsDigit base) cs ds ∧ n = Nat.ofDigits base ds.reverse

/-- The base in which a text is read, and what of it is read in this base. -/
inductive Body : List Char → Nat → List Char → Prop where
  | hexadecimal {x : Char} (hx : x = 'x' ∨ x = 'X') (body : List Char) :
    Body ('0' :: x :: body) 16 body
  | decimal {text : List Char} (h : ∀ x body, x = 'x' ∨ x = 'X' → text ≠ '0' :: x :: body) :
    Body text 10 text

/-- A text that denotes a number: without its underscores, digits that may have a plus sign. -/
def Denotes (text : List Char) (n : Nat) : Prop :=
  ∃ base body digits, Body text base body ∧
    (body.filter (· ≠ '_') = digits ∨ body.filter (· ≠ '_') = '+' :: digits) ∧
    Numeral base digits n

/-- Digits, and a text that has underscores anywhere among them. -/
inductive Spaced : List Char → List Char → Prop where
  | nil : Spaced [] []
  | underscore {digits text : List Char} (rest : Spaced digits text) : Spaced digits ('_' :: text)
  | digit (c : Char) {digits text : List Char} (rest : Spaced digits text) :
    Spaced (c :: digits) (c :: text)

/-! ## Digits -/

theorem toNat_digitChar {d : Nat} (h : d < 16) :
    (Nat.digitChar d).toNat = if d < 10 then 48 + d else 87 + d := by
  have hall : ∀ d < 16, (Nat.digitChar d).toNat = if d < 10 then 48 + d else 87 + d := by decide
  exact hall d h

/-- The digits by the numbers of their characters. -/
theorem isDigit_iff {base : Nat} (hbase : base ≤ 16) {c : Char} {d : Nat} :
    IsDigit base c d ↔ d < base ∧
      (d < 10 ∧ c.toNat = 48 + d ∨ 10 ≤ d ∧ (c.toNat = 87 + d ∨ c.toNat = 55 + d)) := by
  refine and_congr_right fun hd => ?_
  rw [SameLetter, ← Char.toNat_inj, toNat_digitChar (by omega)]
  constructor
  · rintro (h | ⟨k, hk, h⟩) <;> split at h <;> omega
  · rintro (⟨hlt, h⟩ | ⟨hle, h | h⟩)
    · exact .inl (by rw [if_pos hlt, h])
    · exact .inl (by rw [if_neg (by omega), h])
    · exact .inr ⟨d - 10, by omega, .inr (by rw [if_neg (by omega)]; omega)⟩

theorem IsDigit.le_toNat {base : Nat} (hbase : base ≤ 16) {c : Char} {d : Nat}
    (h : IsDigit base c d) : 48 ≤ c.toNat := by
  have hdigit := (isDigit_iff hbase).mp h
  omega

theorem IsDigit.not_mark {base : Nat} (hbase : base ≤ 16) {c : Char} {d : Nat}
    (h : IsDigit base c d) : c ≠ '+' ∧ c ≠ '_' ∧ c ≠ 'x' ∧ c ≠ 'X' := by
  have hrange : 48 ≤ c.toNat ∧ c.toNat ≤ 57 ∨ 65 ≤ c.toNat ∧ c.toNat ≤ 70 ∨
      97 ≤ c.toNat ∧ c.toNat ≤ 102 := by
    have hdigit := (isDigit_iff hbase).mp h
    omega
  refine ⟨?_, ?_, ?_, ?_⟩ <;> rintro rfl <;> exact absurd hrange (by decide)

theorem digit?_eq_some_iff {base : Nat} (hbase : base ≤ 16) {c : Char} {d : Nat} :
    digit? base c = some d ↔ IsDigit base c d := by
  have hle : ∀ a b : Char, a ≤ b ↔ a.toNat ≤ b.toNat := fun a b => UInt32.le_iff_toNat_le
  rw [isDigit_iff hbase, digit?, Option.filter_eq_some_iff, decide_eq_true_eq, and_comm]
  refine and_congr_right fun hd => ?_
  simp only [hle, show '0'.toNat = 48 from rfl, show '9'.toNat = 57 from rfl,
    show 'a'.toNat = 97 from rfl, show 'f'.toNat = 102 from rfl, show 'A'.toNat = 65 from rfl,
    show 'F'.toNat = 70 from rfl]
  split_ifs <;> simp only [Option.some.injEq, false_iff] <;> omega

/-! ## Numerals -/

/-- Reading digits from the front, behind those of `value`. -/
theorem digitsFrom?_eq_some_iff {base : Nat} (hbase : base ≤ 16) {cs : List Char} {value n : Nat} :
    digitsFrom? base value cs = some n ↔
      ∃ ds, List.Forall₂ (IsDigit base) cs ds ∧
        n = Nat.ofDigits base ds.reverse + base ^ ds.length * value := by
  induction cs generalizing value with
  | nil => simp [digitsFrom?, eq_comm]
  | cons c cs ih =>
    have hvalue : ∀ (d : Nat) (ds : List Nat),
        Nat.ofDigits base ds.reverse + base ^ ds.length * (value * base + d) =
          Nat.ofDigits base (d :: ds).reverse + base ^ (d :: ds).length * value := by
      intro d ds
      rw [Nat.ofDigits_reverse_cons, List.length_cons]
      ring
    simp only [digitsFrom?, Option.bind_eq_some_iff, digit?_eq_some_iff hbase, ih, hvalue]
    constructor
    · rintro ⟨d, hd, ds, hds, hn⟩
      exact ⟨d :: ds, .cons hd hds, hn⟩
    · rintro ⟨_, hds, hn⟩
      cases hds with
      | cons hd hds => exact ⟨_, hd, _, hds, hn⟩

theorem digits?_eq_some_iff {base : Nat} (hbase : base ≤ 16) {cs : List Char} {n : Nat} :
    digits? base cs = some n ↔ Numeral base cs n := by
  unfold digits? Numeral
  split
  · next h => exact iff_of_false nofun fun hn => hn.1 (List.isEmpty_iff.mp h)
  · next h =>
    rw [digitsFrom?_eq_some_iff hbase, and_iff_right (mt List.isEmpty_iff.mpr h)]
    simp only [Nat.mul_zero, Nat.add_zero]

/-- What holds of every digit holds of the characters of a numeral. -/
theorem Numeral.forall_mem {base n : Nat} {cs : List Char} {P : Char → Prop}
    (h : Numeral base cs n) (hP : ∀ c d, IsDigit base c d → P c) : ∀ c ∈ cs, P c := by
  obtain ⟨-, ds, hds, -⟩ := h
  induction hds with
  | nil => simp
  | cons hd _ ih =>
    intro c hc
    rcases List.mem_cons.mp hc with rfl | hc
    · exact hP _ _ hd
    · exact ih c hc

theorem Numeral.not_mark {base : Nat} (hbase : base ≤ 16) {cs : List Char} {n : Nat}
    (h : Numeral base cs n) : ∀ c ∈ cs, c ≠ '+' ∧ c ≠ '_' ∧ c ≠ 'x' ∧ c ≠ 'X' :=
  h.forall_mem fun _ _ hd => hd.not_mark hbase

theorem unsigned?_eq_some_iff {base : Nat} (hbase : base ≤ 16) {cs : List Char} {n : Nat} :
    unsigned? base cs = some n ↔
      ∃ digits, (cs = digits ∨ cs = '+' :: digits) ∧ Numeral base digits n := by
  unfold unsigned?
  split
  · next rest =>
    rw [digits?_eq_some_iff hbase]
    constructor
    · intro h
      exact ⟨rest, .inr rfl, h⟩
    · rintro ⟨digits, rfl | hdigits, h⟩
      · exact absurd rfl (h.not_mark hbase '+' List.mem_cons_self).1
      · obtain rfl := (List.cons.inj hdigits).2
        exact h
  · next hplus =>
    rw [digits?_eq_some_iff hbase]
    constructor
    · intro h
      exact ⟨cs, .inl rfl, h⟩
    · rintro ⟨digits, rfl | hdigits, h⟩
      · exact h
      · exact absurd hdigits (hplus digits)

/-! ## The digits of a number -/

theorem Numeral.single {base : Nat} {c : Char} {d : Nat} (h : IsDigit base c d) :
    Numeral base [c] d :=
  ⟨List.cons_ne_nil _ _, [d], .cons h .nil, by simp⟩

/-- One more digit at the end. -/
theorem Numeral.append {base n d : Nat} {cs : List Char} {c : Char} (h : Numeral base cs n)
    (hd : IsDigit base c d) : Numeral base (cs ++ [c]) (base * n + d) := by
  obtain ⟨-, ds, hds, rfl⟩ := h
  refine ⟨by simp, ds ++ [d], List.rel_append hds (.cons hd .nil), ?_⟩
  rw [List.reverse_append, List.reverse_singleton, List.singleton_append, Nat.ofDigits_cons,
    Nat.add_comm]

theorem isDigit_digitChar {base d : Nat} (h : d < base) : IsDigit base (Nat.digitChar d) d :=
  ⟨h, .inl rfl⟩

/-- The digits of a number denote it. -/
theorem numeral_toDigits {base : Nat} (hbase : 1 < base) (n : Nat) :
    Numeral base (Nat.toDigits base n) n := by
  induction n using Nat.strongRecOn with
  | ind n ih =>
    by_cases hlt : n < base
    · rw [Nat.toDigits_of_lt_base hlt]
      exact .single (isDigit_digitChar hlt)
    · have hle := Nat.le_of_not_lt hlt
      have hfront := ih (n / base) (Nat.div_lt_self (by omega) hbase)
      rw [Nat.toDigits_of_base_le hbase hle]
      have hdigit := isDigit_digitChar (Nat.mod_lt n (Nat.zero_lt_of_lt hbase))
      have happend := hfront.append hdigit
      rwa [Nat.div_add_mod] at happend

/-- Letters of either case denote the same. -/
theorem Numeral.sameLetters {base n : Nat} {cs cs' : List Char} (h : Numeral base cs n)
    (hcase : List.Forall₂ SameLetter cs cs') : Numeral base cs' n := by
  obtain ⟨hne, ds, hds, rfl⟩ := h
  refine ⟨?_, ds, ?_, rfl⟩
  · rintro rfl
    cases hcase
    exact hne rfl
  · clear hne
    induction hcase generalizing ds with
    | nil => exact hds
    | cons hc _ ih =>
      cases hds with
      | cons hd hds => exact .cons ⟨hd.1, hd.2.trans hc⟩ (ih _ hds)

/-! ## Bodies -/

theorem exists_body (text : List Char) : ∃ base body, Body text base body := by
  by_cases h : ∃ x body, (x = 'x' ∨ x = 'X') ∧ text = '0' :: x :: body
  · obtain ⟨x, body, hx, rfl⟩ := h
    exact ⟨16, body, .hexadecimal hx body⟩
  · refine ⟨10, text, .decimal ?_⟩
    intro x body hx htext
    exact h ⟨x, body, hx, htext⟩

/-- A text has one base and one body. -/
theorem Body.unique {text body body' : List Char} {base base' : Nat} (h : Body text base body)
    (h' : Body text base' body') : base = base' ∧ body = body' := by
  cases h with
  | hexadecimal hx _ =>
    cases h' with
    | hexadecimal _ _ => exact ⟨rfl, rfl⟩
    | decimal hno => exact absurd rfl (hno _ _ hx)
  | decimal hno =>
    cases h' with
    | hexadecimal hx _ => exact absurd rfl (hno _ _ hx)
    | decimal _ => exact ⟨rfl, rfl⟩

theorem Body.base_le {text body : List Char} {base : Nat} (h : Body text base body) :
    base ≤ 16 := by
  cases h <;> decide

/-- A text denotes what is read from its body, a number of any size. -/
theorem Body.denotes_iff {text body : List Char} {base : Nat} (h : Body text base body) {n : Nat} :
    Denotes text n ↔ unsigned? base (body.filter (· != '_')) = some n := by
  have hfilter : body.filter (· != '_') = body.filter (· ≠ '_') := by
    simp only [bne, ne_eq, decide_not, beq_eq_decide]
  rw [unsigned?_eq_some_iff h.base_le, hfilter]
  constructor
  · rintro ⟨base', body', digits, h', hdigits, hn⟩
    obtain ⟨rfl, rfl⟩ := h.unique h'
    exact ⟨digits, hdigits, hn⟩
  · rintro ⟨digits, hdigits, hn⟩
    exact ⟨base, body, digits, h, hdigits, hn⟩

/-! ## Underscores -/

theorem Spaced.mem {digits text : List Char} (h : Spaced digits text) :
    ∀ c ∈ text, c = '_' ∨ c ∈ digits := by
  induction h with
  | nil => simp
  | underscore _ ih =>
    intro c hc
    rcases List.mem_cons.mp hc with rfl | hc
    · exact .inl rfl
    · exact ih c hc
  | digit d _ ih =>
    intro c hc
    rcases List.mem_cons.mp hc with rfl | hc
    · exact .inr List.mem_cons_self
    · exact (ih c hc).imp_right (List.mem_cons_of_mem d)

/-- Without its underscores a text is its digits again. -/
theorem Spaced.filter_eq {digits text : List Char} (h : Spaced digits text)
    (hdigits : ∀ c ∈ digits, c ≠ '_') : text.filter (· ≠ '_') = digits := by
  induction h with
  | nil => rfl
  | underscore _ ih => rw [List.filter_cons_of_neg (by simp), ih hdigits]
  | digit c _ ih =>
    have hc : c ≠ '_' := hdigits c List.mem_cons_self
    rw [List.filter_cons_of_pos (by simpa using hc),
      ih fun d hd => hdigits d (List.mem_cons_of_mem c hd)]

/-- A text denotes the number of the digits that its body has among underscores. -/
theorem Body.denotes_of_spaced {text body digits : List Char} {base n : Nat}
    (h : Body text base body) (hspaced : Spaced digits body) (hn : Numeral base digits n) :
    Denotes text n := by
  have hclean := hspaced.filter_eq fun c hc => (hn.not_mark h.base_le c hc).2.1
  exact ⟨base, body, digits, h, .inl hclean, hn⟩

/-- Decimal digits among underscores are not taken for hexadecimal ones. -/
theorem body_of_spaced {text digits : List Char} {n : Nat} (h : Spaced digits text)
    (hn : Numeral 10 digits n) : Body text 10 text := by
  refine .decimal ?_
  rintro x body hx rfl
  have hx_mem : x ∈ '0' :: x :: body := by simp
  rcases h.mem x hx_mem with rfl | hdigit
  · simp at hx
  · obtain ⟨-, -, hsmall, hcapital⟩ := hn.not_mark (by decide) x hdigit
    exact hx.elim hsmall hcapital

/-! ## Words -/

theorem word64?_of_body {s : String} {base : Nat} {body : List Char}
    (h : Body s.toList base body) :
    word64? s = ((unsigned? base (body.filter (· != '_'))).filter (· < UInt64.size)).map
      UInt64.ofNat := by
  unfold word64?
  generalize s.toList = text at h
  -- The text is matched against both ways to write the beginning before it is read as decimal.
  cases h with
  | hexadecimal hx _ => rcases hx with rfl | rfl <;> rfl
  | decimal hno =>
    dsimp only
    split
    · exact absurd rfl (hno 'x' _ (.inl rfl))
    · exact absurd rfl (hno 'X' _ (.inr rfl))
    · rfl

/-- What a text denotes is read when it fits in a word. -/
theorem word64?_of_denotes {s : String} {n : Nat} (h : Denotes s.toList n) :
    word64? s = if n < 2 ^ 64 then some (UInt64.ofNat n) else none := by
  obtain ⟨base, body, hbody⟩ := exists_body s.toList
  rw [word64?_of_body hbody, hbody.denotes_iff.mp h]
  by_cases hn : n < 2 ^ 64
  · rw [if_pos hn, Option.filter_some_pos (by simpa using hn), Option.map_some]
  · rw [if_neg hn, Option.filter_some_neg (by simpa using hn), Option.map_none]

theorem word64?_eq_some_iff {s : String} {w : UInt64} :
    word64? s = some w ↔ Denotes s.toList w.toNat := by
  constructor
  · intro h
    obtain ⟨base, body, hbody⟩ := exists_body s.toList
    rw [word64?_of_body hbody, Option.map_eq_some_iff] at h
    obtain ⟨n, hn, rfl⟩ := h
    rw [Option.filter_eq_some_iff, decide_eq_true_eq] at hn
    rw [UInt64.toNat_ofNat_of_lt' hn.2]
    exact hbody.denotes_iff.mpr hn.1
  · intro h
    rw [word64?_of_denotes h, if_pos w.toNat_lt, UInt64.ofNat_toNat]

theorem word32?_eq_some_iff {s : String} {w : UInt32} :
    word32? s = some w ↔ ∃ v : UInt64, word64? s = some v ∧ v.toNat = w.toNat := by
  have hword : ∀ v : UInt64, v.toNat < UInt32.size → (v.toUInt32 = w ↔ v.toNat = w.toNat) := by
    intro v hv
    rw [← UInt32.toNat_inj, UInt64.toNat_toUInt32, Nat.mod_eq_of_lt hv]
  simp only [word32?, Option.map_eq_some_iff, Option.filter_eq_some_iff, decide_eq_true_eq]
  constructor
  · rintro ⟨v, ⟨hv, hlt⟩, hw⟩
    exact ⟨v, hv, (hword v hlt).mp hw⟩
  · rintro ⟨v, hv, hw⟩
    have hlt : v.toNat < UInt32.size := hw ▸ w.toNat_lt
    exact ⟨v, ⟨hv, hlt⟩, (hword v hlt).mpr hw⟩

/--
**A word is read exactly from the texts that denote it.** A text that denotes a number too large for
a word is refused and never cut down to one. So every word is read from its decimal digits, and
behind `0x` or `0X` from its hexadecimal digits in either case, with underscores anywhere among the
digits; and the shorter words are read from the same texts, as far as their numbers fit.
-/
theorem words_read_exactly :
    (∀ s w, word64? s = some w ↔ Denotes s.toList w.toNat) ∧
    (∀ s n, Denotes s.toList n → 2 ^ 64 ≤ n → word64? s = none) ∧
    (∀ s (w : UInt64), Spaced (Nat.toDigits 10 w.toNat) s.toList → word64? s = some w) ∧
    (∀ s (w : UInt64) x digits body, x = 'x' ∨ x = 'X' →
      List.Forall₂ SameLetter (Nat.toDigits 16 w.toNat) digits → Spaced digits body →
      s.toList = '0' :: x :: body → word64? s = some w) ∧
    ∀ s w, word32? s = some w ↔ ∃ v : UInt64, word64? s = some v ∧ v.toNat = w.toNat := by
  refine ⟨fun s w => word64?_eq_some_iff, fun s n hn hlarge => ?_, fun s w hspaced => ?_,
    fun s w x digits body hx hcase hspaced htext => ?_, fun s w => word32?_eq_some_iff⟩
  · rw [word64?_of_denotes hn, if_neg (Nat.not_lt_of_le hlarge)]
  · have hn := numeral_toDigits (show 1 < 10 by decide) w.toNat
    exact word64?_eq_some_iff.mpr ((body_of_spaced hspaced hn).denotes_of_spaced hspaced hn)
  · have hn := (numeral_toDigits (show 1 < 16 by decide) w.toNat).sameLetters hcase
    rw [word64?_eq_some_iff, htext]
    exact (Body.hexadecimal hx body).denotes_of_spaced hspaced hn

/-- The first number past the words is refused; underscores and capitals do not matter to others. -/
theorem words_read_exactly_underscored :
    (Denotes "0x1_0000_0000_0000_0000".toList (2 ^ 64) ∧
      word64? "0x1_0000_0000_0000_0000" = none) ∧
    (Spaced (Nat.toDigits 10 1024) "_1__02_4".toList ∧ word64? "_1__02_4" = some 1024) ∧
    List.Forall₂ SameLetter (Nat.toDigits 16 0xcafe) ['c', 'A', 'f', 'E'] ∧
    Spaced ['c', 'A', 'f', 'E'] ['_', 'c', 'A', '_', '_', 'f', 'E', '_'] ∧
    word64? "0X_cA__fE_" = some 0xcafe := by
  obtain ⟨-, hlarge, hdecimal, hhexadecimal, -⟩ := words_read_exactly
  have hbody : Body "0x1_0000_0000_0000_0000".toList 16 "1_0000_0000_0000_0000".toList :=
    .hexadecimal (.inl rfl) _
  have hpast : Denotes "0x1_0000_0000_0000_0000".toList (2 ^ 64) :=
    hbody.denotes_iff.mpr (by decide +kernel)
  have hspaced : Spaced (Nat.toDigits 10 1024) "_1__02_4".toList :=
    .underscore (.digit _ (.underscore (.underscore (.digit _ (.digit _
      (.underscore (.digit _ .nil)))))))
  have hcase : List.Forall₂ SameLetter (Nat.toDigits 16 0xcafe) ['c', 'A', 'f', 'E'] :=
    .cons (.inl rfl) (.cons (.inr ⟨0, by decide⟩) (.cons (.inl rfl) (.cons (.inr ⟨4, by decide⟩)
      .nil)))
  have hcafe : Spaced ['c', 'A', 'f', 'E'] ['_', 'c', 'A', '_', '_', 'f', 'E', '_'] :=
    .underscore (.digit _ (.digit _ (.underscore (.underscore (.digit _ (.digit _
      (.underscore .nil)))))))
  exact ⟨⟨hpast, hlarge _ _ hpast (Nat.le_refl _)⟩, ⟨hspaced, hdecimal _ 1024 hspaced⟩, hcase,
    hcafe, hhexadecimal _ 0xcafe 'X' _ _ (.inr rfl) hcase hcafe rfl⟩

end CaptureProtocol.CommandLine
