import CaptureProtocol.Text
import Mathlib.Data.List.Basic
import Mathlib.Data.List.Forall2

/-!
# Letters, lines and columns

Characters that differ are the same letter when one is the capital of the other. Only the letters
A to Z have a case here. A text of lines, and a number in a column, can be read back as long as
nothing in them is taken for the mark that ends them.

* `toLower_eq_iff`: the small forms of two characters are the same exactly for the same letter.
* `sameIgnoringCase_iff`: what it means that two texts agree up to case.
* `unlines_inj`: plain lines can be told from the text that they make.
* `exists_plain`: whatever its lines hold, a text is made of plain ones.
* `column_inj`: the number in a column can be told.
-/

set_option autoImplicit false

namespace CaptureProtocol.Text

/-! ## Letters -/

/-- The same character, or the capital and the small form of one of the letters A to Z. -/
def SameLetter (c d : Char) : Prop :=
  c = d ∨ ∃ k < 26, (c.toNat = 65 + k ∧ d.toNat = 97 + k) ∨ (c.toNat = 97 + k ∧ d.toNat = 65 + k)

/-- Texts of one length with the same letters. -/
def SameLetters (s t : String) : Prop := List.Forall₂ SameLetter s.toList t.toList

theorem toNat_toLower (c : Char) :
    c.toLower.toNat = if 65 ≤ c.toNat ∧ c.toNat ≤ 90 then c.toNat + 32 else c.toNat := by
  have hcapital : c.val ≥ 'A'.val ∧ c.val ≤ 'Z'.val ↔ 65 ≤ c.toNat ∧ c.toNat ≤ 90 := by
    rw [ge_iff_le, UInt32.le_iff_toNat_le, UInt32.le_iff_toNat_le]
    rfl
  unfold Char.toLower
  split
  · next h =>
    have hbound := hcapital.mp h
    rw [if_pos hbound]
    show (c.val + ('a'.val - 'A'.val)).toNat = c.toNat + 32
    rw [UInt32.toNat_add, show ('a'.val - 'A'.val).toNat = 32 from rfl]
    exact Nat.mod_eq_of_lt (by show c.toNat + 32 < 2 ^ 32; omega)
  · next h => rw [if_neg (mt hcapital.mpr h)]

theorem toLower_eq_iff {c d : Char} : c.toLower = d.toLower ↔ SameLetter c d := by
  rw [← Char.toNat_inj, toNat_toLower, toNat_toLower, SameLetter, ← Char.toNat_inj]
  constructor
  · intro h
    split at h <;> split at h
    · exact .inl (by omega)
    · exact .inr ⟨c.toNat - 65, by omega, .inl (by omega)⟩
    · exact .inr ⟨d.toNat - 65, by omega, .inr (by omega)⟩
    · exact .inl h
  · rintro (h | ⟨k, hk, ⟨hc, hd⟩ | ⟨hc, hd⟩⟩)
    · rw [h]
    · rw [if_pos (by omega), if_neg (by omega)]
      omega
    · rw [if_neg (by omega), if_pos (by omega)]
      omega

theorem SameLetter.trans {a b c : Char} (hab : SameLetter a b) (hbc : SameLetter b c) :
    SameLetter a c :=
  toLower_eq_iff.mp ((toLower_eq_iff.mpr hab).trans (toLower_eq_iff.mpr hbc))

theorem sameIgnoringCase_eq_true {s t : String} :
    sameIgnoringCase s t = true ↔ s.toList.map Char.toLower = t.toList.map Char.toLower :=
  beq_iff_eq

theorem sameIgnoringCase_iff {s t : String} : sameIgnoringCase s t = true ↔ SameLetters s t := by
  have hletter : (fun c d : Char => c.toLower = d.toLower) = SameLetter := by
    funext c d
    exact propext toLower_eq_iff
  rw [sameIgnoringCase_eq_true, SameLetters, ← hletter, ← List.forall₂_map_right_iff,
    ← List.forall₂_map_left_iff, List.forall₂_eq_eq_eq]

/-! ## Marks -/

/-- Two rows with the same mark in them, before which neither has it, are cut by it alike. -/
theorem eq_of_append_mark {α : Type} {mark : α} {a b s t : List α} (ha : mark ∉ a) (hb : mark ∉ b)
    (h : a ++ mark :: s = b ++ mark :: t) : a = b ∧ s = t := by
  induction a generalizing b with
  | nil =>
    cases b with
    | nil => exact ⟨rfl, List.tail_eq_of_cons_eq h⟩
    | cons y b => exact absurd (List.head_eq_of_cons_eq h ▸ List.mem_cons_self) hb
  | cons x a ih =>
    cases b with
    | nil => exact absurd (List.head_eq_of_cons_eq h ▸ List.mem_cons_self) ha
    | cons y b =>
      obtain ⟨rfl, htail⟩ := List.cons.inj h
      obtain ⟨rfl, hrest⟩ :=
        ih (List.not_mem_of_not_mem_cons ha) (List.not_mem_of_not_mem_cons hb) htail
      exact ⟨rfl, hrest⟩

/-- Two rows whose last mark is where it says are cut by it alike, even if the marks differ. -/
theorem eq_of_last_mark {α : Type} {a b s t : List α} {mark mark' : α} (hs : mark' ∉ s)
    (ht : mark ∉ t) (h : a ++ mark :: s = b ++ mark' :: t) : mark = mark' ∧ s = t := by
  rcases List.append_eq_append_iff.mp h with ⟨between, -, hrest⟩ | ⟨between, -, hrest⟩
  · cases between with
    | nil => exact List.cons.inj hrest
    | cons x between =>
      refine absurd ?_ hs
      rw [(List.cons.inj hrest).2]
      exact List.mem_append_right _ List.mem_cons_self
  · cases between with
    | nil => exact (List.cons.inj hrest).imp Eq.symm Eq.symm
    | cons x between =>
      refine absurd ?_ ht
      rw [(List.cons.inj hrest).2]
      exact List.mem_append_right _ List.mem_cons_self

/-! ## Lines -/

/-- A text that stays on one line. -/
def Plain (s : String) : Prop := '\n' ∉ s.toList

instance (s : String) : Decidable (Plain s) := inferInstanceAs (Decidable (¬ '\n' ∈ s.toList))

/-- A text of one word on one line. -/
def IsWord (s : String) : Prop := ∀ c ∈ s.toList, c ≠ ' ' ∧ c ≠ '\n'

-- Characters are finite in number, and a search must not go through all of them.
instance (s : String) : Decidable (IsWord s) := List.decidableBAll _ s.toList

/-- A literal is the list of its characters, which are easier to go through than its bytes. -/
theorem isWord_ofList {cs : List Char} (h : cs.all fun c => c != ' ' && c != '\n') :
    IsWord (String.ofList cs) := by
  intro c hc
  rw [String.toList_ofList] at hc
  simpa using List.all_eq_true.mp h c hc

theorem IsWord.blank_notMem {s : String} (h : IsWord s) : ' ' ∉ s.toList :=
  fun hmem => (h ' ' hmem).1 rfl

theorem IsWord.plain {s : String} (h : IsWord s) : Plain s := fun hmem => (h '\n' hmem).2 rfl

theorem plain_append {s t : String} : Plain (s ++ t) ↔ Plain s ∧ Plain t := by
  simp only [Plain, String.toList_append, List.mem_append, not_or]

theorem unlines_cons (line : String) (lines : List String) :
    unlines (line :: lines) = line ++ "\n" ++ unlines lines := by
  rw [unlines, List.map_cons, String.join_cons]
  rfl

theorem toList_unlines_cons (line : String) (lines : List String) :
    (unlines (line :: lines)).toList = line.toList ++ '\n' :: (unlines lines).toList := by
  rw [unlines_cons, String.toList_append, String.toList_append, List.append_assoc]
  rfl

/-- Each of the lines of a text can be told from the text. -/
theorem unlines_inj {lines lines' : List String} (hl : ∀ l ∈ lines, Plain l)
    (hl' : ∀ l ∈ lines', Plain l) (h : unlines lines = unlines lines') : lines = lines' := by
  have hne : ∀ (line : String) (rest : List String), unlines (line :: rest) ≠ unlines [] := by
    intro line rest h
    have hlist := congrArg String.toList h
    rw [toList_unlines_cons] at hlist
    exact List.append_ne_nil_of_right_ne_nil _ (List.cons_ne_nil _ _) hlist
  induction lines generalizing lines' with
  | nil =>
    cases lines' with
    | nil => rfl
    | cons line' rest' => exact absurd h.symm (hne line' rest')
  | cons line rest ih =>
    cases lines' with
    | nil => exact absurd h (hne line rest)
    | cons line' rest' =>
      have hlist := congrArg String.toList h
      rw [toList_unlines_cons, toList_unlines_cons] at hlist
      obtain ⟨hline, hrest⟩ :=
        eq_of_append_mark (hl line List.mem_cons_self) (hl' line' List.mem_cons_self) hlist
      rw [String.toList_inj.mp hline, ih (fun l h => hl l (List.mem_cons_of_mem _ h))
        (fun l h => hl' l (List.mem_cons_of_mem _ h)) (String.toList_inj.mp hrest)]

theorem exists_plain_of_line (cs : List Char) :
    ∃ lines, (∀ l ∈ lines, Plain l) ∧ (unlines lines).toList = cs ++ ['\n'] := by
  induction cs with
  | nil => exact ⟨[""], by simp [Plain], rfl⟩
  | cons c cs ih =>
    obtain ⟨lines, hplain, hlines⟩ := ih
    by_cases hc : c = '\n'
    · refine ⟨"" :: lines, List.forall_mem_cons.mpr ⟨by simp [Plain], hplain⟩, ?_⟩
      rw [toList_unlines_cons, hlines, hc]
      rfl
    · cases lines with
      | nil =>
        have hne : cs ++ ['\n'] ≠ [] := List.append_ne_nil_of_right_ne_nil _ (List.cons_ne_nil _ _)
        exact absurd hlines.symm hne
      | cons line rest =>
        obtain ⟨hline, hrest⟩ := List.forall_mem_cons.mp hplain
        refine ⟨String.ofList (c :: line.toList) :: rest,
          List.forall_mem_cons.mpr ⟨?_, hrest⟩, ?_⟩
        · simp only [Plain, String.toList_ofList, List.mem_cons, not_or]
          exact ⟨Ne.symm hc, hline⟩
        · rw [toList_unlines_cons] at hlines ⊢
          rw [String.toList_ofList, List.cons_append, hlines, List.cons_append]

/-- A text of whole lines can be cut into plain ones. -/
theorem exists_plain (lines : List String) :
    ∃ plain, (∀ l ∈ plain, Plain l) ∧ unlines plain = unlines lines := by
  induction lines with
  | nil => exact ⟨[], by simp, rfl⟩
  | cons line rest ih =>
    obtain ⟨front, hfront, hline⟩ := exists_plain_of_line line.toList
    obtain ⟨plain, hplain, hrest⟩ := ih
    refine ⟨front ++ plain, List.forall_mem_append.mpr ⟨hfront, hplain⟩, ?_⟩
    apply String.toList_inj.mp
    rw [unlines_append, String.toList_append, hline, hrest, toList_unlines_cons, List.append_assoc]
    rfl

/-! ## Columns -/

theorem toString_inj {n m : Nat} (h : toString n = toString m) : n = m := by
  have hdigits : Nat.toDigits 10 n = Nat.toDigits 10 m := by
    rw [← Nat.toList_repr, ← Nat.toList_repr]
    exact congrArg String.toList h
  have hn := Nat.ofDigitChars_toDigits (n := n) (show 1 < 10 by decide) (by decide)
  rw [hdigits, Nat.ofDigitChars_toDigits (by decide) (by decide)] at hn
  exact hn.symm

theorem isWord_toString (n : Nat) : IsWord (toString n) := by
  intro c hc
  rw [Nat.toString_eq_repr, Nat.toList_repr] at hc
  have hdigit := Nat.isDigit_of_mem_toDigits (by decide) (by decide) hc
  constructor <;> rintro rfl <;> exact absurd hdigit (by decide)

theorem toList_column (width n : Nat) : ∃ blanks,
    (column width n).toList = List.replicate blanks ' ' ++ (toString n).toList :=
  ⟨width - (toString n).length, by rw [column, padLeft, String.toList_ofList]⟩

theorem plain_column (width n : Nat) : Plain (column width n) := by
  obtain ⟨blanks, hblanks⟩ := toList_column width n
  intro hmem
  rw [hblanks, List.mem_append] at hmem
  rcases hmem with hblank | hdigit
  · exact absurd (List.eq_of_mem_replicate hblank) (by decide)
  · exact (isWord_toString n).plain hdigit

/-- Behind the blanks before its number, a column that a blank follows begins with the digits. -/
theorem dropWhile_column (width n : Nat) (rest : List Char) :
    ((column width n).toList ++ ' ' :: rest).dropWhile (· == ' ') =
      (toString n).toList ++ ' ' :: rest := by
  obtain ⟨blanks, hblanks⟩ := toList_column width n
  have hpos : ∀ c ∈ List.replicate blanks ' ', (c == ' ') = true := by
    intro c hc
    rw [List.eq_of_mem_replicate hc]
    rfl
  rw [hblanks, List.append_assoc, List.dropWhile_append_of_pos hpos]
  cases hdigits : (toString n).toList with
  | nil => exact absurd (String.toList_inj.mp hdigits) Nat.repr_ne_empty
  | cons d ds =>
    have hd : d ≠ ' ' := (isWord_toString n d (hdigits ▸ List.mem_cons_self)).1
    rw [List.cons_append, List.dropWhile_cons_of_neg (by simpa using hd)]

/-- The number in a column can be told where a blank follows, and so can what follows it. -/
theorem column_inj {width n m : Nat} {s t : List Char}
    (h : (column width n).toList ++ ' ' :: s = (column width m).toList ++ ' ' :: t) :
    n = m ∧ s = t := by
  have hdrop := congrArg (List.dropWhile (· == ' ')) h
  rw [dropWhile_column, dropWhile_column] at hdrop
  obtain ⟨hdigits, hrest⟩ := eq_of_append_mark (isWord_toString n).blank_notMem
    (isWord_toString m).blank_notMem hdrop
  exact ⟨toString_inj (String.toList_inj.mp hdigits), hrest⟩

end CaptureProtocol.Text
