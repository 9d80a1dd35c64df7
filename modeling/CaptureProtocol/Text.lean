/-!
# Text forms of numbers and columns

Hexadecimal numbers, numbers of at least a given width, columns of a table, and the rest of a name
after a known beginning.

* `after?_eq_some_iff`: what is behind a beginning is what is appended to it.
-/

set_option autoImplicit false

namespace CaptureProtocol.Text

/-- The text filled with `fill` on the left up to `width` characters. -/
def padLeft (width : Nat) (fill : Char) (s : String) : String :=
  String.ofList (List.replicate (width - s.length) fill ++ s.toList)

/-- The text filled with blanks on the right up to `width` characters. -/
def padRight (width : Nat) (s : String) : String :=
  String.ofList (s.toList ++ List.replicate (width - s.length) ' ')

/-- The lower-case hexadecimal digits of a number, without leading zeros. -/
def hexDigits (n : Nat) : String := String.ofList (Nat.toDigits 16 n)

/-- A number in hexadecimal with its `0x`. -/
def hex (n : Nat) : String := "0x" ++ hexDigits n

/-- A number in hexadecimal with its `0x` and at least `digits` digits. -/
def hexPadded (digits n : Nat) : String := "0x" ++ padLeft digits '0' (hexDigits n)

/-- The two hexadecimal digits of a byte. -/
def hexByte (b : UInt8) : String := padLeft 2 '0' (hexDigits b.toNat)

/-- A number right-aligned in a column of `width` characters. -/
def column (width n : Nat) : String := padLeft width ' ' (toString n)

/-- What follows `lead` in a text that begins with it. -/
def after? (lead s : String) : Option String :=
  if lead.toList.isPrefixOf s.toList then some (String.ofList (s.toList.drop lead.length)) else none

theorem after?_eq_some_iff {lead s rest : String} :
    after? lead s = some rest ↔ s = lead ++ rest := by
  unfold after?
  split
  · next h =>
    obtain ⟨tail, htail⟩ := List.isPrefixOf_iff_prefix.mp h
    rw [← htail, ← String.length_toList, List.drop_left, Option.some.injEq, ← String.toList_inj,
      ← String.toList_inj, String.toList_append, ← htail, List.append_cancel_left_eq,
      String.toList_ofList]
  · next h =>
    refine iff_of_false nofun ?_
    rintro rfl
    exact h (List.isPrefixOf_iff_prefix.mpr ⟨rest.toList, String.toList_append.symm⟩)

theorem after?_eq_none_iff {lead s : String} : after? lead s = none ↔ ∀ rest, s ≠ lead ++ rest := by
  simp only [Option.eq_none_iff_forall_ne_some, ne_eq, after?_eq_some_iff]

/-- Whether two texts agree up to the case of the letters A to Z. -/
def sameIgnoringCase (s t : String) : Bool :=
  s.toList.map Char.toLower == t.toList.map Char.toLower

/-- A count of lines, each with its line end. -/
def unlines (lines : List String) : String := String.join (lines.map (· ++ "\n"))

theorem unlines_append (lines lines' : List String) :
    unlines (lines ++ lines') = unlines lines ++ unlines lines' := by
  rw [unlines, List.map_append, String.join_append]
  rfl

end CaptureProtocol.Text
