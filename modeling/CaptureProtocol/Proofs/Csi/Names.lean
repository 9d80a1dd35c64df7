import CaptureProtocol.Csi.DataType
import CaptureProtocol.Proofs.Text
import Mathlib.Data.List.Nodup

/-!
# The names of data types

A data type is named in three ways: by its older name after the older beginning, by its canonical
name after the canonical beginning, and by the canonical name alone, in which letters of either case
may stand. The catalogue is searched from the front, so a name has one meaning only because no two
entries share one, even up to case, and no bare name can have one of the beginnings.

* `DataType.Denotes`: the three ways to name a data type.
* `DataType.eq_of_denotes`: no name has two meanings.
* `DataType.looks_up_exactly_denoted`: **a name is looked up exactly as what it denotes**, and one
  that denotes nothing is reported.
-/

set_option autoImplicit false

namespace CaptureProtocol

open Text

namespace DataType

/-- What a text names, and in which family of names. -/
inductive Denotes : String → DataType → Spelling → Prop where
  /-- An older name after the beginning of the older names. -/
  | legacy {dt : DataType} {name : String} (h : dt.legacyName? = some name) :
    Denotes (legacyLead ++ name) dt .legacy
  /-- A canonical name after the beginning of the canonical names. -/
  | canonical (dt : DataType) : Denotes (canonicalLead ++ dt.name) dt .canonical
  /-- A canonical name by itself, in letters of either case. -/
  | bare {dt : DataType} {name : String} (h : SameLetters dt.name name) :
    Denotes name dt .canonical

/-! ## The catalogue -/

theorem mem_all (dt : DataType) : dt ∈ all := by
  cases dt <;> decide

/-- No two canonical names agree up to case. -/
theorem eq_of_sameIgnoringCase {a b : DataType} (h : sameIgnoringCase a.name b.name = true) :
    a = b := by
  have hdistinct : (all.map fun dt => dt.name.toList.map Char.toLower).Nodup := by
    decide +kernel
  exact List.inj_on_of_nodup_map hdistinct (mem_all a) (mem_all b) (sameIgnoringCase_eq_true.mp h)

/-- An older name is the canonical one up to case. -/
theorem sameIgnoringCase_of_legacyName? {dt : DataType} {name : String}
    (h : dt.legacyName? = some name) : sameIgnoringCase dt.name name = true := by
  have hcase : ∀ dt ∈ all, ∀ name ∈ dt.legacyName?, sameIgnoringCase dt.name name = true := by
    decide +kernel
  exact hcase dt (mem_all dt) name h

/-- Every canonical name begins with a letter other than the one that both beginnings begin with. -/
theorem head?_name_ne (dt : DataType) : (dt.name.toList.map Char.toLower).head? ≠ some 'n' := by
  have hhead : ∀ dt ∈ all, (dt.name.toList.map Char.toLower).head? ≠ some 'n' := by
    decide +kernel
  exact hhead dt (mem_all dt)

/-- Where at most one data type meets a condition, the search finds this one. -/
theorem find?_all_map_eq_some_iff {p : DataType → Bool} {spelling : Spelling}
    (h : ∀ a b, p a = true → p b = true → a = b) {dt : DataType} {spelling' : Spelling} :
    (all.find? p).map (·, spelling) = some (dt, spelling') ↔
      p dt = true ∧ spelling' = spelling := by
  rw [Option.map_eq_some_iff]
  constructor
  · rintro ⟨a, hfound, hpair⟩
    obtain ⟨rfl, rfl⟩ := Prod.mk.inj hpair
    exact ⟨List.find?_some hfound, rfl⟩
  · rintro ⟨hdt, rfl⟩
    cases hfound : all.find? p with
    | none => exact absurd hdt (List.find?_eq_none.mp hfound dt (mem_all dt))
    | some a => exact ⟨a, rfl, by rw [h a dt (List.find?_some hfound) hdt]⟩

/-! ## Beginnings -/

theorem legacyLead_ne_canonicalLead (s t : String) : legacyLead ++ s ≠ canonicalLead ++ t := by
  intro h
  have hlist := congrArg (fun text => text.toList[10]?) h
  simp only [String.toList_append] at hlist
  rw [List.getElem?_append_left (by decide), List.getElem?_append_left (by decide)] at hlist
  exact absurd hlist (by decide)

/-- A bare name has neither beginning. -/
theorem ne_lead_append {dt : DataType} {name : String} (h : SameLetters dt.name name)
    (lead : String) (hlead : (lead.toList.map Char.toLower).head? = some 'n') (rest : String) :
    name ≠ lead ++ rest := by
  rintro rfl
  have hlower := sameIgnoringCase_eq_true.mp (sameIgnoringCase_iff.mpr h)
  refine head?_name_ne dt ?_
  rw [hlower, String.toList_append, List.map_append, List.head?_append, hlead]
  rfl

/-! ## Names and what they denote -/

theorem eq_of_legacyName? {a b : DataType} {name : String} (ha : a.legacyName? = some name)
    (hb : b.legacyName? = some name) : a = b := by
  have hlower := sameIgnoringCase_eq_true.mp (sameIgnoringCase_of_legacyName? ha)
  have hlower' := sameIgnoringCase_eq_true.mp (sameIgnoringCase_of_legacyName? hb)
  exact eq_of_sameIgnoringCase (sameIgnoringCase_eq_true.mpr (hlower.trans hlower'.symm))

theorem eq_of_name {a b : DataType} (h : a.name = b.name) : a = b :=
  eq_of_sameIgnoringCase (sameIgnoringCase_eq_true.mpr (by rw [h]))

/-- A name with the older beginning is compared with the older names only. -/
theorem lookup?_legacy_eq_some_iff {rest : String} {dt : DataType} {spelling : Spelling} :
    lookup? (legacyLead ++ rest) = some (dt, spelling) ↔
      dt.legacyName? = some rest ∧ spelling = .legacy := by
  rw [lookup?, after?_eq_some_iff.mpr rfl]
  refine (find?_all_map_eq_some_iff ?_).trans (and_congr_left' beq_iff_eq)
  exact fun a b ha hb => eq_of_legacyName? (beq_iff_eq.mp ha) (beq_iff_eq.mp hb)

/-- A name with the canonical beginning is compared with the canonical names only. -/
theorem lookup?_canonical_eq_some_iff {rest : String} {dt : DataType} {spelling : Spelling} :
    lookup? (canonicalLead ++ rest) = some (dt, spelling) ↔
      dt.name = rest ∧ spelling = .canonical := by
  rw [lookup?, after?_eq_none_iff.mpr fun s h => legacyLead_ne_canonicalLead s rest h.symm,
    after?_eq_some_iff.mpr rfl]
  refine (find?_all_map_eq_some_iff ?_).trans (and_congr_left' beq_iff_eq)
  exact fun a b ha hb => eq_of_name ((beq_iff_eq.mp ha).trans (beq_iff_eq.mp hb).symm)

/-- A name with neither beginning is compared with the canonical names up to case. -/
theorem lookup?_bare_eq_some_iff {name : String} (hlegacy : ∀ rest, name ≠ legacyLead ++ rest)
    (hcanonical : ∀ rest, name ≠ canonicalLead ++ rest) {dt : DataType} {spelling : Spelling} :
    lookup? name = some (dt, spelling) ↔ SameLetters dt.name name ∧ spelling = .canonical := by
  rw [lookup?, after?_eq_none_iff.mpr hlegacy, after?_eq_none_iff.mpr hcanonical]
  refine (find?_all_map_eq_some_iff ?_).trans (and_congr_left' sameIgnoringCase_iff)
  intro a b ha hb
  rw [sameIgnoringCase_eq_true] at ha hb
  exact eq_of_sameIgnoringCase (sameIgnoringCase_eq_true.mpr (ha.trans hb.symm))

/-- Looking a name up finds nothing but what the name denotes. -/
theorem denotes_of_lookup? {name : String} {dt : DataType} {spelling : Spelling}
    (h : lookup? name = some (dt, spelling)) : Denotes name dt spelling := by
  by_cases hlegacy : ∃ rest, name = legacyLead ++ rest
  · obtain ⟨rest, rfl⟩ := hlegacy
    obtain ⟨hname, rfl⟩ := lookup?_legacy_eq_some_iff.mp h
    exact .legacy hname
  · by_cases hcanonical : ∃ rest, name = canonicalLead ++ rest
    · obtain ⟨rest, rfl⟩ := hcanonical
      obtain ⟨rfl, rfl⟩ := lookup?_canonical_eq_some_iff.mp h
      exact .canonical dt
    · obtain ⟨hname, rfl⟩ :=
        (lookup?_bare_eq_some_iff (not_exists.mp hlegacy) (not_exists.mp hcanonical)).mp h
      exact .bare hname

/-- Whatever a name denotes is found: its beginning excludes the other ways to read it. -/
theorem lookup?_of_denotes {name : String} {dt : DataType} {spelling : Spelling}
    (h : Denotes name dt spelling) : lookup? name = some (dt, spelling) := by
  cases h with
  | legacy hname => exact lookup?_legacy_eq_some_iff.mpr ⟨hname, rfl⟩
  | canonical => exact lookup?_canonical_eq_some_iff.mpr ⟨rfl, rfl⟩
  | bare hname =>
    have hlegacy := ne_lead_append hname legacyLead (by decide)
    have hcanonical := ne_lead_append hname canonicalLead (by decide)
    exact (lookup?_bare_eq_some_iff hlegacy hcanonical).mpr ⟨hname, rfl⟩

theorem lookup?_eq_some_iff {name : String} {dt : DataType} {spelling : Spelling} :
    lookup? name = some (dt, spelling) ↔ Denotes name dt spelling :=
  ⟨denotes_of_lookup?, lookup?_of_denotes⟩

theorem lookup?_eq_none_iff {name : String} :
    lookup? name = none ↔ ∀ dt spelling, ¬ Denotes name dt spelling := by
  simp only [Option.eq_none_iff_forall_ne_some, Prod.forall, ne_eq, lookup?_eq_some_iff]

/-- No name has two meanings. -/
theorem eq_of_denotes {name : String} {a b : DataType} {s t : Spelling} (ha : Denotes name a s)
    (hb : Denotes name b t) : a = b ∧ s = t :=
  Prod.mk.inj (Option.some.inj ((lookup?_of_denotes ha).symm.trans (lookup?_of_denotes hb)))

theorem lookup_eq_ok_iff {name : String} {found : DataType × Spelling} :
    lookup name = .ok found ↔ lookup? name = some found := by
  unfold lookup
  split
  · next h => rw [h, Except.ok.injEq, Option.some.injEq]
  · next h => exact iff_of_false nofun (by rw [h]; nofun)

theorem lookup_eq_error_iff {name : String} {error : CaptureError} :
    lookup name = .error error ↔ lookup? name = none ∧ error = .unknownDataType name := by
  unfold lookup
  split
  · next h => exact iff_of_false nofun (by rw [h]; nofun)
  · next h => rw [h, Except.error.injEq, eq_comm, and_iff_right rfl]

/--
**A name is looked up exactly as what it denotes, and denotes one thing only.** A name that denotes
nothing is reported by itself, the whole canonical name of a data type is read back as this data
type, and a name with one of the two beginnings is never compared up to case.
-/
theorem looks_up_exactly_denoted :
    (∀ name dt spelling, lookup? name = some (dt, spelling) ↔ Denotes name dt spelling) ∧
    (∀ name, lookup? name = none ↔ ∀ dt spelling, ¬ Denotes name dt spelling) ∧
    (∀ name a b s t, Denotes name a s → Denotes name b t → a = b ∧ s = t) ∧
    (∀ dt, lookup? dt.canonicalName = some (dt, .canonical)) ∧
    (∀ rest dt spelling, lookup? (legacyLead ++ rest) = some (dt, spelling) ↔
      dt.legacyName? = some rest ∧ spelling = .legacy) ∧
    (∀ rest dt spelling, lookup? (canonicalLead ++ rest) = some (dt, spelling) ↔
      dt.name = rest ∧ spelling = .canonical) ∧
    (∀ name found, lookup name = .ok found ↔ Denotes name found.1 found.2) ∧
    ∀ name error, lookup name = .error error ↔
      (∀ dt spelling, ¬ Denotes name dt spelling) ∧ error = .unknownDataType name := by
  refine ⟨fun _ _ _ => lookup?_eq_some_iff, fun _ => lookup?_eq_none_iff,
    fun _ _ _ _ _ => eq_of_denotes, fun dt => lookup?_of_denotes (.canonical dt),
    fun _ _ _ => lookup?_legacy_eq_some_iff, fun _ _ _ => lookup?_canonical_eq_some_iff,
    fun name found => ?_, fun name error => ?_⟩
  · rw [lookup_eq_ok_iff, lookup?_eq_some_iff]
  · rw [lookup_eq_error_iff, lookup?_eq_none_iff]

/-- A bare name in mixed case has one meaning, and an older name in capitals has none. -/
theorem looks_up_exactly_denoted_mixed_case :
    (Denotes "rAw12" raw12 .canonical ∧
      ∀ dt spelling, Denotes "rAw12" dt spelling → dt = raw12 ∧ spelling = .canonical) ∧
    ∀ dt spelling, ¬ Denotes "NVCSI_DATA_TYPE_UNKNOWN" dt spelling := by
  obtain ⟨hfound, hmissing, hunique, -⟩ := looks_up_exactly_denoted
  have hraw : Denotes "rAw12" raw12 .canonical := (hfound _ _ _).mp (by decide +kernel)
  exact ⟨⟨hraw, fun dt spelling h => hunique _ dt _ spelling _ h hraw⟩,
    (hmissing _).mp (by decide +kernel)⟩

end DataType

end CaptureProtocol
