import CaptureProtocol.Proofs.Isp.Placement

/-!
# Placing statistics units in steps

The offsets of a layout are a chain of sums, each of which must fit a word for the next to be taken.
Sums of sizes only grow, so the chain goes through exactly if its end fits; besides, a size that is
rounded up needs a whole block of 64 bytes above it. What the steps come to is then what the words
that wrap come to.

* `StatsLayout.behind?_eq_some_iff`, `StatsLayout.behindRow?_eq_some_iff`: one step.
* `StatsLayout.placeHistograms?_eq_some_iff`: the loop over the histograms.
* `StatsLayout.compute?_eq_some_iff`: the steps end in the layout whose units follow one another.
* `StatsLayout.compute?_eq`: **steps that must fit and words that wrap give the same layout**, if
  the surface and the rounded sizes fit; otherwise the steps give none.
-/

set_option autoImplicit false

namespace CaptureProtocol

open StatsRegion

namespace Layout

theorem sum?_eq_some_iff {a b c : UInt64} :
    sum? a b = some c ↔ c.toNat = a.toNat + b.toNat := by
  have hc := c.toNat_lt
  unfold sum?
  split
  · next hfit =>
    rw [Option.some.injEq, ← UInt64.toNat_inj, UInt64.toNat_add, Nat.mod_eq_of_lt hfit, eq_comm]
  · next hover => exact iff_of_false nofun fun h => hover (h ▸ hc)

theorem product?_eq_some_iff {a b c : UInt64} :
    product? a b = some c ↔ c.toNat = a.toNat * b.toNat := by
  have hc := c.toNat_lt
  unfold product?
  split
  · next hfit =>
    rw [Option.some.injEq, ← UInt64.toNat_inj, UInt64.toNat_mul, Nat.mod_eq_of_lt hfit, eq_comm]
  · next hover => exact iff_of_false nofun fun h => hover (h ▸ hc)

end Layout

namespace StatsLayout

/-! ## One step -/

theorem room?_eq_some_iff {size up : UInt64} :
    room? size = some up ↔ size.toNat + 64 < 2 ^ 64 ∧ up.toNat = roundUp size.toNat := by
  have halign : align.toNat.isPowerOfTwo := ⟨6, rfl⟩
  rw [room?, Layout.alignUp?_eq_some_iff halign]
  refine and_congr_right fun hfit => ?_
  have hround : roundUp size.toNat < 2 ^ 64 := by
    have hlt := (StatsRegion.roundUp_bounds size.toNat).2.2
    exact hlt.trans hfit
  rw [← toNat_room hround, UInt64.toNat_inj]
  rfl

theorem behind?_eq_some_iff {cursor size next : UInt64} :
    behind? cursor size = some next ↔
      size.toNat + 64 < 2 ^ 64 ∧ next.toNat = cursor.toNat + roundUp size.toNat := by
  have hlt := next.toNat_lt
  simp only [behind?, Option.bind_eq_bind, Option.bind_eq_some_iff, room?_eq_some_iff,
    Layout.sum?_eq_some_iff]
  constructor
  · rintro ⟨up, ⟨hfit, hup⟩, hnext⟩
    exact ⟨hfit, hup ▸ hnext⟩
  · rintro ⟨hfit, hnext⟩
    have hroom : (room size).toNat = roundUp size.toNat := toNat_room (by omega)
    exact ⟨room size, ⟨hfit, hroom⟩, hroom ▸ hnext⟩

theorem behindOptional?_eq_some_iff {cursor size next : UInt64} :
    behindOptional? cursor size = some next ↔
      size.toNat + 64 < 2 ^ 64 ∧ next.toNat = cursor.toNat + roundUp size.toNat := by
  unfold behindOptional?
  split
  · next hzero =>
    subst hzero
    have hnone : roundUp (0 : UInt64).toNat = 0 := rfl
    have hfit : (0 : UInt64).toNat + 64 < 2 ^ 64 := by decide
    rw [Option.some.injEq, and_iff_right hfit, hnone, Nat.add_zero, UInt64.toNat_inj, eq_comm]
  · exact behind?_eq_some_iff

/-- A row of regions fits if its end does. -/
theorem behindRow?_eq_some_iff {cursor size count next : UInt64} (hpos : 0 < count.toNat) :
    behindRow? cursor size count = some next ↔
      size.toNat + 64 < 2 ^ 64 ∧
        next.toNat = cursor.toNat + count.toNat * roundUp size.toNat := by
  have hlt := next.toNat_lt
  simp only [behindRow?, Option.bind_eq_bind, Option.bind_eq_some_iff, room?_eq_some_iff,
    Layout.product?_eq_some_iff, Layout.sum?_eq_some_iff]
  constructor
  · rintro ⟨up, ⟨hfit, hup⟩, row, hrow, hnext⟩
    rw [hup, Nat.mul_comm] at hrow
    exact ⟨hfit, hrow ▸ hnext⟩
  · rintro ⟨hfit, hnext⟩
    have hrows : (count * room size).toNat = count.toNat * roundUp size.toNat :=
      toNat_mul_room rfl (by omega)
    have hroom : (room size).toNat = roundUp size.toNat := by
      have hle := Nat.le_mul_of_pos_left (roundUp size.toNat) hpos
      exact toNat_room (by omega)
    refine ⟨room size, ⟨hfit, hroom⟩, count * room size, ?_, hrows ▸ hnext⟩
    rw [hrows, hroom, Nat.mul_comm]

/-! ## The histograms -/

theorem PlacedFrom.zero_iff {s : StatsSizes} {i : Nat} {starts : Vector UInt64 3} {cursor : UInt64}
    {placed : Vector UInt64 3 × UInt64} :
    PlacedFrom s i 0 starts cursor placed ↔ (starts, cursor) = placed := by
  constructor
  · intro h
    refine Prod.ext (Vector.ext fun k hk => ?_) ?_
    · have hplace := h.place k hk
      rw [if_neg (by omega)] at hplace
      exact (UInt64.toNat_inj.mp hplace).symm
    · have hbehind := h.behind
      rw [Nat.zero_mul, Nat.add_zero] at hbehind
      exact (UInt64.toNat_inj.mp hbehind).symm
  · rintro rfl
    exact .none s i starts cursor

/-- The loop places the histograms that there are places for, if the last of them fits. -/
theorem placeHistograms?_eq_some_iff (s : StatsSizes) {left i count : Nat}
    {starts : Vector UInt64 3} {cursor : UInt64} {placed : Vector UInt64 3 × UInt64}
    (hcount : count = min (s.histograms.toNat - i) left) :
    placeHistograms? s left i starts cursor = some placed ↔
      (0 < count → s.histogram.toNat + 64 < 2 ^ 64) ∧
        PlacedFrom s i count starts cursor placed := by
  induction left generalizing i count starts cursor with
  | zero =>
    obtain rfl : count = 0 := by omega
    rw [placeHistograms?, Option.some.injEq, PlacedFrom.zero_iff]
    simp
  | succ left ih =>
    rw [placeHistograms?]
    by_cases hmore : i < s.histograms.toNat
    · obtain ⟨rest, rfl, hrest⟩ : ∃ rest, count = rest + 1 ∧
          rest = min (s.histograms.toNat - (i + 1)) left := ⟨count - 1, by omega, by omega⟩
      rw [if_pos hmore]
      simp only [Option.bind_eq_bind, Option.bind_eq_some_iff, behind?_eq_some_iff, ih hrest]
      constructor
      · rintro ⟨next, ⟨hfit, hnext⟩, -, hplaced⟩
        exact ⟨fun _ => hfit, (PlacedFrom.cons_iff hnext).mpr hplaced⟩
      · rintro ⟨hfit, hplaced⟩
        have hbehind := hplaced.behind
        have hlt := placed.2.toNat_lt
        rw [Nat.succ_mul] at hbehind
        have hnext : (cursor + room s.histogram).toNat =
            cursor.toNat + roundUp s.histogram.toNat := toNat_add_room (by omega)
        exact ⟨_, ⟨hfit (Nat.succ_pos _), hnext⟩, fun _ => hfit (Nat.succ_pos _),
          (PlacedFrom.cons_iff hnext).mp hplaced⟩
    · obtain rfl : count = 0 := by omega
      rw [if_neg hmore, Option.some.injEq, PlacedFrom.zero_iff]
      simp

/-! ## The whole layout -/

/-- A layout whose units follow one another is the only one for its sizes. -/
theorem Serial.unique {s : StatsSizes} {l l' : StatsLayout} (h : Serial s l) (h' : Serial s l') :
    l = l' := by
  have hflicker : l.flicker = l'.flicker := UInt64.toNat_inj.mp (h.flicker.trans h'.flicker.symm)
  have hfocus : l.focus = l'.focus := UInt64.toNat_inj.mp (h.focus.trans h'.focus.symm)
  have hautoFocus : l.autoFocus = l'.autoFocus := by
    rw [← UInt64.toNat_inj, h.autoFocus, h'.autoFocus, hfocus]
  have haverage0 : l.average0 = l'.average0 := by
    rw [← UInt64.toNat_inj, h.average0, h'.average0, hautoFocus]
  have haverage1 : l.average1 = l'.average1 := by
    rw [← UInt64.toNat_inj, h.average1, h'.average1, haverage0]
  have hstart : histogramStart s l = histogramStart s l' := by
    unfold histogramStart
    rw [haverage1]
  have hhistograms : l.histograms = l'.histograms := by
    have hmap := h.histograms.trans (hstart ▸ h'.histograms.symm)
    exact Vector.toList_inj.mp (List.map_injective_iff.mpr (fun _ _ => UInt64.toNat_inj.mp) hmap)
  have hpixelCorrection : l.pixelCorrection = l'.pixelCorrection := by
    rw [← UInt64.toNat_inj, h.pixelCorrection, h'.pixelCorrection, hstart]
  have hwideHistogram : l.wideHistogram = l'.wideHistogram := by
    rw [← UInt64.toNat_inj, h.wideHistogram, h'.wideHistogram, hpixelCorrection]
  have htoneMapping : l.toneMapping = l'.toneMapping := by
    rw [← UInt64.toNat_inj, h.toneMapping, h'.toneMapping, hpixelCorrection]
  have htotal : l.total = l'.total := by
    rw [← UInt64.toNat_inj, h.total, h'.total, htoneMapping]
  cases l
  cases l'
  rw [mk.injEq]
  exact ⟨hflicker, hfocus, hautoFocus, haverage0, haverage1, hhistograms, hpixelCorrection,
    hwideHistogram, htoneMapping, htotal⟩

theorem serial_iff {s : StatsSizes} {l : StatsLayout} :
    Serial s l ↔ s.surfaceBytes < 2 ^ 64 ∧ l = compute s := by
  constructor
  · intro h
    have hfit : s.surfaceBytes < 2 ^ 64 := by
      rw [← s.extent_regionSizes, ← Nat.zero_add (extent _), ← h.total_eq]
      exact l.total.toNat_lt
    exact ⟨hfit, h.unique (serial_compute hfit)⟩
  · rintro ⟨hfit, rfl⟩
    exact serial_compute hfit

/-- What holds of the sizes of all regions before the tone mapping. -/
theorem forall_regionSizes_iff {s : StatsSizes} {p : Nat → Prop} (h0 : p 0) :
    (∀ size ∈ s.regionSizes, p size) ↔
      p s.flicker.toNat ∧ p s.focus.toNat ∧ p s.autoFocusRegion.toNat ∧ p s.averageRegion.toNat ∧
        (0 < s.histogramCount → p s.histogram.toNat) ∧ p s.pixelCorrection.toNat ∧
        p s.wideHistogram.toNat := by
  have hwide : (∀ size ∈ if s.wideHistogram = 0 then [] else [s.wideHistogram.toNat], p size) ↔
      p s.wideHistogram.toNat := by
    split
    · next hzero =>
      rw [hzero]
      exact iff_of_true (List.forall_mem_nil p) h0
    · exact List.forall_mem_singleton
  simp only [StatsSizes.regionSizes, List.forall_mem_append, hwide]
  simp [List.mem_replicate, and_assoc, Nat.pos_iff_ne_zero]

theorem compute?_eq_some_iff {s : StatsSizes} {l : StatsLayout} :
    compute? s = some l ↔
      (∀ size ∈ s.regionSizes, size + 64 < 2 ^ 64) ∧ Serial s l := by
  have hregions : 0 < autoFocusRegions.toNat := by decide
  have hregions' : 0 < averageRegions.toNat := by decide
  rw [forall_regionSizes_iff (by decide)]
  simp only [compute?, Option.bind_eq_bind, Option.bind_eq_some_iff, behind?_eq_some_iff,
    behindRow?_eq_some_iff hregions, behindRow?_eq_some_iff hregions', behindOptional?_eq_some_iff,
    placeHistograms?_eq_some_iff s (i := 0) rfl, Layout.sum?_eq_some_iff]
  constructor
  · rintro ⟨focus, ⟨hflicker, hfocus⟩, autoFocus, ⟨hfocusFit, hautoFocus⟩, average0,
      ⟨hregion, haverage0⟩, average1, ⟨haverage, haverage1⟩, cursor, ⟨-, hcursor⟩,
      ⟨histograms, pixelCorrection⟩, ⟨hhistogram, hplaced⟩, wideHistogram,
      ⟨hpixel, hwideHistogram⟩, toneMapping, ⟨hwide, htoneMapping⟩, total, htotal, hl⟩
    cases hl
    refine ⟨⟨hflicker, hfocusFit, hregion, haverage, hhistogram, hpixel, hwide⟩, ?_⟩
    constructor
    case flicker => rfl
    case focus => exact hfocus.trans (Nat.zero_add _)
    case autoFocus => exact hautoFocus
    case average0 => exact haverage0
    case average1 => exact haverage1
    case histograms =>
      have hplaces := hplaced.toNat_places
      rw [hcursor] at hplaces
      exact hplaces
    case pixelCorrection =>
      exact hplaced.behind.trans (hcursor ▸ rfl)
    case wideHistogram =>
      split
      · rfl
      · exact hwideHistogram
    case toneMapping => exact htoneMapping.trans (hwideHistogram ▸ rfl)
    case total => exact htotal
  · rintro ⟨⟨hflicker, hfocusFit, hregion, haverage, hhistogram, hpixel, hwide⟩, hs⟩
    obtain ⟨hfit, rfl⟩ := serial_iff.mp hs
    have hbehind := toNat_behind_pixelCorrection hfit
    have htoneMapping := hs.toneMapping
    rw [← hbehind] at htoneMapping
    exact ⟨_, ⟨hflicker, hs.focus.trans (Nat.zero_add _).symm⟩, _, ⟨hfocusFit, hs.autoFocus⟩, _,
      ⟨hregion, hs.average0⟩, _, ⟨haverage, hs.average1⟩, _,
      ⟨haverage, toNat_histogramCursor hfit⟩, _, ⟨hhistogram, placedFrom_compute hfit⟩, _,
      ⟨hpixel, hbehind⟩, _, ⟨hwide, htoneMapping⟩, _, hs.total, rfl⟩

/--
**Steps that must fit and words that wrap give the same layout.** The steps go through exactly if
the whole surface fits 64-bit words and so does each region before the tone mapping with a block
above it.
-/
theorem compute?_eq (s : StatsSizes) :
    compute? s =
      if s.surfaceBytes < 2 ^ 64 ∧ ∀ size ∈ s.regionSizes, size + 64 < 2 ^ 64 then
        some (compute s)
      else none := by
  refine Option.ext fun l => ?_
  rw [compute?_eq_some_iff, serial_iff]
  split
  · next hfit => rw [Option.some.injEq, and_iff_right hfit.2, and_iff_right hfit.1, eq_comm]
  · next hover => exact iff_of_false (fun h => hover ⟨h.2.1, h.1⟩) nofun

/-- A layout that the steps come to is packed into its surface. -/
theorem packed_of_compute? {s : StatsSizes} {l : StatsLayout} (h : compute? s = some l) :
    Packed (regions s l) l.total.toNat :=
  (compute?_eq_some_iff.mp h).2.packed

/--
A surface that fits, with a region in it that cannot be rounded up in steps: a block above the
largest multiple of 64 ends where the words end.
-/
example :
    let s : StatsSizes := { flicker := 0xFFFFFFFFFFFFFFC0 }
    s.surfaceBytes < 2 ^ 64 ∧ compute? s = none ∧
      compute? fullSizes = some (compute fullSizes) := by
  decide

end StatsLayout

/-- No step of the layout of a generation leaves the words. -/
theorem IspType.compute?_statsSizes (t : IspType) :
    StatsLayout.compute? t.statsSizes = some t.statsLayout := by
  cases t <;> decide

end CaptureProtocol
