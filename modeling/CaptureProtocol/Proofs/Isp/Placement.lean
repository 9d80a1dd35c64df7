import CaptureProtocol.Isp.Stats
import CaptureProtocol.Proofs.Alignment
import Mathlib.Data.List.Chain

/-!
# Where the statistics units lie

The statistics surface holds regions of many sizes: units of one region, rows of regions for the
units that have several, and two units that need not be there. Placing regions in a series, each
from the first boundary behind the one before, wastes less than 64 bytes between any two. The layout
adds up 64-bit words; as long as the whole surface fits these, its regions are such a series.

* `StatsRegion.inSeries`: regions placed one after another.
* `StatsRegion.packed_inSeries`: what is placed so is packed.
* `StatsLayout.placeHistograms_spec`: the loop places as many histograms as there are places for.
* `StatsLayout.Serial.regions_eq`: the regions of a layout are a series.
* `StatsLayout.compute_packed`: **the regions of a layout are packed into the surface** in the order
  of the units, and units that are not there begin at 0.
-/

set_option autoImplicit false

namespace CaptureProtocol

/-- A region of the statistics surface. -/
@[ext] structure StatsRegion where
  /-- Where it begins in the surface. -/
  start : Nat
  /-- How many bytes it has. -/
  size : Nat
  deriving DecidableEq, Repr

namespace StatsRegion

/-- Where a region ends. -/
def stop (r : StatsRegion) : Nat := r.start + r.size

/-- Bytes rounded up to whole blocks of 64. -/
def roundUp (size : Nat) : Nat := (size + 63) / 64 * 64

/-- Regions of some sizes one after another, each from the first boundary behind the one before. -/
def inSeries (cursor : Nat) : List Nat → List StatsRegion
  | [] => []
  | size :: rest => ⟨cursor, size⟩ :: inSeries (cursor + roundUp size) rest

/-- How far regions of some sizes move the cursor. -/
def extent : List Nat → Nat
  | [] => 0
  | size :: rest => roundUp size + extent rest

/--
Regions in order that begin on boundaries, do not overlap, have less than 64 bytes between any one
and the next, and lie within `total` bytes.
-/
structure Packed (regions : List StatsRegion) (total : Nat) : Prop where
  aligned : ∀ r ∈ regions, 64 ∣ r.start
  ordered : regions.Pairwise fun a b => a.stop ≤ b.start
  tight : regions.IsChain fun a b => a.stop ≤ b.start ∧ b.start < a.stop + 64
  within : ∀ r ∈ regions, r.stop ≤ total

/-! ## Series -/

theorem roundUp_bounds (size : Nat) :
    64 ∣ roundUp size ∧ size ≤ roundUp size ∧ roundUp size < size + 64 := by
  refine ⟨Nat.dvd_mul_left 64 _, ?_, ?_⟩ <;> simp only [roundUp] <;> omega

theorem inSeries_append (cursor : Nat) (front rest : List Nat) :
    inSeries cursor (front ++ rest) =
      inSeries cursor front ++ inSeries (cursor + extent front) rest := by
  induction front generalizing cursor with
  | nil => simp [inSeries, extent]
  | cons size front ih => simp [inSeries, extent, ih, Nat.add_assoc]

/-- A row of regions of one size: region `k` begins `k` rounded sizes behind the first. -/
theorem inSeries_replicate (cursor size count : Nat) :
    inSeries cursor (List.replicate count size) =
      (List.range count).map fun k => ⟨cursor + k * roundUp size, size⟩ := by
  induction count generalizing cursor with
  | zero => rfl
  | succ count ih =>
    rw [List.replicate_succ, inSeries, ih, List.range_succ_eq_map, List.map_cons, List.map_map,
      Nat.zero_mul, Nat.add_zero]
    congr 1
    refine List.map_congr_left fun k _ => ?_
    rw [Function.comp_apply, Nat.succ_mul, Nat.add_comm (k * _), Nat.add_assoc]

theorem extent_append (front rest : List Nat) :
    extent (front ++ rest) = extent front + extent rest := by
  induction front with
  | nil => simp [extent]
  | cons size front ih => simp [extent, ih, Nat.add_assoc]

theorem extent_replicate (size count : Nat) :
    extent (List.replicate count size) = count * roundUp size := by
  induction count with
  | zero => simp [extent]
  | succ count ih => rw [List.replicate_succ, extent, ih, Nat.succ_mul, Nat.add_comm]

theorem start_le_of_mem {cursor : Nat} {sizes : List Nat} {r : StatsRegion}
    (h : r ∈ inSeries cursor sizes) : cursor ≤ r.start := by
  induction sizes generalizing cursor with
  | nil => cases h
  | cons size rest ih =>
    rcases List.mem_cons.mp h with rfl | h
    · exact Nat.le_refl _
    · exact Nat.le_trans (Nat.le_add_right _ _) (ih h)

theorem aligned_inSeries {cursor : Nat} (hc : 64 ∣ cursor) {sizes : List Nat} {r : StatsRegion}
    (h : r ∈ inSeries cursor sizes) : 64 ∣ r.start := by
  induction sizes generalizing cursor with
  | nil => cases h
  | cons size rest ih =>
    rcases List.mem_cons.mp h with rfl | h
    · exact hc
    · exact ih (Nat.dvd_add hc (roundUp_bounds size).1) h

theorem ordered_inSeries (cursor : Nat) (sizes : List Nat) :
    (inSeries cursor sizes).Pairwise fun a b => a.stop ≤ b.start := by
  induction sizes generalizing cursor with
  | nil => exact .nil
  | cons size rest ih =>
    refine .cons (fun r hr => ?_) (ih _)
    have hle := start_le_of_mem hr
    have hround := (roundUp_bounds size).2.1
    simp only [stop]
    omega

theorem tight_inSeries (cursor : Nat) (sizes : List Nat) :
    (inSeries cursor sizes).IsChain fun a b => a.stop ≤ b.start ∧ b.start < a.stop + 64 := by
  induction sizes generalizing cursor with
  | nil => exact .nil
  | cons size rest ih =>
    cases rest with
    | nil => exact .singleton _
    | cons next rest =>
      obtain ⟨-, hle, hlt⟩ := roundUp_bounds size
      refine .cons_cons ⟨?_, ?_⟩ (ih _) <;> simp only [stop] <;> omega

/-- The last region of a series need not be rounded up to end within it. -/
theorem stop_le_of_mem {cursor last : Nat} {sizes : List Nat} {r : StatsRegion}
    (h : r ∈ inSeries cursor (sizes ++ [last])) : r.stop ≤ cursor + extent sizes + last := by
  induction sizes generalizing cursor with
  | nil =>
    obtain rfl := List.mem_singleton.mp h
    exact Nat.le_refl _
  | cons size rest ih =>
    have hround := (roundUp_bounds size).2.1
    rcases List.mem_cons.mp h with rfl | h
    · simp only [stop, extent]
      omega
    · have hrest := ih h
      simp only [extent] at hrest ⊢
      omega

/-- **A series from a boundary on is packed**, and its last region ends it. -/
theorem packed_inSeries {cursor : Nat} (hc : 64 ∣ cursor) (sizes : List Nat) (last : Nat) :
    Packed (inSeries cursor (sizes ++ [last])) (cursor + extent sizes + last) where
  aligned _ hr := aligned_inSeries hc hr
  ordered := ordered_inSeries cursor _
  tight := tight_inSeries cursor _
  within _ hr := stop_le_of_mem hr

end StatsRegion

open StatsRegion

/-! ## The units -/

namespace StatsSizes

/-- How many histograms have a place in the surface. -/
def histogramCount (s : StatsSizes) : Nat := min s.histograms.toNat 3

/-- The sizes of the regions before the tone mapping, in order. -/
def regionSizes (s : StatsSizes) : List Nat :=
  [s.flicker.toNat, s.focus.toNat] ++ List.replicate 8 s.autoFocusRegion.toNat ++
  List.replicate 4 s.averageRegion.toNat ++ List.replicate 4 s.averageRegion.toNat ++
  List.replicate s.histogramCount s.histogram.toNat ++ [s.pixelCorrection.toNat] ++
  (if s.wideHistogram = 0 then [] else [s.wideHistogram.toNat])

/-- The bytes that the whole surface needs. -/
def surfaceBytes (s : StatsSizes) : Nat :=
  roundUp s.flicker.toNat + roundUp s.focus.toNat + 8 * roundUp s.autoFocusRegion.toNat +
    4 * roundUp s.averageRegion.toNat + 4 * roundUp s.averageRegion.toNat +
    s.histogramCount * roundUp s.histogram.toNat + roundUp s.pixelCorrection.toNat +
    roundUp s.wideHistogram.toNat + s.toneMapping.toNat

/-- A histogram that is not there takes as much room as an empty one. -/
theorem extent_wideHistogram (s : StatsSizes) :
    extent (if s.wideHistogram = 0 then [] else [s.wideHistogram.toNat]) =
      roundUp s.wideHistogram.toNat := by
  split
  · next h =>
    rw [h]
    rfl
  · exact Nat.add_zero _

theorem extent_regionSizes (s : StatsSizes) :
    extent s.regionSizes + s.toneMapping.toNat = s.surfaceBytes := by
  simp only [regionSizes, surfaceBytes, extent_append, extent_replicate, extent_wideHistogram]
  simp only [extent, Nat.add_zero]

end StatsSizes

namespace StatsLayout

/-- The regions of a unit that has several of one size. -/
def row (start size : UInt64) (count : Nat) : List StatsRegion :=
  (List.range count).map fun k => ⟨start.toNat + k * roundUp size.toNat, size.toNat⟩

/-- The regions of a surface for units of some sizes, in the order of the units. -/
def regions (s : StatsSizes) (l : StatsLayout) : List StatsRegion :=
  [⟨l.flicker.toNat, s.flicker.toNat⟩, ⟨l.focus.toNat, s.focus.toNat⟩] ++
  row l.autoFocus s.autoFocusRegion 8 ++ row l.average0 s.averageRegion 4 ++
  row l.average1 s.averageRegion 4 ++
  (l.histograms.toList.take s.histogramCount).map (fun h => ⟨h.toNat, s.histogram.toNat⟩) ++
  [⟨l.pixelCorrection.toNat, s.pixelCorrection.toNat⟩] ++
  (if s.wideHistogram = 0 then [] else [⟨l.wideHistogram.toNat, s.wideHistogram.toNat⟩]) ++
  [⟨l.toneMapping.toNat, s.toneMapping.toNat⟩]

/-- Where the histograms begin, if there are any: behind the second averaging unit. -/
def histogramStart (s : StatsSizes) (l : StatsLayout) : Nat :=
  l.average1.toNat + 4 * roundUp s.averageRegion.toNat

/-- Each unit begins where the regions of the unit before it end. -/
structure Serial (s : StatsSizes) (l : StatsLayout) : Prop where
  flicker : l.flicker.toNat = 0
  focus : l.focus.toNat = roundUp s.flicker.toNat
  autoFocus : l.autoFocus.toNat = l.focus.toNat + roundUp s.focus.toNat
  average0 : l.average0.toNat = l.autoFocus.toNat + 8 * roundUp s.autoFocusRegion.toNat
  average1 : l.average1.toNat = l.average0.toNat + 4 * roundUp s.averageRegion.toNat
  histograms : l.histograms.toList.map UInt64.toNat =
    (List.range 3).map fun k =>
      if k < s.histogramCount then histogramStart s l + k * roundUp s.histogram.toNat else 0
  pixelCorrection : l.pixelCorrection.toNat =
    histogramStart s l + s.histogramCount * roundUp s.histogram.toNat
  wideHistogram : l.wideHistogram.toNat =
    if s.wideHistogram = 0 then 0
    else l.pixelCorrection.toNat + roundUp s.pixelCorrection.toNat
  toneMapping : l.toneMapping.toNat =
    l.pixelCorrection.toNat + roundUp s.pixelCorrection.toNat + roundUp s.wideHistogram.toNat
  total : l.total.toNat = l.toneMapping.toNat + s.toneMapping.toNat

theorem toNat_room {size : UInt64} (h : roundUp size.toNat < 2 ^ 64) :
    (room size).toNat = roundUp size.toNat := by
  have hfit : size.toNat + 63 < 2 ^ 64 := by
    simp only [roundUp] at h
    omega
  exact Layout.toNat_alignUp (show align.toNat.isPowerOfTwo from ⟨6, rfl⟩) hfit

theorem toNat_add_room {cursor size : UInt64}
    (h : cursor.toNat + roundUp size.toNat < 2 ^ 64) :
    (cursor + room size).toNat = cursor.toNat + roundUp size.toNat := by
  have hroom : (room size).toNat = roundUp size.toNat := toNat_room (by omega)
  rw [UInt64.toNat_add, hroom, Nat.mod_eq_of_lt h]

/-- No room at all is taken by none of something, whatever its size. -/
theorem toNat_mul_room {size count : UInt64} {n : Nat} (hn : count.toNat = n)
    (h : n * roundUp size.toNat < 2 ^ 64) :
    (count * room size).toNat = n * roundUp size.toNat := by
  subst hn
  rw [UInt64.toNat_mul]
  by_cases hc : count.toNat = 0
  · simp [hc]
  · have hle : roundUp size.toNat ≤ count.toNat * roundUp size.toNat :=
      Nat.le_mul_of_pos_left _ (Nat.pos_of_ne_zero hc)
    rw [toNat_room (Nat.lt_of_le_of_lt hle h), Nat.mod_eq_of_lt h]

theorem toNat_add_rooms {cursor size count : UInt64} {n : Nat} (hn : count.toNat = n)
    (h : cursor.toNat + n * roundUp size.toNat < 2 ^ 64) :
    (cursor + count * room size).toNat = cursor.toNat + n * roundUp size.toNat := by
  have hrooms : (count * room size).toNat = n * roundUp size.toNat :=
    toNat_mul_room hn (by omega)
  rw [UInt64.toNat_add, hrooms, Nat.mod_eq_of_lt h]

/-! ## The histograms -/

/--
What placing histograms comes to: one after another from the cursor on, without a gap in their
numbers, and the cursor behind the last of them. Other places stay as they were.
-/
structure PlacedFrom (s : StatsSizes) (i count : Nat) (starts : Vector UInt64 3) (cursor : UInt64)
    (placed : Vector UInt64 3 × UInt64) : Prop where
  behind : placed.2.toNat = cursor.toNat + count * roundUp s.histogram.toNat
  place : ∀ k (hk : k < 3), placed.1[k].toNat =
    if i ≤ k ∧ k < i + count then cursor.toNat + (k - i) * roundUp s.histogram.toNat
    else starts[k].toNat

theorem PlacedFrom.none (s : StatsSizes) (i : Nat) (starts : Vector UInt64 3) (cursor : UInt64) :
    PlacedFrom s i 0 starts cursor (starts, cursor) where
  behind := by rw [Nat.zero_mul, Nat.add_zero]
  place := fun k hk => by rw [if_neg (by omega)]

/-- A histogram at the cursor and others behind it are one more. -/
theorem PlacedFrom.cons_iff {s : StatsSizes} {i count : Nat} {starts : Vector UInt64 3}
    {cursor next : UInt64} {placed : Vector UInt64 3 × UInt64}
    (hnext : next.toNat = cursor.toNat + roundUp s.histogram.toNat) :
    PlacedFrom s i (count + 1) starts cursor placed ↔
      PlacedFrom s (i + 1) count (starts.setIfInBounds i cursor) next placed := by
  have hplace : ∀ k (hk : k < 3),
      (if i + 1 ≤ k ∧ k < i + 1 + count then
          next.toNat + (k - (i + 1)) * roundUp s.histogram.toNat
        else (starts.setIfInBounds i cursor)[k].toNat) =
      if i ≤ k ∧ k < i + (count + 1) then cursor.toNat + (k - i) * roundUp s.histogram.toNat
        else starts[k].toNat := by
    intro k hk
    rw [Vector.getElem_setIfInBounds hk, hnext]
    by_cases hik : i = k
    · subst hik
      rw [if_neg (by omega), if_pos rfl, if_pos (by omega), Nat.sub_self, Nat.zero_mul,
        Nat.add_zero]
    · rw [if_neg hik]
      by_cases hin : i + 1 ≤ k ∧ k < i + 1 + count
      · have hsucc : k - i = k - (i + 1) + 1 := by omega
        rw [if_pos hin, if_pos (by omega), hsucc, Nat.succ_mul]
        omega
      · rw [if_neg hin, if_neg (by omega)]
  have hbehind : cursor.toNat + (count + 1) * roundUp s.histogram.toNat =
      next.toNat + count * roundUp s.histogram.toNat := by
    rw [hnext, Nat.succ_mul]
    omega
  constructor
  · intro h
    exact ⟨h.behind.trans hbehind, fun k hk => (h.place k hk).trans (hplace k hk).symm⟩
  · intro h
    exact ⟨h.behind.trans hbehind.symm, fun k hk => (h.place k hk).trans (hplace k hk)⟩

/-- Histograms are placed as long as there are any; the places behind them are left at 0. -/
theorem PlacedFrom.toNat_places {s : StatsSizes} {count : Nat} {cursor : UInt64}
    {placed : Vector UInt64 3 × UInt64}
    (h : PlacedFrom s 0 count (.replicate 3 0) cursor placed) :
    placed.1.toList.map UInt64.toNat =
      (List.range 3).map fun k =>
        if k < count then cursor.toNat + k * roundUp s.histogram.toNat else 0 := by
  refine List.ext_getElem (by simp) fun k hk hk' => ?_
  have hk3 : k < 3 := by simpa using hk
  have hplace := h.place k hk3
  rw [Nat.zero_add, Nat.sub_zero, Vector.getElem_replicate] at hplace
  simpa using hplace

/-- The loop places as many histograms as there are places and histograms left. -/
theorem placeHistograms_spec (s : StatsSizes) {left i : Nat} {starts : Vector UInt64 3}
    {cursor : UInt64}
    (hfit : cursor.toNat + min (s.histograms.toNat - i) left * roundUp s.histogram.toNat <
      2 ^ 64) :
    PlacedFrom s i (min (s.histograms.toNat - i) left) starts cursor
      (placeHistograms s left i starts cursor) := by
  induction left generalizing i starts cursor with
  | zero =>
    rw [Nat.min_zero]
    exact .none s i starts cursor
  | succ left ih =>
    rw [placeHistograms]
    by_cases hmore : i < s.histograms.toNat
    · have hcount : min (s.histograms.toNat - i) (left + 1) =
          min (s.histograms.toNat - (i + 1)) left + 1 := by omega
      rw [hcount, Nat.succ_mul] at hfit
      have hnext : cursor.toNat + roundUp s.histogram.toNat < 2 ^ 64 := by omega
      have hbehind := toNat_add_room hnext
      rw [if_pos hmore, hcount]
      refine (PlacedFrom.cons_iff hbehind).mpr (ih ?_)
      rw [hbehind]
      omega
    · have hcount : min (s.histograms.toNat - i) (left + 1) = 0 := by omega
      rw [if_neg hmore, hcount]
      exact .none s i starts cursor

/-! ## The words of a layout -/

/-- The cursor that the histograms are placed from. -/
def histogramCursor (s : StatsSizes) : UInt64 :=
  (compute s).average1 + room s.averageRegion * averageRegions

section Words

variable {s : StatsSizes} (h : s.surfaceBytes < 2 ^ 64)

include h

theorem toNat_focus : (compute s).focus.toNat = roundUp s.flicker.toNat := by
  unfold StatsSizes.surfaceBytes at h
  exact toNat_room (by omega)

theorem toNat_autoFocus :
    (compute s).autoFocus.toNat = (compute s).focus.toNat + roundUp s.focus.toNat := by
  have hfocus := toNat_focus h
  unfold StatsSizes.surfaceBytes at h
  show ((compute s).focus + room s.focus).toNat = _
  exact toNat_add_room (by omega)

theorem toNat_average0 :
    (compute s).average0.toNat =
      (compute s).autoFocus.toNat + 8 * roundUp s.autoFocusRegion.toNat := by
  have hfocus := toNat_focus h
  have hautoFocus := toNat_autoFocus h
  unfold StatsSizes.surfaceBytes at h
  show ((compute s).autoFocus + room s.autoFocusRegion * autoFocusRegions).toNat = _
  rw [UInt64.mul_comm]
  exact toNat_add_rooms rfl (by omega)

theorem toNat_average1 :
    (compute s).average1.toNat =
      (compute s).average0.toNat + 4 * roundUp s.averageRegion.toNat := by
  have hfocus := toNat_focus h
  have hautoFocus := toNat_autoFocus h
  have haverage0 := toNat_average0 h
  unfold StatsSizes.surfaceBytes at h
  show ((compute s).average0 + room s.averageRegion * averageRegions).toNat = _
  rw [UInt64.mul_comm]
  exact toNat_add_rooms rfl (by omega)

/-- What is left for the units from the histograms on. -/
theorem histogramStart_add_lt :
    histogramStart s (compute s) + s.histogramCount * roundUp s.histogram.toNat +
      roundUp s.pixelCorrection.toNat + roundUp s.wideHistogram.toNat + s.toneMapping.toNat <
        2 ^ 64 := by
  have hfocus := toNat_focus h
  have hautoFocus := toNat_autoFocus h
  have haverage0 := toNat_average0 h
  have haverage1 := toNat_average1 h
  unfold StatsSizes.surfaceBytes at h
  unfold histogramStart
  omega

theorem toNat_histogramCursor : (histogramCursor s).toNat = histogramStart s (compute s) := by
  have hleft := histogramStart_add_lt h
  unfold histogramStart at hleft
  rw [histogramCursor, UInt64.mul_comm]
  exact toNat_add_rooms rfl (by omega)

theorem placedFrom_compute :
    PlacedFrom s 0 s.histogramCount (.replicate 3 0) (histogramCursor s)
      ((compute s).histograms, (compute s).pixelCorrection) := by
  have hleft := histogramStart_add_lt h
  rw [← toNat_histogramCursor h] at hleft
  unfold StatsSizes.histogramCount at hleft ⊢
  refine placeHistograms_spec s ?_
  rw [Nat.sub_zero]
  omega

theorem toNat_pixelCorrection :
    (compute s).pixelCorrection.toNat =
      histogramStart s (compute s) + s.histogramCount * roundUp s.histogram.toNat := by
  rw [← toNat_histogramCursor h]
  exact (placedFrom_compute h).behind

theorem toNat_behind_pixelCorrection :
    ((compute s).pixelCorrection + room s.pixelCorrection).toNat =
      (compute s).pixelCorrection.toNat + roundUp s.pixelCorrection.toNat := by
  have hleft := histogramStart_add_lt h
  have hpixelCorrection := toNat_pixelCorrection h
  exact toNat_add_room (by omega)

theorem toNat_toneMapping :
    (compute s).toneMapping.toNat = (compute s).pixelCorrection.toNat +
      roundUp s.pixelCorrection.toNat + roundUp s.wideHistogram.toNat := by
  have hleft := histogramStart_add_lt h
  have hpixelCorrection := toNat_pixelCorrection h
  have hbehind := toNat_behind_pixelCorrection h
  rw [← hbehind]
  show (if s.wideHistogram = 0 then (compute s).pixelCorrection + room s.pixelCorrection
    else (compute s).pixelCorrection + room s.pixelCorrection + room s.wideHistogram).toNat = _
  split
  · next hnone =>
    rw [hnone]
    rfl
  · exact toNat_add_room (by omega)

/-- The units of a layout follow one another if the whole surface fits 64-bit words. -/
theorem serial_compute : Serial s (compute s) where
  flicker := rfl
  focus := toNat_focus h
  autoFocus := toNat_autoFocus h
  average0 := toNat_average0 h
  average1 := toNat_average1 h
  histograms := by
    rw [← toNat_histogramCursor h]
    exact (placedFrom_compute h).toNat_places
  pixelCorrection := toNat_pixelCorrection h
  wideHistogram := by
    show (if s.wideHistogram = 0 then 0 else (compute s).pixelCorrection +
      room s.pixelCorrection).toNat = _
    rw [← toNat_behind_pixelCorrection h, apply_ite UInt64.toNat]
    rfl
  toneMapping := toNat_toneMapping h
  total := by
    have hleft := histogramStart_add_lt h
    have hpixelCorrection := toNat_pixelCorrection h
    have htoneMapping := toNat_toneMapping h
    show ((compute s).toneMapping + s.toneMapping).toNat = _
    rw [UInt64.toNat_add, Nat.mod_eq_of_lt (by omega)]

end Words

namespace Serial

variable {s : StatsSizes} {l : StatsLayout} (hs : Serial s l)

include hs

theorem histogram_regions :
    (l.histograms.toList.take s.histogramCount).map
        (fun h => (⟨h.toNat, s.histogram.toNat⟩ : StatsRegion)) =
      inSeries (histogramStart s l) (List.replicate s.histogramCount s.histogram.toNat) := by
  have hle : s.histogramCount ≤ 3 := Nat.min_le_right _ _
  have hmap : (l.histograms.toList.take s.histogramCount).map
        (fun h => (⟨h.toNat, s.histogram.toNat⟩ : StatsRegion)) =
      ((l.histograms.toList.map UInt64.toNat).take s.histogramCount).map
        fun start => ⟨start, s.histogram.toNat⟩ := by
    rw [← List.map_take, List.map_map]
    rfl
  rw [hmap, hs.histograms, ← List.map_take, List.take_range, Nat.min_eq_left hle, List.map_map,
    inSeries_replicate]
  refine List.map_congr_left fun k hk => ?_
  rw [Function.comp_apply, if_pos (List.mem_range.mp hk)]

theorem wideHistogram_regions :
    (if s.wideHistogram = 0 then [] else
        [(⟨l.wideHistogram.toNat, s.wideHistogram.toNat⟩ : StatsRegion)]) =
      inSeries (l.pixelCorrection.toNat + roundUp s.pixelCorrection.toNat)
        (if s.wideHistogram = 0 then [] else [s.wideHistogram.toNat]) := by
  rw [hs.wideHistogram]
  split <;> rfl

/-- The regions of units that follow one another are a series. -/
theorem regions_eq : regions s l = inSeries 0 (s.regionSizes ++ [s.toneMapping.toNat]) := by
  rw [regions, hs.histogram_regions, hs.wideHistogram_regions]
  simp only [row, ← inSeries_replicate, StatsSizes.regionSizes, inSeries_append, extent_append,
    extent_replicate, StatsSizes.extent_wideHistogram]
  -- Both sides have the same parts; what is left is that each begins where the one before ends.
  simp only [inSeries, extent, hs.toneMapping, hs.pixelCorrection, histogramStart, hs.average1,
    hs.average0, hs.autoFocus, hs.focus, hs.flicker, Nat.zero_add, Nat.add_zero, Nat.add_assoc]

theorem total_eq : l.total.toNat = 0 + extent s.regionSizes + s.toneMapping.toNat := by
  have hextent := s.extent_regionSizes
  have htotal := hs.total
  rw [hs.toneMapping, hs.pixelCorrection, histogramStart, hs.average1, hs.average0, hs.autoFocus,
    hs.focus] at htotal
  unfold StatsSizes.surfaceBytes at hextent
  omega

theorem packed : Packed (regions s l) l.total.toNat := by
  rw [hs.regions_eq, hs.total_eq]
  exact packed_inSeries (Nat.dvd_zero 64) _ _

theorem histogram_eq_zero {k : Fin 3} (hk : s.histograms.toNat ≤ k) : l.histograms[k] = 0 := by
  have habsent : ¬ k.val < s.histogramCount :=
    Nat.not_lt_of_le (Nat.le_trans (Nat.min_le_left _ _) hk)
  have hplace : (l.histograms.toList.map UInt64.toNat)[k.val]? = some 0 := by
    rw [hs.histograms]
    simp [habsent]
  have hword : l.histograms[k].toNat = 0 := by simpa using hplace
  exact UInt64.toNat_inj.mp hword

end Serial

/--
**The regions of a layout are packed into the surface.** If the whole surface fits 64-bit words,
then its regions, in the order of the units, begin on 64-byte boundaries from 0 on, do not overlap,
have less than 64 bytes between any one and the next, and lie within the surface, which ends with
the tone mapping. Histograms that are not there begin at 0, those of 24-bit samples among them.
-/
theorem compute_packed (s : StatsSizes) (h : s.surfaceBytes < 2 ^ 64) :
    Packed (regions s (compute s)) (compute s).total.toNat ∧
    (compute s).flicker = 0 ∧
    (compute s).total.toNat = (compute s).toneMapping.toNat + s.toneMapping.toNat ∧
    (compute s).total.toNat = s.surfaceBytes ∧
    (∀ k : Fin 3, s.histograms.toNat ≤ k → (compute s).histograms[k] = 0) ∧
    (s.wideHistogram = 0 → (compute s).wideHistogram = 0) := by
  have hs := serial_compute h
  have hbytes : (compute s).total.toNat = s.surfaceBytes := by
    rw [hs.total_eq, Nat.zero_add, s.extent_regionSizes]
  refine ⟨hs.packed, rfl, hs.total, hbytes, fun k hk => hs.histogram_eq_zero hk, fun hzero => ?_⟩
  exact if_pos hzero

/-- Sizes of a surface that has every region and leaves none of the 64-bit words out. -/
def fullSizes : StatsSizes :=
  { flicker := 1, focus := 0, autoFocusRegion := 65, averageRegion := 64, histogram := 63,
    histograms := 7, pixelCorrection := 1, wideHistogram := 1,
    toneMapping := 0xFFFFFFFFFFFFFFFF - 1920 }

/-- The surface that ends with the last byte that a word can count is packed, all 24 regions. -/
theorem compute_packed_full :
    fullSizes.surfaceBytes < 2 ^ 64 ∧
      (regions fullSizes (compute fullSizes)).length = 24 ∧
      Packed (regions fullSizes (compute fullSizes)) (2 ^ 64 - 1) := by
  have hfit : fullSizes.surfaceBytes < 2 ^ 64 := by decide
  obtain ⟨hpacked, -, -, hbytes, -⟩ := compute_packed fullSizes hfit
  rw [hbytes] at hpacked
  exact ⟨hfit, by decide, hpacked⟩

end StatsLayout

/-- The surface of every generation is packed. -/
theorem IspType.statsLayout_packed (t : IspType) :
    Packed (StatsLayout.regions t.statsSizes t.statsLayout) t.statsLayout.total.toNat := by
  have hfit : t.statsSizes.surfaceBytes < 2 ^ 64 := by cases t <;> decide
  exact (StatsLayout.serial_compute hfit).packed

end CaptureProtocol
