import CaptureProtocol.Layout

/-!
# ISP generations and their statistics

Each ISP generation writes its statistics units one after another into a statistics surface. Every
unit, and every region of interest of a unit that has several, begins on a 64-byte boundary.

* `StatsLayout.placeHistograms`: the loop over the histograms, of which a layout has three at most.
* `StatsLayout.compute`: where each unit begins, and how long the surface is, in words that wrap.
* `StatsLayout.compute?`: the same in steps that must fit in words.
-/

set_option autoImplicit false

namespace CaptureProtocol

/-- The largest size of each statistics unit in bytes, and how many histograms there are. -/
structure StatsSizes where
  /-- Flicker band. -/
  flicker : UInt64 := 0
  /-- Focus metrics. -/
  focus : UInt64 := 0
  /-- Auto-focus metrics of one region. -/
  autoFocusRegion : UInt64 := 0
  /-- Local average and clipping of one region. -/
  averageRegion : UInt64 := 0
  /-- One histogram. -/
  histogram : UInt64 := 0
  histograms : UInt64 := 0
  /-- Correction of outlying or defective pixels. -/
  pixelCorrection : UInt64 := 0
  /-- Histogram of 24-bit samples; 0 where there is none. -/
  wideHistogram : UInt64 := 0
  /-- Local tone mapping. -/
  toneMapping : UInt64 := 0
  deriving DecidableEq, Repr, Inhabited

/-- Where each statistics unit begins. -/
structure StatsLayout where
  flicker : UInt64
  focus : UInt64
  autoFocus : UInt64
  average0 : UInt64
  average1 : UInt64
  /-- The histograms; 0 where there is none. -/
  histograms : Vector UInt64 3
  pixelCorrection : UInt64
  /-- The histogram of 24-bit samples; 0 where there is none. -/
  wideHistogram : UInt64
  toneMapping : UInt64
  /-- Bytes of the whole surface. -/
  total : UInt64
  deriving DecidableEq, Repr

namespace StatsLayout

/-- Alignment of statistics units. -/
def align : UInt64 := 64

/-- Regions of the auto-focus unit. -/
def autoFocusRegions : UInt64 := 8

/-- Regions of an averaging unit. -/
def averageRegions : UInt64 := 4

/-- The room that a unit or region of the given size takes. -/
def room (size : UInt64) : UInt64 := Layout.alignUp size align

/--
Places histograms from number `i` on, at most `left` and no more than there are: each begins at the
cursor, which then moves behind it.
-/
def placeHistograms (sizes : StatsSizes) :
    (left i : Nat) → Vector UInt64 3 → UInt64 → Vector UInt64 3 × UInt64
  | 0, _, starts, cursor => (starts, cursor)
  | left + 1, i, starts, cursor =>
    if i < sizes.histograms.toNat then
      placeHistograms sizes left (i + 1) (starts.setIfInBounds i cursor)
        (cursor + room sizes.histogram)
    else (starts, cursor)

/-- The units one after another, in the order of the fields. -/
def compute (sizes : StatsSizes) : StatsLayout :=
  let focus := room sizes.flicker
  let autoFocus := focus + room sizes.focus
  let average0 := autoFocus + room sizes.autoFocusRegion * autoFocusRegions
  let average1 := average0 + room sizes.averageRegion * averageRegions
  let (histograms, pixelCorrection) :=
    placeHistograms sizes 3 0 (.replicate 3 0)
      (average1 + room sizes.averageRegion * averageRegions)
  let wideHistogram := pixelCorrection + room sizes.pixelCorrection
  let toneMapping :=
    if sizes.wideHistogram = 0 then wideHistogram else wideHistogram + room sizes.wideHistogram
  { flicker := 0
    focus := focus
    autoFocus := autoFocus
    average0 := average0
    average1 := average1
    histograms := histograms
    pixelCorrection := pixelCorrection
    wideHistogram := if sizes.wideHistogram = 0 then 0 else wideHistogram
    toneMapping := toneMapping
    total := toneMapping + sizes.toneMapping }

/-! ## Steps that must fit -/

/-- The room that a unit or region takes, where no step may leave the words. -/
def room? (size : UInt64) : Option UInt64 := Layout.alignUp? size align

/-- The cursor behind one region. -/
def behind? (cursor size : UInt64) : Option UInt64 := do Layout.sum? cursor (← room? size)

/-- The cursor behind a region that is there only if it has a size. -/
def behindOptional? (cursor size : UInt64) : Option UInt64 :=
  if size = 0 then some cursor else behind? cursor size

/-- The cursor behind a row of regions of one size. -/
def behindRow? (cursor size count : UInt64) : Option UInt64 := do
  Layout.sum? cursor (← Layout.product? (← room? size) count)

/-- Places histograms as `placeHistograms` does. -/
def placeHistograms? (sizes : StatsSizes) :
    (left i : Nat) → Vector UInt64 3 → UInt64 → Option (Vector UInt64 3 × UInt64)
  | 0, _, starts, cursor => some (starts, cursor)
  | left + 1, i, starts, cursor =>
    if i < sizes.histograms.toNat then do
      placeHistograms? sizes left (i + 1) (starts.setIfInBounds i cursor)
        (← behind? cursor sizes.histogram)
    else some (starts, cursor)

/-- The units one after another, unless a step leaves the words. -/
def compute? (sizes : StatsSizes) : Option StatsLayout := do
  let focus ← behind? 0 sizes.flicker
  let autoFocus ← behind? focus sizes.focus
  let average0 ← behindRow? autoFocus sizes.autoFocusRegion autoFocusRegions
  let average1 ← behindRow? average0 sizes.averageRegion averageRegions
  let cursor ← behindRow? average1 sizes.averageRegion averageRegions
  let (histograms, pixelCorrection) ← placeHistograms? sizes 3 0 (.replicate 3 0) cursor
  let wideHistogram ← behind? pixelCorrection sizes.pixelCorrection
  let toneMapping ← behindOptional? wideHistogram sizes.wideHistogram
  let total ← Layout.sum? toneMapping sizes.toneMapping
  return {
    flicker := 0
    focus := focus
    autoFocus := autoFocus
    average0 := average0
    average1 := average1
    histograms := histograms
    pixelCorrection := pixelCorrection
    wideHistogram := if sizes.wideHistogram = 0 then 0 else wideHistogram
    toneMapping := toneMapping
    total := total }

end StatsLayout

/-- A generation of the ISP. -/
inductive IspType where
  | isp5 | isp6 | isp7
  deriving DecidableEq, Repr, Inhabited

namespace IspType

/-- The generations by number. -/
def all : List IspType := [isp5, isp6, isp7]

/-- The number of a generation in a program. -/
def raw : IspType → UInt16
  | isp5 => 3 | isp6 => 4 | isp7 => 5

/-- The name of a generation. -/
def name : IspType → String
  | isp5 => "Isp5" | isp6 => "Isp6" | isp7 => "Isp7"

/-- The generation with a number. -/
def ofRaw? (raw : UInt16) : Option IspType := all.find? fun t => t.raw == raw

/-- The sizes of the statistics units of a generation. -/
def statsSizes : IspType → StatsSizes
  | isp5 =>
    { flicker := 1056, focus := 32800, autoFocusRegion := 48, averageRegion := 32800,
      histogram := 4144, histograms := 2, pixelCorrection := 64, wideHistogram := 0,
      toneMapping := 1056 }
  | isp6 =>
    { flicker := 2080, focus := 32800, autoFocusRegion := 48, averageRegion := 32800,
      histogram := 4144, histograms := 2, pixelCorrection := 64, wideHistogram := 1056,
      toneMapping := 1056 }
  | isp7 =>
    { flicker := 2080, focus := 32800, autoFocusRegion := 48, averageRegion := 32800,
      histogram := 4144, histograms := 3, pixelCorrection := 128, wideHistogram := 0,
      toneMapping := 1056 }

/-- Where the statistics units of a generation begin. -/
def statsLayout (t : IspType) : StatsLayout := StatsLayout.compute t.statsSizes

theorem ofRaw?_raw (t : IspType) : ofRaw? t.raw = some t := by
  cases t <;> rfl

theorem raw_of_ofRaw? {raw : UInt16} {t : IspType} (h : ofRaw? raw = some t) : t.raw = raw := by
  simpa using List.find?_some h

theorem ofRaw?_eq_none_iff {raw : UInt16} : ofRaw? raw = none ↔ raw.toNat ∉ [3, 4, 5] := by
  have hnumber : ∀ t : IspType, t.raw = raw ↔ t.raw.toNat = raw.toNat := fun _ =>
    UInt16.toNat_inj.symm
  simp only [ofRaw?, all, List.find?_eq_none, beq_iff_eq, hnumber]
  simp [IspType.raw, eq_comm]

end IspType

end CaptureProtocol
