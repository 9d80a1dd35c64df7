import CaptureProtocol.Proofs.Request.RoundTrip

/-!
# Which requests a channel accepts

The rules of a request are checked on words of several widths, and the corner of the crop window
against bounds that are rounded down to groups of eight pixels. Here the same is said of numbers,
and what the corner's bounds are for: something of the frame is left.

* `FrameGeometry.Keeps`: a pixel belongs to the frame and to the crop window.
* `FrameGeometry.exists_keeps_iff`: the corner of a frame that is not empty is within its bounds
  exactly when the window keeps a pixel.
* `CaptureRequest.accepted_iff`: a request keeps the rules exactly when it is `Acceptable`.
* `CaptureRequest.accepted_request_keeps_pixel`: **requests are accepted exactly when they are
  acceptable, and then a frame that is not empty is not cropped to nothing**.
-/

set_option autoImplicit false

namespace CaptureProtocol

namespace FrameGeometry

/-- What is asked of the geometry of a frame. -/
structure Legal (f : FrameGeometry) : Prop where
  embeddedWidth_le : f.embeddedWidth.toNat ≤ 131071
  embeddedHeight_le : f.embeddedHeight.toNat ≤ 65535
  skip_x : f.skip.x.toNat = 0 ∨ 8 * f.skip.x.toNat < min f.width.toNat (edge f.crop.x)
  skip_y : f.skip.y.toNat = 0 ∨ f.skip.y.toNat < min f.height.toNat (edge f.crop.y)

/-- The pixel in column `x` of line `y` is in the frame, and in the window that is cut out of it. -/
structure Keeps (f : FrameGeometry) (x y : Nat) : Prop where
  width : x < f.width.toNat
  height : y < f.height.toNat
  left : 8 * f.skip.x.toNat ≤ x
  right : x < edge f.crop.x
  top : f.skip.y.toNat ≤ y
  bottom : y < edge f.crop.y

variable {f : FrameGeometry}

theorem edge_pos (v : UInt16) : 0 < edge v := by
  unfold edge
  split
  · decide
  · next h =>
    rw [← UInt16.toNat_inj] at h
    exact Nat.pos_of_ne_zero h

/-- Bounds that come from words of 16 bits are words themselves. -/
theorem maxSkip_lt (f : FrameGeometry) :
    f.maxSkipX < UInt64.size ∧ f.maxSkipY < UInt64.size := by
  have hw := f.width.toNat_lt
  have hh := f.height.toNat_lt
  unfold maxSkipX maxSkipY UInt64.size
  omega

theorem le_maxSkipX {n : Nat} :
    n ≤ f.maxSkipX ↔ n = 0 ∨ 8 * n < min f.width.toNat (edge f.crop.x) := by
  unfold maxSkipX
  omega

theorem le_maxSkipY {n : Nat} :
    n ≤ f.maxSkipY ↔ n = 0 ∨ n < min f.height.toNat (edge f.crop.y) := by
  unfold maxSkipY
  omega

theorem accepted_iff : Rule.Accepted f.rules ↔ f.Legal := by
  simp only [rules, Rule.accepted_cons, Rule.atMost_holds, UInt32.toNat_toUInt64,
    UInt16.toNat_toUInt64, UInt64.toNat_ofNat_of_lt' f.maxSkip_lt.1,
    UInt64.toNat_ofNat_of_lt' f.maxSkip_lt.2, le_maxSkipX, le_maxSkipY, Rule.accepted_nil, and_true]
  constructor
  · rintro ⟨hwidth, hheight, hx, hy⟩
    exact ⟨hwidth, hheight, hx, hy⟩
  · rintro ⟨hwidth, hheight, hx, hy⟩
    exact ⟨hwidth, hheight, hx, hy⟩

/-- The bounds of the corner are what it takes to keep a pixel of a frame that has one. -/
theorem exists_keeps_iff (hw : f.width ≠ 0) (hh : f.height ≠ 0) :
    (∃ x y, f.Keeps x y) ↔
      (f.skip.x.toNat = 0 ∨ 8 * f.skip.x.toNat < min f.width.toNat (edge f.crop.x)) ∧
        (f.skip.y.toNat = 0 ∨ f.skip.y.toNat < min f.height.toNat (edge f.crop.y)) := by
  have hwidth : 0 < f.width.toNat := Nat.pos_of_ne_zero fun h => hw (UInt16.toNat_inj.mp h)
  have hheight : 0 < f.height.toNat := Nat.pos_of_ne_zero fun h => hh (UInt16.toNat_inj.mp h)
  have hright := edge_pos f.crop.x
  have hbottom := edge_pos f.crop.y
  constructor
  · rintro ⟨x, y, h⟩
    have hx : 8 * f.skip.x.toNat < min f.width.toNat (edge f.crop.x) :=
      Nat.lt_of_le_of_lt h.left (Nat.lt_min.mpr ⟨h.width, h.right⟩)
    have hy : f.skip.y.toNat < min f.height.toNat (edge f.crop.y) :=
      Nat.lt_of_le_of_lt h.top (Nat.lt_min.mpr ⟨h.height, h.bottom⟩)
    exact ⟨.inr hx, .inr hy⟩
  · rintro ⟨hx, hy⟩
    -- The corner itself is a pixel of the window.
    refine ⟨8 * f.skip.x.toNat, f.skip.y.toNat, ?_, ?_, Nat.le_refl _, ?_, Nat.le_refl _, ?_⟩ <;>
      omega

end FrameGeometry

/-- What is asked of the settings of the video input for a frame. -/
structure ViSettings.Legal (s : ViSettings) : Prop where
  stream_le : s.matching.stream.toNat ≤ 0x3F
  streamMask_le : s.matching.streamMask.toNat ≤ 0x3F
  dolHeader_le : s.dolHeader.toNat ≤ 3
  dpcmMode_le : s.dpcmMode.toNat ≤ 5
  frame : s.frame.Legal
  clampHigh_le : s.dpcm.clampHigh.toNat ≤ 0xFFFFF
  clampLow_le : s.dpcm.clampLow.toNat ≤ 0xFFFFF
  strides_le : ∀ stride ∈ s.writer.strides.toList, stride.toNat ≤ 0xFFFFF
  chunkStride_le : s.writer.chunkStride.toNat ≤ 0xFFFFF

theorem ViSettings.accepted_iff {s : ViSettings} : Rule.Accepted s.rules ↔ s.Legal := by
  simp only [rules, Rule.accepted_append, Rule.accepted_cons, Rule.accepted_map,
    Rule.atMost_holds, FrameGeometry.accepted_iff, UInt8.toNat_toUInt64, UInt32.toNat_toUInt64,
    Rule.accepted_nil, and_true]
  constructor
  · rintro ⟨⟨⟨⟨⟨hstream, hmask, hdol, hmode⟩, hframe⟩, hhigh, hlow⟩, hstrides⟩, hchunk⟩
    exact ⟨hstream, hmask, hdol, hmode, hframe, hhigh, hlow, hstrides, hchunk⟩
  · rintro ⟨hstream, hmask, hdol, hmode, hframe, hhigh, hlow, hstrides, hchunk⟩
    exact ⟨⟨⟨⟨⟨hstream, hmask, hdol, hmode⟩, hframe⟩, hhigh, hlow⟩, hstrides⟩, hchunk⟩

/-- What is asked of fault diagnostics. -/
structure Pfsd.Legal (p : Pfsd) : Prop where
  pattern_le : p.pattern.toNat ≤ 0xFFFFF
  regions_le : p.expected.length ≤ 2
  lengths_le : ∀ region ∈ p.expected, region.length.toNat ≤ 255

theorem Pfsd.accepted_iff {p : Pfsd} : Rule.Accepted p.rules ↔ p.Legal := by
  have hcount : Rule.Accepted [countRule p.expected.length] ↔ p.expected.length ≤ 2 :=
    Rule.accepted_noMoreThan
  rw [rules, Rule.accepted_append, Rule.accepted_cons, hcount]
  simp only [Rule.accepted_map, Rule.atMost_holds, UInt32.toNat_toUInt64]
  constructor
  · rintro ⟨⟨hpattern, hregions⟩, hlengths⟩
    exact ⟨hpattern, hregions, hlengths⟩
  · rintro ⟨hpattern, hregions, hlengths⟩
    exact ⟨⟨hpattern, hregions⟩, hlengths⟩

namespace CaptureRequest

/-- What a channel asks of a request. -/
structure Acceptable (config : ChannelConfig) (r : CaptureRequest) : Prop where
  vi : r.vi.Legal
  /-- Diagnostics are for channels that have them, and are not the ones that stand for none. -/
  pfsd : ∀ p, r.pfsd = some p →
    config.settings.flags.contains ChannelFlags.pfsd = true ∧ p ≠ {} ∧ p.Legal
  embdata : r.vi.flags.contains ViFlags.embdata = true →
    config.settings.flags.contains ChannelFlags.embdata = true
  lineTimer : r.vi.flags.contains ViFlags.lineTimer = true →
    config.settings.flags.contains ChannelFlags.linetimer = true

variable {config : ChannelConfig} {r : CaptureRequest}

/-- The rules of a request ask that it be acceptable, and nothing more. -/
theorem accepted_iff : Rule.Accepted (r.rules config) ↔ r.Acceptable config := by
  have hne : ∀ (reason : String) (p : Pfsd),
      (Rule.consistent reason (p != {})).holds = true ↔ p ≠ {} :=
    fun _ _ => bne_iff_ne
  have hflag : ∀ (reason : String) (flag : FlagSet .channel),
      (Rule.consistent reason (config.settings.flags.contains flag)).holds = true ↔
        config.settings.flags.contains flag = true :=
    fun _ _ => Iff.rfl
  cases hr : r.pfsd with
  | none =>
    simp only [rules, hr, Rule.accepted_append, config.accepted_requestEntry, Rule.accepted_cons,
      Rule.consistent_holds, ViSettings.accepted_iff, Rule.accepted_nil, true_and, and_true]
    constructor
    · rintro ⟨hvi, hembdata, htimer⟩
      exact ⟨hvi, fun p hp => by simp [hr] at hp, hembdata, htimer⟩
    · rintro ⟨hvi, -, hembdata, htimer⟩
      exact ⟨hvi, hembdata, htimer⟩
  | some p =>
    simp only [rules, hr, Rule.accepted_append, config.accepted_requestEntry, Rule.accepted_cons,
      Rule.consistent_holds, hne, hflag, ViSettings.accepted_iff, Pfsd.accepted_iff,
      Rule.accepted_nil, true_and, and_true]
    constructor
    · rintro ⟨⟨hvi, ⟨hchannel, hsome⟩, hlegal⟩, hembdata, htimer⟩
      refine ⟨hvi, fun p' hp => ?_, hembdata, htimer⟩
      obtain rfl : p = p' := Option.some.inj (hr.symm.trans hp)
      exact ⟨hchannel, hsome, hlegal⟩
    · rintro ⟨hvi, hp, hembdata, htimer⟩
      obtain ⟨hchannel, hsome, hlegal⟩ := hp p hr
      exact ⟨⟨hvi, ⟨hchannel, hsome⟩, hlegal⟩, hembdata, htimer⟩

theorem validateFor_eq_ok : r.validateFor config = .ok () ↔ r.Acceptable config := by
  rw [← accepted_iff, validateFor, Rule.enforce_eq_ok, exists_prop, and_iff_left rfl]

/--
**Requests are accepted exactly when they are acceptable to the channel.** If such a request is
about a frame that is not empty, then its crop window keeps a pixel of the frame.
-/
theorem accepted_request_keeps_pixel (config : ChannelConfig) (r : CaptureRequest) :
    (r.validateFor config = .ok () ↔ r.Acceptable config) ∧
      (r.validateFor config = .ok () → r.vi.frame.width ≠ 0 → r.vi.frame.height ≠ 0 →
        ∃ x y, r.vi.frame.Keeps x y) := by
  refine ⟨validateFor_eq_ok, fun h hw hh => ?_⟩
  have hframe := (validateFor_eq_ok.mp h).vi.frame
  exact (FrameGeometry.exists_keeps_iff hw hh).mpr ⟨hframe.skip_x, hframe.skip_y⟩

/-- A frame whose window begins with its last group of pixels, in its last line. -/
def cornerRequest : CaptureRequest where
  vi :=
    { flags := ⟨0x12⟩, matching := { stream := 0x3F, streamMask := 0x3F }, dolHeader := 3,
      dpcmMode := 5,
      frame :=
        { width := 17, height := 65535, embeddedWidth := 131071, embeddedHeight := 65535,
          skip := ⟨2, 65534⟩ }
      dpcm := { clampHigh := 0xFFFFF, clampLow := 0xFFFFF }
      writer := { strides := Vector.replicate _ 0xFFFFF, chunkStride := 0xFFFFF } }
  pfsd := some
    { pattern := 0xFFFFF
      expected := [{ length := 255 }, { length := 255 }] }

/-- The last corner that leaves a pixel is accepted, and the one after it is not. -/
theorem accepted_request_keeps_pixel_at_corner :
    cornerRequest.validateFor wideChannel = .ok () ∧
      (∃ x y, cornerRequest.vi.frame.Keeps x y) ∧
      ({ cornerRequest with vi.frame.skip.x := 3 } : CaptureRequest).validateFor wideChannel ≠
        .ok () := by
  obtain ⟨-, hkeeps⟩ := accepted_request_keeps_pixel wideChannel cornerRequest
  have hok : cornerRequest.validateFor wideChannel = .ok () :=
    validateFor_eq_ok.mpr (accepted_iff.mp (by decide))
  refine ⟨hok, hkeeps hok (by decide) (by decide), fun h => ?_⟩
  obtain ⟨hexact, -⟩ :=
    accepted_request_keeps_pixel wideChannel { cornerRequest with vi.frame.skip.x := 3 }
  have hskip := (hexact.mp h).vi.frame.skip_x
  revert hskip
  decide

end CaptureRequest

end CaptureProtocol
