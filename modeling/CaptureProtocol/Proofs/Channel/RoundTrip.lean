import CaptureProtocol.Channel.Config

/-!
# Channel configurations through their record

A channel record has no room for an absent CSI binding, an absent table slot or a variable number of
tables: it writes a word in their place that stands for none. Settings that steps lead to never have
such a word as a real value, so nothing is lost.

* `csiFlagged_ofSteps`: whatever the steps, there is a CSI binding only where the flags say so.
* `ofWords_words`: settings of this kind are read back from the words of their record.
* `decode_encode_of_build`: **a configuration that was built is read back from its record**.
-/

set_option autoImplicit false

namespace CaptureProtocol

namespace ChannelSettings

/-- A CSI binding is announced in the flags. -/
def CsiFlagged (s : ChannelSettings) : Prop :=
  s.csi.isSome = true → s.flags.contains ChannelFlags.csi = true

theorem CsiFlagged.apply {s : ChannelSettings} (h : s.CsiFlagged) (step : ChannelStep) :
    (s.apply step).CsiFlagged := by
  cases step with
  | csi binding => exact fun _ => FlagSet.contains_union_right _ _
  | flags _ => exact fun hc => FlagSet.contains_union_left _ (h hc)
  | slvsec _ _ => exact fun hc => FlagSet.contains_union_left _ (h hc)
  | errorMasks _ _ => exact fun hc => FlagSet.contains_union_left _ (h hc)
  | _ => exact h

theorem csiFlagged_foldl (steps : List ChannelStep) {s : ChannelSettings} (h : s.CsiFlagged) :
    (steps.foldl ChannelSettings.apply s).CsiFlagged := by
  induction steps generalizing s with
  | nil => exact h
  | cons step steps ih => exact ih (h.apply step)

theorem csiFlagged_ofSteps (steps : List ChannelStep) : (ofSteps steps).CsiFlagged := by
  refine csiFlagged_foldl steps ?_
  intro h
  cases h

/-- The rules ask for the binding that the flags announce. -/
theorem csi_of_accepted {s : ChannelSettings} (h : Rule.Accepted s.rules)
    (hf : s.flags.contains ChannelFlags.csi = true) : s.csi.isSome = true := by
  simp [rules, Rule.accepted_append, Rule.accepted_cons, Rule.consistent] at h
  grind

theorem gosTables_of_accepted {s : ChannelSettings} (h : Rule.Accepted s.rules) :
    s.gosTables.length ≤ Layout.viGosTables := by
  simp only [rules, Rule.accepted_append, Rule.gosTables, Rule.accepted_cons] at h
  grind

theorem csiOfWords_words {s : ChannelSettings}
    (h : s.flags.contains ChannelFlags.csi = s.csi.isSome) :
    csiOfWords s.flags (CsiBinding.words s.csi) = .ok s.csi := by
  unfold csiOfWords
  rw [h]
  cases s.csi with
  | none => rfl
  | some b =>
    rw [CsiBinding.ofWords_words]
    rfl

theorem ofWords_words {s : ChannelSettings} (hf : s.CsiFlagged) (h : Rule.Accepted s.rules) :
    ofWords s.words = .ok s := by
  have ht := gosTables_of_accepted h
  have hcsi : s.flags.contains ChannelFlags.csi = s.csi.isSome :=
    Bool.eq_iff_iff.mpr ⟨csi_of_accepted h, hf⟩
  have hcount : Rule.Accepted
      [.noMoreThan "num_vi_gos_tables" (Tables.count s.gosTables).toNat Layout.viGosTables] := by
    rw [Tables.toNat_count (Nat.lt_of_le_of_lt ht (by decide))]
    simpa [Rule.Accepted, Rule.noMoreThan] using ht
  simp only [ofWords, words, Rule.enforce_of_accepted _ hcount, Syncpoint.ofWords_words,
    csiOfWords_words hcsi, Tables.ofEntries_entries ht (by decide)]
  rfl

end ChannelSettings

namespace ChannelConfig

theorem encode_eq_ok (c : ChannelConfig) : c.encode = .ok c.bytes :=
  Bytes.finish_eq_ok.mpr ⟨c.length_bytes, rfl⟩

theorem decode_bytes_append {c : ChannelConfig} (hf : c.settings.CsiFlagged) (rest : Bytes) :
    decode (c.bytes ++ rest) = .ok c := by
  have hwords := ChannelSettings.codec.decode_write_append "capture_channel_config"
    c.settings.words rest
  have hbuild : c.settings.build = .ok c := Rule.enforce_of_accepted _ c.accepted
  simp only [decode, bytes, hwords]
  show (do
    let settings ← CaptureError.ofRule (ChannelSettings.ofWords c.settings.words)
    CaptureError.ofRule settings.build) = Except.ok c
  rw [ChannelSettings.ofWords_words hf c.accepted]
  show CaptureError.ofRule c.settings.build = _
  rw [hbuild]
  rfl

/--
**A configuration that was built is read back from its record.** Whatever steps were taken, in
whatever order and however often, if they lead to a configuration then it has a record, of 272
bytes, and reading these gives the same configuration, no matter what follows them.
-/
theorem decode_encode_of_build (steps : List ChannelStep) (c : ChannelConfig)
    (h : (ChannelSettings.ofSteps steps).build = .ok c) :
    ∃ record, c.encode = .ok record ∧ record.length = 272 ∧
      ∀ rest, decode (record ++ rest) = .ok c := by
  obtain ⟨ha, rfl⟩ := Rule.enforce_eq_ok.mp h
  refine ⟨_, encode_eq_ok _, length_bytes _, ?_⟩
  exact decode_bytes_append (ChannelSettings.csiFlagged_ofSteps steps)

/-- Steps of most kinds, some taken twice. -/
def mixedSteps : List ChannelStep :=
  [.viUnit 7, .csi ⟨CsiPort.g.stream, some .g, Fin.last 15, by decide⟩, .requests 0x80000000,
    .memoryInfo 0x80010040, .queueDepth 5, .requestSize 448, .gosTable 0x1000,
    .flags ⟨0x80001000⟩, .slvsec 2 0xFF,
    .progress ⟨7, 1, some ⟨3, 1, 5, by decide⟩, 0x3FC, by decide⟩, .gosTable 0x1000,
    .linetimer ⟨9, 0, none, 12, by decide⟩, .stopOnError .csiFaultPpfsmTimeout,
    .errorMasks ⟨0x20⟩ ⟨0xFFFFFFFF⟩,
    .csi ⟨CsiPort.f.stream, some .f, Fin.last 15, by decide⟩, .viUnit 1,
    .vi2Channels 0x800000001]

/-- Steps of most kinds lead to a configuration, which survives with seven bytes after it. -/
theorem decode_encode_of_mixedSteps :
    ∃ c record, (ChannelSettings.ofSteps mixedSteps).build = .ok c ∧ c.encode = .ok record ∧
      record.length = 272 ∧ c.settings.gosTables.length = 2 ∧ c.settings.viUnit = 1 ∧
      decode (record ++ [1, 2, 3, 4, 5, 6, 7]) = .ok c := by
  have ha : Rule.Accepted (ChannelSettings.ofSteps mixedSteps).rules := by decide
  have hb : (ChannelSettings.ofSteps mixedSteps).build = .ok ⟨_, ha⟩ :=
    Rule.enforce_of_accepted _ ha
  obtain ⟨record, he, hl, hd⟩ := decode_encode_of_build mixedSteps _ hb
  exact ⟨_, record, hb, he, hl, rfl, rfl, hd _⟩

end ChannelConfig

end CaptureProtocol
