import CaptureProtocol.Proofs.Outcome.Diagnostics

/-!
# The law of verdicts

A verdict is found by scanning the findings for one that spoils the frame. What the scan finds
depends on the code and on two masks of the notify word, so the verdict can be told without it.

* `verdict_good_iff`, `verdict_corrupted_iff`, `verdict_unknown_iff`: each verdict on a code and a
  notify word.
* `advisories_harmless`: the state of the channel and receiver errors do not spoil a frame.
* `CaptureStatus.length_lines_events`: what a log of warnings says of a frame.
* `CaptureStatus.verdict_law`: **what the verdict on a whole status depends on, and how**.
-/

set_option autoImplicit false

namespace CaptureProtocol

theorem StatusCode.isFinal_iff (code : StatusCode) : code.isFinal = true ↔ code ≠ .unknown :=
  bne_iff_ne

/-! ## Code and notify word -/

theorem StatusCode.any_isCorrupting (code : StatusCode) :
    code.diagnostics.any Diagnostic.isCorrupting = true ↔ code ≠ .success := by
  rw [diagnostics]
  split
  · simp_all
  · simp_all [Diagnostic.isCorrupting]

/-- The findings about a notify word spoil the frame unless each bit is known to be harmless. -/
theorem NotifyBit.any_isCorrupting (word : UInt64) :
    (NotifyBit.diagnostics word).any Diagnostic.isCorrupting = true ↔ ¬ IsHarmless word := by
  rw [isHarmless_iff_masks, not_and_or, diagnostics, List.any_append, Bool.or_eq_true]
  apply or_congr
  · rw [← Ne, and_corruptingMask_ne_zero_iff]
    simp [Diagnostic.isCorrupting]
  · split
    · simp_all
    · simp_all [Diagnostic.isCorrupting]

theorem any_isCorrupting (code : StatusCode) (word : UInt64) :
    (code.diagnostics ++ NotifyBit.diagnostics word).any Diagnostic.isCorrupting = true ↔
      ¬ (code = .success ∧ NotifyBit.IsHarmless word) := by
  rw [List.any_append, Bool.or_eq_true, StatusCode.any_isCorrupting, NotifyBit.any_isCorrupting,
    not_and_or]

theorem verdict_unknown_iff (code : StatusCode) (word : UInt64) :
    (classify code word).verdict = .unknown ↔ code = .unknown := by
  rw [← not_iff_not, ← Ne, ← Ne, ← StatusCode.isFinal_iff, classify]
  split
  · next h =>
    simp only [h, iff_true]
    split <;> simp
  · next h => simp [h, Classification.unknown]

theorem verdict_corrupted_iff (code : StatusCode) (word : UInt64) :
    (classify code word).verdict = .corrupted ↔
      code ≠ .unknown ∧ ¬ (code = .success ∧ NotifyBit.IsHarmless word) := by
  rw [← any_isCorrupting, ← StatusCode.isFinal_iff, classify]
  split
  · next h =>
    simp only [h, true_and]
    split <;> simp_all
  · next h => simp [h, Classification.unknown]

theorem verdict_good_iff (code : StatusCode) (word : UInt64) :
    (classify code word).verdict = .good ↔ code = .success ∧ NotifyBit.IsHarmless word := by
  have hu := verdict_unknown_iff code word
  have hc := verdict_corrupted_iff code word
  -- A good frame is one that is neither of the other two.
  cases hv : (classify code word).verdict with
  | good =>
    rw [hv] at hu hc
    simp_all
  | corrupted =>
    rw [hv] at hc
    simpa using (hc.mp rfl).2
  | unknown =>
    rw [hv] at hu
    simp [hu.mp rfl]

/-! ## The whole status -/

namespace CaptureStatus

theorem advisories_harmless (s : CaptureStatus) :
    s.advisories.any Diagnostic.isCorrupting = false := by
  rw [advisories, List.any_append]
  split <;> simp [Diagnostic.isCorrupting]

theorem verdict_classify (s : CaptureStatus) :
    s.classify.verdict = (CaptureProtocol.classify s.code s.notifyBits).verdict := by
  rw [classify]
  split <;> rfl

theorem classify_of_unknown {s : CaptureStatus} (h : s.code = .unknown) :
    s.classify = .unknown := by
  simp [classify, CaptureProtocol.classify, isFinal, h, StatusCode.isFinal]

theorem channelInError_classify {s : CaptureStatus} (h : s.isFinal = true) :
    s.classify.channelInError = s.channelInError := by
  simp [classify, h]

theorem verdict_corrupted_iff_exists {s : CaptureStatus} (h : s.isFinal = true) :
    s.classify.verdict = .corrupted ↔ ∃ d ∈ s.classify.diagnostics, d.isCorrupting = true := by
  rw [← List.any_eq_true, diagnostics_eq h, List.any_append, advisories_harmless, Bool.or_false,
    any_isCorrupting, verdict_classify, verdict_corrupted_iff]
  exact and_iff_right ((StatusCode.isFinal_iff s.code).mp h)

theorem corrupted_of_more_bits {s : CaptureStatus} (more : UInt64)
    (h : s.classify.verdict = .corrupted) :
    { s with notifyBits := s.notifyBits ||| more }.classify.verdict = .corrupted := by
  rw [verdict_classify, verdict_corrupted_iff] at h ⊢
  obtain ⟨hfinal, hspoiled⟩ := h
  exact ⟨hfinal, fun ⟨hcode, hharmless⟩ => hspoiled ⟨hcode, hharmless.of_or⟩⟩

/-- A log of warnings has one line on a corrupted frame, and none on another. -/
theorem length_lines_events (s : CaptureStatus) :
    (Logger.warnings.lines s.events).length =
      if s.classify.verdict = .corrupted then 1 else 0 := by
  simp only [events]
  split
  · rfl
  · rfl

/--
**The law of verdicts.** Whatever a status holds, its frame is unknown exactly when its code is, and
then nothing is reported; it is good exactly when its code is `success` and each bit of its notify
word is catalogued as harmless; and it is corrupted in every other case. Flags and receiver errors
have no part in this. A finished capture is corrupted exactly when one of its findings says so, and
its channel is reported in error exactly when the flag is set. More notify bits do not make a
corrupted frame good.
-/
theorem verdict_law (s : CaptureStatus) :
    (s.classify.verdict = .unknown ↔ s.code = .unknown) ∧
    (s.code = .unknown → s.classify.diagnostics = [] ∧ s.classify.channelInError = false) ∧
    (s.classify.verdict = .good ↔ s.code = .success ∧ NotifyBit.IsHarmless s.notifyBits) ∧
    (s.classify.verdict = .corrupted ↔
      s.code ≠ .unknown ∧ ¬ (s.code = .success ∧ NotifyBit.IsHarmless s.notifyBits)) ∧
    s.classify.verdict = (CaptureProtocol.classify s.code s.notifyBits).verdict ∧
    (∀ t : CaptureStatus, t.code = s.code → t.notifyBits = s.notifyBits →
      t.classify.verdict = s.classify.verdict) ∧
    (s.code ≠ .unknown →
      (s.classify.verdict = .corrupted ↔
        ∃ d ∈ s.classify.diagnostics, d.isCorrupting = true) ∧
      (s.classify.channelInError = true ↔ s.flags.bits.toNat.testBit 1 = true) ∧
      (s.flags.bits.toNat.testBit 1 = true ↔ .channelInError ∈ s.classify.diagnostics)) ∧
    ∀ more : UInt64, s.classify.verdict = .corrupted →
      { s with notifyBits := s.notifyBits ||| more }.classify.verdict = .corrupted := by
  refine ⟨?_, ?_, ?_, ?_, verdict_classify s, ?_, ?_, fun more => corrupted_of_more_bits more⟩
  · rw [verdict_classify, verdict_unknown_iff]
  · intro h
    rw [classify_of_unknown h]
    exact ⟨rfl, rfl⟩
  · rw [verdict_classify, verdict_good_iff]
  · rw [verdict_classify, verdict_corrupted_iff]
  · intro t hcode hbits
    rw [verdict_classify, verdict_classify, hcode, hbits]
  · intro h
    have hfinal : s.isFinal = true := (StatusCode.isFinal_iff s.code).mpr h
    refine ⟨verdict_corrupted_iff_exists hfinal, ?_, ?_⟩
    · rw [channelInError_classify hfinal, channelInError_iff]
    · rw [channelInError_mem_iff hfinal, channelInError_iff]

end CaptureStatus

end CaptureProtocol
