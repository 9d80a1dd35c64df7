import CaptureProtocol.CommandLine.Report
import CaptureProtocol.Proofs.Outcome.Messages
import CaptureProtocol.Proofs.Request.Status

/-!
# Reading reports back

The lines on a slot are made of columns, of words and of messages that can be told apart. Lines of
the log stand between them and may say anything; they come before the verdict, so the last line that
gives a verdict begins what was found.

* `classificationLines_eq`: the lines on a verdict, written out.
* `classify_eq_of_lines`: these lines tell the verdict and what led to it, behind any other lines.
* `slotLines_inj`: **the lines on a slot tell its number, its sequence number, and its code, frame
  and verdict or why its status cannot be read**.
-/

set_option autoImplicit false

namespace CaptureProtocol

open Text (IsWord Plain)

theorem Verdict.name_inj {a b : Verdict} (h : a.name = b.name) : a = b := by
  revert h
  cases a <;> cases b <;> simp [name]

theorem Verdict.plain_name (v : Verdict) : Plain v.name := by
  cases v <;> decide

namespace CommandLine

/-! ## Verdicts -/

/-- What the line on a finding begins with. -/
def findingLead (d : Diagnostic) : String :=
  if d.isCorrupting then "  [corrupting] " else "  [  advisory] "

/-- The lines on a verdict and what led to it. -/
theorem classificationLines_eq (c : Classification) :
    classificationLines c =
      ("verdict: " ++ c.verdict.name) :: c.diagnostics.map fun d => findingLead d ++ d.message := by
  have hlead : ∀ d : Diagnostic, "  [" ++ Text.padLeft 10 ' '
      (if d.isCorrupting then "corrupting" else "advisory") ++ "] " = findingLead d := by
    intro d
    unfold findingLead
    cases d.isCorrupting <;> rfl
  simp only [classificationLines, hlead]

theorem length_findingLead (d : Diagnostic) : (findingLead d).toList.length = 15 := by
  unfold findingLead
  split <;> rfl

theorem plain_findingLead (d : Diagnostic) : Plain (findingLead d) := by
  unfold findingLead
  split <;> decide

theorem message_eq_of_line {a b : Diagnostic}
    (h : findingLead a ++ a.message = findingLead b ++ b.message) : a.message = b.message := by
  have hlist := congrArg String.toList h
  rw [String.toList_append, String.toList_append] at hlist
  have hlen := (length_findingLead a).trans (length_findingLead b).symm
  exact String.toList_inj.mp (List.append_inj hlist hlen).2

/-- The line on a verdict is not one on a finding. -/
theorem verdict_line_notMem (v : Verdict) (findings : List Diagnostic) :
    "verdict: " ++ v.name ∉ findings.map fun d => findingLead d ++ d.message := by
  intro h
  obtain ⟨d, -, hd⟩ := List.mem_map.mp h
  have hhead := congrArg (fun s => s.toList.head?) hd
  revert hhead
  unfold findingLead
  cases v <;> split <;> simp [String.toList_append, Verdict.name]

theorem plain_classificationLines (s : CaptureStatus) :
    ∀ line ∈ classificationLines s.classify, Plain line := by
  rw [classificationLines_eq]
  refine List.forall_mem_cons.mpr ⟨Text.plain_append.mpr ⟨by decide, Verdict.plain_name _⟩, ?_⟩
  intro line hline
  obtain ⟨d, hd, rfl⟩ := List.mem_map.mp hline
  exact Text.plain_append.mpr ⟨plain_findingLead d,
    Diagnostic.plain_message (CaptureStatus.catalogued_diagnostics hd)⟩

/-- Verdict and findings are told by their lines, whatever stands before these. -/
theorem verdict_eq_of_lines {front front' : List String} {s t : CaptureStatus}
    (h : Text.unlines (front ++ classificationLines s.classify) =
      Text.unlines (front' ++ classificationLines t.classify)) :
    s.classify.verdict = t.classify.verdict ∧
      s.classify.diagnostics = t.classify.diagnostics := by
  obtain ⟨plain, hplain, hfront⟩ := Text.exists_plain front
  obtain ⟨plain', hplain', hfront'⟩ := Text.exists_plain front'
  rw [Text.unlines_append, Text.unlines_append, ← hfront, ← hfront', ← Text.unlines_append,
    ← Text.unlines_append] at h
  have hlines := Text.unlines_inj
    (List.forall_mem_append.mpr ⟨hplain, plain_classificationLines s⟩)
    (List.forall_mem_append.mpr ⟨hplain', plain_classificationLines t⟩) h
  rw [classificationLines_eq, classificationLines_eq] at hlines
  obtain ⟨hverdict, hfindings⟩ :=
    Text.eq_of_last_mark (verdict_line_notMem _ _) (verdict_line_notMem _ _) hlines
  refine ⟨Verdict.name_inj ((String.append_right_inj "verdict: ").mp hverdict), ?_⟩
  have hlen : s.classify.diagnostics.length = t.classify.diagnostics.length := by
    simpa using congrArg List.length hfindings
  refine List.ext_getElem hlen fun i hi hi' => ?_
  have hline := List.getElem_of_eq hfindings (by simpa using hi)
  rw [List.getElem_map, List.getElem_map] at hline
  exact Diagnostic.message_inj (CaptureStatus.catalogued_diagnostics (List.getElem_mem hi))
    (CaptureStatus.catalogued_diagnostics (List.getElem_mem hi')) (message_eq_of_line hline)

theorem classify_eq_of_lines {front front' : List String} {s t : CaptureStatus}
    (hcode : s.code = t.code)
    (h : Text.unlines (front ++ classificationLines s.classify) =
      Text.unlines (front' ++ classificationLines t.classify)) : s.classify = t.classify := by
  obtain ⟨hverdict, hfindings⟩ := verdict_eq_of_lines h
  refine Classification.ext hverdict hfindings ?_
  by_cases hs : s.isFinal = true
  · have ht : t.isFinal = true := by
      unfold CaptureStatus.isFinal at hs ⊢
      rwa [← hcode]
    rw [CaptureStatus.channelInError_classify hs, CaptureStatus.channelInError_classify ht,
      CaptureStatus.channelInError_eq_of_diagnostics hs ht hfindings]
  · have hunknown : s.code = .unknown := by
      by_contra hne
      exact hs ((StatusCode.isFinal_iff s.code).mpr hne)
    rw [CaptureStatus.classify_of_unknown hunknown,
      CaptureStatus.classify_of_unknown (hcode ▸ hunknown)]

/-! ## Slots -/

/-- The line on a slot begins with two columns, each of which a blank follows. -/
theorem toList_slotLead (index : Nat) (sequence : UInt32) (rest : String) :
    (slotLead index sequence ++ rest).toList =
      "slot ".toList ++ ((Text.column 3 index).toList ++ ' ' :: (" seq ".toList ++
        ((Text.column 10 sequence.toNat).toList ++ ' ' :: (" " ++ rest).toList))) := by
  unfold slotLead
  simp only [String.toList_append, List.append_assoc]
  rfl

theorem slotLead_inj {index index' : Nat} {sequence sequence' : UInt32} {rest rest' : String}
    (h : slotLead index sequence ++ rest = slotLead index' sequence' ++ rest') :
    index = index' ∧ sequence = sequence' ∧ rest = rest' := by
  have hlist := congrArg String.toList h
  rw [toList_slotLead, toList_slotLead, List.append_cancel_left_eq] at hlist
  obtain ⟨hindex, hlist⟩ := Text.column_inj hlist
  rw [List.append_cancel_left_eq] at hlist
  obtain ⟨hsequence, hlist⟩ := Text.column_inj hlist
  exact ⟨hindex, UInt32.toNat_inj.mp hsequence,
    (String.append_right_inj " ").mp (String.toList_inj.mp hlist)⟩

theorem plain_slotLead (index : Nat) (sequence : UInt32) : Plain (slotLead index sequence) := by
  unfold slotLead
  simp only [Text.plain_append, Text.plain_column, and_true]
  decide

/-- What the first line on a slot says behind its columns. -/
def slotText : Except CaptureError CaptureStatus → String
  | .error error => error.message
  | .ok status => status.code.name ++ "  frame " ++ toString status.frameId.toNat

/-- The lines on a slot behind the first. -/
def verdictLines (log : Logger) : Except CaptureError CaptureStatus → List String
  | .error _ => []
  | .ok status => log.lines status.events ++ classificationLines status.classify

theorem slotLines_eq (log : Logger) (index : Nat) (sequence : UInt32)
    (status : Except CaptureError CaptureStatus) :
    slotLines log index sequence status =
      (slotLead index sequence ++ slotText status) :: verdictLines log status := by
  cases status with
  | error error => rfl
  | ok status =>
    unfold slotLines slotText verdictLines
    simp only [String.append_assoc]

theorem toList_slotText_ok (status : CaptureStatus) :
    (slotText (.ok status)).toList = status.code.name.toList ++ ' ' ::
      (" frame " ++ toString status.frameId.toNat).toList := by
  unfold slotText
  simp only [String.toList_append, List.append_assoc]
  rfl

theorem slotText_ok_inj {s t : CaptureStatus} (h : slotText (.ok s) = slotText (.ok t)) :
    s.code = t.code ∧ s.frameId = t.frameId := by
  have hlist := congrArg String.toList h
  rw [toList_slotText_ok, toList_slotText_ok] at hlist
  obtain ⟨hname, hframe⟩ := Text.eq_of_append_mark s.code.isWord_name.blank_notMem
    t.code.isWord_name.blank_notMem hlist
  have hframe := (String.append_right_inj " frame ").mp (String.toList_inj.mp hframe)
  exact ⟨StatusCode.name_inj (String.toList_inj.mp hname),
    UInt16.toNat_inj.mp (Text.toString_inj hframe)⟩

theorem slotText_invalid (raw : UInt32) :
    slotText (.error (.invalidStatusCode "capture_status" raw)) =
      "invalid capture_status status code " ++ toString raw.toNat := by
  have hlead : "invalid " ++ "capture_status" ++ " status code " =
      "invalid capture_status status code " := rfl
  rw [← hlead]
  rfl

theorem slotText_ok_ne_invalid (status : CaptureStatus) (raw : UInt32) :
    slotText (.ok status) ≠ slotText (.error (.invalidStatusCode "capture_status" raw)) := by
  intro h
  have hinvalid : "invalid capture_status status code ".toList =
      "invalid".toList ++ ' ' :: "capture_status status code ".toList := rfl
  have hlist := congrArg String.toList h
  rw [slotText_invalid, String.toList_append, hinvalid, List.append_assoc, List.cons_append,
    toList_slotText_ok] at hlist
  obtain ⟨hname, -⟩ :=
    Text.eq_of_append_mark status.code.isWord_name.blank_notMem (by decide) hlist
  have hne : status.code.name ≠ "invalid" := by cases status.code <;> decide
  exact hne (String.toList_inj.mp hname)

/-- What is read from a slot that holds a descriptor: a status, or that its code is none. -/
def Readable : Except CaptureError CaptureStatus → Prop
  | .ok _ => True
  | .error error => ∃ raw, error = .invalidStatusCode "capture_status" raw

theorem readable_decodeStatus {slot : Bytes} (h : 328 ≤ slot.length) :
    Readable (decodeStatus slot) := by
  rcases decodeStatus_cases h with ⟨-, status, hstatus⟩ | ⟨-, raw, -, herror⟩
  · rw [hstatus]
    trivial
  · rw [herror]
    exact ⟨raw, rfl⟩

theorem plain_slotText {x : Except CaptureError CaptureStatus} (h : Readable x) :
    Plain (slotText x) := by
  cases x with
  | ok status =>
    unfold slotText
    simp only [Text.plain_append]
    exact ⟨⟨status.code.isWord_name.plain, by decide⟩, (Text.isWord_toString _).plain⟩
  | error error =>
    obtain ⟨raw, rfl⟩ := h
    rw [slotText_invalid, Text.plain_append]
    exact ⟨by decide, (Text.isWord_toString _).plain⟩

/-- What a report on a status tells: its code, its frame and the verdict on it. -/
def reported (status : CaptureStatus) : StatusCode × UInt16 × Classification :=
  (status.code, status.frameId, status.classify)

/-- A status and a refusal are told apart, and each is told by its lines. -/
theorem reported_eq_of_lines {log : Logger} {x y : Except CaptureError CaptureStatus}
    (hx : Readable x) (hy : Readable y) (htext : slotText x = slotText y)
    (hlines : Text.unlines (verdictLines log x) = Text.unlines (verdictLines log y)) :
    x.map reported = y.map reported := by
  cases x with
  | ok s =>
    cases y with
    | ok t =>
      obtain ⟨hcode, hframe⟩ := slotText_ok_inj htext
      have hverdict := classify_eq_of_lines hcode hlines
      simp only [Except.map, reported, hcode, hframe, hverdict]
    | error error =>
      obtain ⟨raw, rfl⟩ := hy
      exact absurd htext (slotText_ok_ne_invalid s raw)
  | error error =>
    obtain ⟨raw, rfl⟩ := hx
    cases y with
    | ok t => exact absurd htext.symm (slotText_ok_ne_invalid t raw)
    | error error' =>
      obtain ⟨raw', rfl⟩ := hy
      rw [slotText_invalid, slotText_invalid] at htext
      have hraw := (String.append_right_inj "invalid capture_status status code ").mp htext
      rw [UInt32.toNat_inj.mp (Text.toString_inj hraw)]

/--
**The lines on a slot tell its number, its sequence number, and its code, frame and verdict or why
its status cannot be read**, whatever the log says in between.
-/
theorem slotLines_inj {log : Logger} {index index' : Nat} {sequence sequence' : UInt32}
    {x y : Except CaptureError CaptureStatus} (hx : Readable x) (hy : Readable y)
    (h : Text.unlines (slotLines log index sequence x) =
      Text.unlines (slotLines log index' sequence' y)) :
    index = index' ∧ sequence = sequence' ∧ x.map reported = y.map reported := by
  have hlist := congrArg String.toList h
  rw [slotLines_eq, slotLines_eq, Text.toList_unlines_cons, Text.toList_unlines_cons] at hlist
  obtain ⟨hfirst, hrest⟩ := Text.eq_of_append_mark
    (Text.plain_append.mpr ⟨plain_slotLead index sequence, plain_slotText hx⟩)
    (Text.plain_append.mpr ⟨plain_slotLead index' sequence', plain_slotText hy⟩) hlist
  obtain ⟨hindex, hsequence, htext⟩ := slotLead_inj (String.toList_inj.mp hfirst)
  exact ⟨hindex, hsequence, reported_eq_of_lines hx hy htext (String.toList_inj.mp hrest)⟩

end CommandLine

end CaptureProtocol
