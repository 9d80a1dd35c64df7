import CaptureProtocol.Proofs.CommandLine.Number
import CaptureProtocol.Proofs.Outcome.Verdict

/-!
# What the messages of findings tell

A finding is reported by a line of text. The names in the catalogues are single words, numbers stand
behind words of their own, and the first word of a message says what kind of finding it is; so the
finding can be told from the text.

* `Text.hexPadded_inj`: a number can be told from its hexadecimal form, with zeros in front or not.
* `Diagnostic.message_inj`: **findings can be told from their messages**.
* `Diagnostic.plain_message`: a message is one line.
* `CaptureStatus.catalogued_diagnostics`: the findings about a status are of this kind.
-/

set_option autoImplicit false

namespace CaptureProtocol

open Text (IsWord Plain)

/-! ## Hexadecimal numbers -/

namespace CommandLine

theorem digitsFrom?_zeros (count : Nat) (cs : List Char) :
    digitsFrom? 16 0 (List.replicate count '0' ++ cs) = digitsFrom? 16 0 cs := by
  induction count with
  | zero => rfl
  | succ count ih =>
    rw [List.replicate_succ, List.cons_append, digitsFrom?, show digit? 16 '0' = some 0 by decide]
    exact ih

/-- Zeros in front of the digits of a number do not hide it. -/
theorem digits?_padLeft (width n : Nat) :
    digits? 16 (Text.padLeft width '0' (Text.hexDigits n)).toList = some n := by
  have hn := (digits?_eq_some_iff (Nat.le_refl 16)).mpr (numeral_toDigits (show 1 < 16 by decide) n)
  unfold digits? at hn ⊢
  rw [if_neg (by simp)] at hn
  rw [Text.padLeft, Text.hexDigits, String.toList_ofList, String.toList_ofList, if_neg (by simp),
    digitsFrom?_zeros, hn]

end CommandLine

theorem Text.hexPadded_inj {width n m : Nat}
    (h : Text.hexPadded width n = Text.hexPadded width m) : n = m := by
  have hdigits : Text.padLeft width '0' (Text.hexDigits n) =
      Text.padLeft width '0' (Text.hexDigits m) := (String.append_right_inj "0x").mp h
  have hn := CommandLine.digits?_padLeft width n
  rw [hdigits, CommandLine.digits?_padLeft] at hn
  exact (Option.some.inj hn).symm

theorem Text.isWord_hexPadded (width n : Nat) : IsWord (Text.hexPadded width n) := by
  have hdigit : ∀ c ∈ Nat.toDigits 16 n, 48 ≤ c.toNat :=
    (CommandLine.numeral_toDigits (show 1 < 16 by decide) n).forall_mem
      fun _ _ hd => hd.le_toNat (Nat.le_refl 16)
  have hchar : ∀ c : Char, 48 ≤ c.toNat → c ≠ ' ' ∧ c ≠ '\n' := by
    intro c hc
    constructor <;> rintro rfl <;> exact absurd hc (by decide)
  intro c hc
  rw [Text.hexPadded, String.toList_append, Text.padLeft, Text.hexDigits, String.toList_ofList,
    String.toList_ofList, String.toList_ofList, List.mem_append, List.mem_append] at hc
  rcases hc with hlead | hzero | hc
  · exact (by decide : IsWord "0x") c hlead
  · rw [List.eq_of_mem_replicate hzero]
    decide
  · exact hchar c (hdigit c hc)

/-! ## Names -/

namespace StatusCode

theorem mem_all (code : StatusCode) : code ∈ all := by
  cases code <;> decide

theorem isWord_name (code : StatusCode) : IsWord code.name := by
  cases code <;> exact Text.isWord_ofList (by decide)

theorem name_inj {a b : StatusCode} (h : a.name = b.name) : a = b := by
  have hdistinct : (all.map name).Nodup := by simp [all, name]
  exact List.inj_on_of_nodup_map hdistinct (mem_all a) (mem_all b) h

end StatusCode

namespace NotifyBit

theorem isWord_name (bit : NotifyBit) : IsWord bit.name := by
  cases bit <;> exact Text.isWord_ofList (by decide)

theorem name_inj {a b : NotifyBit} (h : a.name = b.name) : a = b := by
  have hdistinct : (all.map name).Nodup := by simp [all, name, entry]
  exact List.inj_on_of_nodup_map hdistinct (mem_all a) (mem_all b) h

end NotifyBit

namespace ReceiverBlock

theorem name_inj {a b : ReceiverBlock} (h : a.name = b.name) : a = b := by
  revert h
  cases a <;> cases b <;> simp [name]

theorem colon_notMem_name (block : ReceiverBlock) : ':' ∉ block.name.toList := by
  cases block <;> decide

theorem plain_name (block : ReceiverBlock) : Plain block.name := by
  cases block <;> decide

theorem isWord_of_mem {block : ReceiverBlock} {name : String}
    (h : name ∈ block.errors.map Prod.snd) : IsWord name := by
  have hall : ∀ name ∈ block.errors.map Prod.snd, IsWord name := by
    cases block <;> decide +kernel
  exact hall name h

end ReceiverBlock

/-! ## Findings -/

namespace ReceiverError

/-- What a finding about the receiver says of its block. -/
def detail : ReceiverError → String
  | named _ name => name
  | unnamed _ bits => "unrecognised bits " ++ Text.hexPadded 8 bits.toNat

/-- The block that an error is about. -/
def block : ReceiverError → ReceiverBlock
  | named block _ | unnamed block _ => block

/-- A named error is one of its block. -/
def Catalogued : ReceiverError → Prop
  | named block name => name ∈ block.errors.map Prod.snd
  | unnamed _ _ => True

theorem detail_named (block : ReceiverBlock) (name : String) :
    (named block name).detail = name := rfl

theorem detail_unnamed (block : ReceiverBlock) (bits : UInt32) :
    (unnamed block bits).detail = "unrecognised bits " ++ Text.hexPadded 8 bits.toNat := rfl

theorem message_eq (e : ReceiverError) :
    (Diagnostic.receiver e).message = "nvcsi " ++ e.block.name ++ ": " ++ e.detail := by
  cases e with
  | named block name =>
    unfold Diagnostic.message
    simp only [toString, ReceiverError.block, detail_named]
  | unnamed block bits =>
    have hlead : ": unrecognised bits " = ": " ++ "unrecognised bits " := rfl
    unfold Diagnostic.message
    simp only [toString, ReceiverError.block, detail_unnamed, hlead, ← String.append_assoc]

theorem eq_of_detail {a b : ReceiverError} (ha : a.Catalogued) (hb : b.Catalogued)
    (hblock : a.block = b.block) (h : a.detail = b.detail) : a = b := by
  -- A name is a single word, and what is said of bits without a name is not.
  have hwords : ∀ (block : ReceiverBlock) (name : String) (bits : UInt32),
      name ∈ block.errors.map Prod.snd →
        detail (.named block name) ≠ detail (.unnamed block bits) := by
    intro block name bits hname heq
    have hword : IsWord (detail (.named block name)) := ReceiverBlock.isWord_of_mem hname
    rw [heq, detail_unnamed] at hword
    refine hword.blank_notMem ?_
    rw [String.toList_append, List.mem_append]
    exact .inl (by decide)
  cases a with
  | named block name =>
    cases b with
    | named block' name' =>
      obtain rfl : block = block' := hblock
      obtain rfl : name = name' := h
      rfl
    | unnamed block' bits' =>
      obtain rfl : block = block' := hblock
      exact absurd h (hwords block name bits' ha)
  | unnamed block bits =>
    cases b with
    | named block' name' =>
      obtain rfl : block = block' := hblock
      exact absurd h.symm (hwords block name' bits hb)
    | unnamed block' bits' =>
      obtain rfl : block = block' := hblock
      have hbits : Text.hexPadded 8 bits.toNat = Text.hexPadded 8 bits'.toNat :=
        (String.append_right_inj "unrecognised bits ").mp h
      rw [UInt32.toNat_inj.mp (Text.hexPadded_inj hbits)]

theorem plain_detail {e : ReceiverError} (h : e.Catalogued) : Plain e.detail := by
  cases e with
  | named block name => exact (ReceiverBlock.isWord_of_mem h).plain
  | unnamed block bits =>
    rw [detail_unnamed, Text.plain_append]
    exact ⟨by decide, (Text.isWord_hexPadded _ _).plain⟩

theorem message_inj {a b : ReceiverError} (ha : a.Catalogued) (hb : b.Catalogued)
    (h : (Diagnostic.receiver a).message = (Diagnostic.receiver b).message) : a = b := by
  have hsplit : ∀ e : ReceiverError, (Diagnostic.receiver e).message.toList =
      "nvcsi ".toList ++ (e.block.name.toList ++ ':' :: (' ' :: e.detail.toList)) := by
    intro e
    rw [message_eq, String.toList_append, String.toList_append, String.toList_append,
      List.append_assoc, List.append_assoc]
    rfl
  have hlist := congrArg String.toList h
  rw [hsplit, hsplit, List.append_cancel_left_eq] at hlist
  obtain ⟨hname, hrest⟩ :=
    Text.eq_of_append_mark a.block.colon_notMem_name b.block.colon_notMem_name hlist
  exact eq_of_detail ha hb (ReceiverBlock.name_inj (String.toList_inj.mp hname))
    (String.toList_inj.mp (List.cons.inj hrest).2)

end ReceiverError

namespace Diagnostic

/-- The kinds of findings. -/
inductive Kind where
  | status | notify | unknownNotify | channelInError | receiver

/-- The kind of a finding. -/
def kind : Diagnostic → Kind
  | status _ => .status
  | notify _ => .notify
  | unknownNotify _ => .unknownNotify
  | channelInError => .channelInError
  | receiver _ => .receiver

/-- The first word of a finding's message. -/
def firstWord : Diagnostic → String
  | status _ => "status"
  | notify bit => bit.name
  | unknownNotify _ => "unrecognised"
  | channelInError => "channel"
  | receiver _ => "nvcsi"

/-- What a word says about the kind of a finding that begins with it. -/
def kindOf (word : String) : Kind :=
  if word = "status" then .status
  else if word = "unrecognised" then .unknownNotify
  else if word = "channel" then .channelInError
  else if word = "nvcsi" then .receiver
  else .notify

theorem kindOf_firstWord (d : Diagnostic) : kindOf d.firstWord = d.kind := by
  cases d with
  | notify bit => cases bit <;> rfl
  | _ => rfl

theorem isWord_firstWord (d : Diagnostic) : IsWord d.firstWord := by
  cases d with
  | notify bit => exact bit.isWord_name
  | status _ | unknownNotify _ | channelInError | receiver _ =>
    exact Text.isWord_ofList (by decide)

theorem message_split (d : Diagnostic) : ∃ rest, d.message ++ " " = d.firstWord ++ " " ++ rest := by
  cases d with
  | status code =>
    refine ⟨code.name ++ " ", ?_⟩
    unfold message
    simp [toString, firstWord, ← String.append_assoc]
  | notify bit => exact ⟨"", String.append_empty.symm⟩
  | unknownNotify bits =>
    refine ⟨"notify bits " ++ Text.hexPadded 16 bits.toNat ++ " ", ?_⟩
    unfold message
    simp only [toString, firstWord, ← String.append_assoc]
    rfl
  | channelInError => exact ⟨"in error ", rfl⟩
  | receiver e =>
    exact ⟨e.block.name ++ ": " ++ e.detail ++ " ", by
      rw [ReceiverError.message_eq]
      simp [firstWord, ← String.append_assoc]⟩

theorem firstWord_eq_of_message {a b : Diagnostic} (h : a.message = b.message) :
    a.firstWord = b.firstWord := by
  have hsplit : ∀ d : Diagnostic, ∃ rest,
      (d.message ++ " ").toList = d.firstWord.toList ++ ' ' :: rest := by
    intro d
    obtain ⟨rest, hrest⟩ := d.message_split
    refine ⟨rest.toList, ?_⟩
    rw [hrest, String.toList_append, String.toList_append, List.append_assoc]
    rfl
  obtain ⟨rest, ha⟩ := hsplit a
  obtain ⟨rest', hb⟩ := hsplit b
  rw [h, hb] at ha
  obtain ⟨hword, -⟩ :=
    Text.eq_of_append_mark b.isWord_firstWord.blank_notMem a.isWord_firstWord.blank_notMem ha
  exact (String.toList_inj.mp hword).symm

/-- A finding about the receiver is one that the receiver can have. -/
def Catalogued : Diagnostic → Prop
  | receiver e => e.Catalogued
  | _ => True

/-- **Findings can be told from their messages.** -/
theorem message_inj {a b : Diagnostic} (ha : a.Catalogued) (hb : b.Catalogued)
    (h : a.message = b.message) : a = b := by
  have hkind : a.kind = b.kind := by
    rw [← kindOf_firstWord, ← kindOf_firstWord, firstWord_eq_of_message h]
  cases a <;> cases b <;> cases hkind
  case status.status.refl code code' =>
    rw [StatusCode.name_inj ((String.append_right_inj "status ").mp h)]
  case notify.notify.refl bit bit' =>
    rw [NotifyBit.name_inj h]
  case unknownNotify.unknownNotify.refl bits bits' =>
    have hbits := (String.append_right_inj "unrecognised notify bits ").mp h
    rw [UInt64.toNat_inj.mp (Text.hexPadded_inj hbits)]
  case channelInError.channelInError.refl => rfl
  case receiver.receiver.refl e e' => rw [ReceiverError.message_inj ha hb h]

theorem plain_message {d : Diagnostic} (h : d.Catalogued) : Plain d.message := by
  cases d with
  | status code =>
    exact Text.plain_append.mpr ⟨by decide, code.isWord_name.plain⟩
  | notify bit => exact bit.isWord_name.plain
  | unknownNotify bits =>
    exact Text.plain_append.mpr ⟨by decide, (Text.isWord_hexPadded _ _).plain⟩
  | channelInError => exact (by decide : Plain "channel in error")
  | receiver e =>
    rw [ReceiverError.message_eq, Text.plain_append, Text.plain_append, Text.plain_append]
    exact ⟨⟨⟨by decide, e.block.plain_name⟩, by decide⟩, ReceiverError.plain_detail h⟩

end Diagnostic

namespace CaptureStatus

theorem catalogued_diagnostics {s : CaptureStatus} {d : Diagnostic}
    (h : d ∈ s.classify.diagnostics) : d.Catalogued := by
  cases d with
  | receiver e =>
    cases e with
    | named block name =>
      by_cases hs : s.isFinal = true
      · rw [receiver_mem_iff hs, ReceiverStatus.named_mem_errors, BitNames.namesOf] at h
        obtain ⟨row, hrow, rfl⟩ := List.mem_map.mp h
        exact List.mem_map_of_mem (List.mem_of_mem_filter hrow)
      · have hcode : s.code = .unknown := by
          simpa [isFinal, StatusCode.isFinal] using hs
        rw [classify_of_unknown hcode] at h
        cases h
    | unnamed block bits => trivial
  | _ => trivial

end CaptureStatus

end CaptureProtocol
