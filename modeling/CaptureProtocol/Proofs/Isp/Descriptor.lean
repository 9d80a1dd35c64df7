import CaptureProtocol.Isp.Descriptor

/-!
# Program descriptors through their record

A descriptor record has room neither for an absent channel nor for an absent status: it holds a
channel number that stands for none and the status of an unused program in their place. A status
whose code is `unknown` says that the program was not used, and is not read back.

* `encode_eq_ok`: a descriptor has a record exactly when it satisfies the rules.
* `ofWords_words`: what the words of a descriptor are read as.
* `decode_of_encode_iff`: which descriptors come back from their record.
* `decode_encode_up_to_sentinels`: **what is read back from the record of a descriptor**.
* `sentinels_not_returned`: two descriptors that do not come back.
-/

set_option autoImplicit false

namespace CaptureProtocol

namespace ProgramDescriptor

theorem filter_eq_self_iff {α : Type} {o : Option α} {p : α → Bool} :
    o.filter p = o ↔ ∀ a, o = some a → p a = true := by
  cases o <;> simp [Option.filter_some]

theorem length_write (d : ProgramDescriptor) : (codec.write d.words).length = 64 :=
  (codec.length_write d.words).trans size_codec

theorem validate_eq_ok {d : ProgramDescriptor} : d.validate = .ok () ↔ Rule.Accepted d.rules := by
  simp [validate, Rule.enforce_eq_ok]

theorem encode_eq_ok {d : ProgramDescriptor} {bytes : Bytes} :
    d.encode = .ok bytes ↔ Rule.Accepted d.rules ∧ bytes = codec.write d.words := by
  have hf : (codec.write d.words).finish "isp_program_descriptor" programDescriptorBytes.toNat =
      .ok (codec.write d.words) := Bytes.finish_eq_ok.mpr ⟨d.length_write, rfl⟩
  unfold encode validate
  refine Rule.enforce_bind_eq_ok.trans ?_
  rw [hf, exists_prop, Except.ok.injEq, eq_comm]

/--
What the words of a descriptor are read as: a channel that is the number for none, and a status
whose code says that the program was not used, are read as none.
-/
theorem ofWords_words (d : ProgramDescriptor) :
    ofWords d.words = .ok
      { d with
        viChannel := d.viChannel.filter fun channel => channel ≠ noViChannel
        status := d.status.filter fun s => s.code ≠ .unknown } := by
  have hchannel : (if d.viChannel.getD noViChannel = noViChannel then none
      else some (d.viChannel.getD noViChannel)) =
        d.viChannel.filter fun channel => channel ≠ noViChannel := by
    cases d.viChannel with
    | none => rfl
    | some channel => by_cases h : channel = noViChannel <;> simp [Option.filter, h]
  have hstatus : (if (d.status.getD {}).code = .unknown then none else some (d.status.getD {})) =
      d.status.filter fun s => s.code ≠ .unknown := by
    cases d.status with
    | none => rfl
    | some status => by_cases h : status.code = .unknown <;> simp [Option.filter, h]
  simp only [ofWords, words, IspProgramStatus.ofWords_words]
  rw [← hchannel, ← hstatus]
  rfl

/-- The record of a descriptor is read as its words are. -/
theorem decode_of_encode {d : ProgramDescriptor} {bytes : Bytes} (h : d.encode = .ok bytes) :
    decode bytes = .ok
      { d with
        viChannel := d.viChannel.filter fun channel => channel ≠ noViChannel
        status := d.status.filter fun s => s.code ≠ .unknown } := by
  obtain ⟨-, rfl⟩ := encode_eq_ok.mp h
  rw [decode, Codec.decode_write]
  exact d.ofWords_words

/-- A descriptor comes back from its record unless one of its fields reads as none. -/
theorem decode_of_encode_iff {d : ProgramDescriptor} {bytes : Bytes} (h : d.encode = .ok bytes) :
    decode bytes = .ok d ↔
      d.viChannel ≠ some noViChannel ∧ ∀ s, d.status = some s → s.code ≠ .unknown := by
  rw [decode_of_encode h, Except.ok.injEq]
  constructor
  · intro hd
    have hchannel := congrArg viChannel hd
    have hstatus := congrArg status hd
    simp only [filter_eq_self_iff, decide_eq_true_iff] at hchannel hstatus
    exact ⟨fun hv => hchannel _ hv rfl, hstatus⟩
  · rintro ⟨hchannel, hstatus⟩
    have hv : ∀ channel, d.viChannel = some channel → channel ≠ noViChannel := by
      rintro channel hv rfl
      exact hchannel hv
    congr 1 <;> simpa only [filter_eq_self_iff, decide_eq_true_iff]

/--
**What is read back from the record of a descriptor.** A descriptor has a record exactly when it
satisfies the rules. The record has 64 bytes, and every field comes back from it, except that a
status without a result comes back as none; a channel comes back if it is not the number that
stands for none.
-/
theorem decode_encode_up_to_sentinels (d : ProgramDescriptor) :
    (d.validate = .ok () ↔ ∃ bytes, d.encode = .ok bytes) ∧
    ∀ bytes, d.encode = .ok bytes → bytes.length = 64 ∧
      ∃ channel, (d.viChannel ≠ some noViChannel → channel = d.viChannel) ∧
        decode bytes = .ok { d with
          viChannel := channel
          status := d.status.filter fun s => s.code ≠ .unknown } := by
  constructor
  · simp [validate_eq_ok, encode_eq_ok]
  · intro bytes h
    have hchannel : d.viChannel ≠ some noViChannel →
        d.viChannel.filter (fun channel => channel ≠ noViChannel) = d.viChannel := by
      intro hne
      refine filter_eq_self_iff.mpr fun channel hv => decide_eq_true ?_
      rintro rfl
      exact hne hv
    obtain ⟨-, hbytes⟩ := encode_eq_ok.mp h
    exact ⟨hbytes ▸ d.length_write, _, hchannel, decode_of_encode h⟩

/-- A program for a VI channel that failed, placed away from its descriptor. -/
def failedProgram : ProgramDescriptor where
  settings := 7
  viChannel := some 2
  sequence := 100
  offset := 128
  size := 16384
  pushBufferBase := 0x70000040
  status := some { channel := 3, settings := 7, code := .error, errors := ⟨0x80000001⟩ }
  statsBuffer := 11
  activate := ⟨0xFFFFFFFF⟩

/-- The descriptor of the failed program comes back as it was. -/
theorem decode_encode_failedProgram :
    ∃ bytes, failedProgram.encode = .ok bytes ∧ bytes.length = 64 ∧
      decode bytes = .ok failedProgram := by
  obtain ⟨haccepted, hread⟩ := decode_encode_up_to_sentinels failedProgram
  obtain ⟨bytes, he⟩ := haccepted.mp rfl
  obtain ⟨hl, channel, hchannel, hd⟩ := hread bytes he
  obtain rfl := hchannel (by decide)
  exact ⟨bytes, he, hl, hd⟩

/-- A descriptor with the status of a program that has not run. -/
def waitingProgram : ProgramDescriptor where
  status := some { channel := 3, settings := 7 }

/-- A descriptor whose channel is the number that stands for none. -/
def channelAlias : ProgramDescriptor where
  viChannel := some noViChannel

/-- Neither of the two comes back from its record. -/
theorem sentinels_not_returned :
    (∃ bytes, waitingProgram.encode = .ok bytes ∧ decode bytes ≠ .ok waitingProgram) ∧
    ∃ bytes, channelAlias.encode = .ok bytes ∧ decode bytes ≠ .ok channelAlias := by
  constructor
  · refine ⟨_, rfl, ?_⟩
    intro h
    cases h
  · refine ⟨_, rfl, ?_⟩
    intro h
    cases h

end ProgramDescriptor

end CaptureProtocol
