import CaptureProtocol.Isp.Channel
import CaptureProtocol.Proofs.Channel.Acceptance
import CaptureProtocol.Proofs.Isp.Descriptor
import CaptureProtocol.Proofs.Isp.Program

/-!
# Which ISP channel configurations are accepted

An ISP channel has four rings but only two depths: the rings of requests and of programs each have
their own, and the memory-info ring beside each has as many slots. The rules are checked one after
another on words of several widths; here they are said again as plain arithmetic, ring by ring.

* `IspSettings.accepted_iff`: settings keep the rules exactly when they are `Acceptable`.
* `IspSettings.record_le_programSlot`: a slot for programs holds a descriptor and a whole program.
* `IspSettings.builds_exactly_acceptable`: **settings become a configuration exactly when they are
  acceptable**, and are otherwise an invalid configuration, for the first rule that does not hold.
-/

set_option autoImplicit false

namespace CaptureProtocol

namespace IspSettings

/--
What is asked of the settings of an ISP channel. Of the entries other than programs it is only asked
that they are not empty; being aligned, they then have 64 bytes.
-/
structure Acceptable (s : IspSettings) : Prop where
  requests : LegalRing s.requests.base.toNat s.requests.depth.toNat s.requests.size.toNat 1
  programs : LegalRing s.programs.base.toNat s.programs.depth.toNat s.programs.size.toNat 16576
  requestInfo : LegalRing s.requestInfo.toNat s.requests.depth.toNat s.requestInfoSize.toNat 1
  programInfo : LegalRing s.programInfo.toNat s.programs.depth.toNat s.programInfoSize.toNat 1
  requests_pos : 1 ≤ s.requests.depth.toNat
  requests_le : s.requests.depth.toNat ≤ 240
  programs_pos : 1 ≤ s.programs.depth.toNat
  programs_le : s.programs.depth.toNat ≤ 32
  unit_le : s.unit.toNat ≤ 1
  tables_le : s.gosTables.length ≤ 8
  tables : ∀ table ∈ s.gosTables, LegalTable table.toNat

/-- An aligned entry of any bytes at all has 64, so that a smaller record needs no rule. -/
theorem entry_le_iff {size record : Nat} (h : 64 ∣ size) (hpos : 1 ≤ record) (hle : record ≤ 64) :
    record ≤ size ↔ 1 ≤ size := by
  obtain ⟨k, rfl⟩ := h
  omega

theorem accepted_entry_iff {min : UInt32} (hpos : 1 ≤ min.toNat) (hle : min.toNat ≤ 64)
    (field : String) (size : UInt32) :
    Rule.Accepted (Rule.ringEntry field size min) ↔ 64 ∣ size.toNat ∧ 1 ≤ size.toNat := by
  rw [Rule.accepted_ringEntry]
  exact and_congr_right fun h => entry_le_iff h hpos hle

/-- The rules of an ISP channel ask that the settings be acceptable, and nothing more. -/
theorem accepted_iff {s : IspSettings} : Rule.Accepted s.rules ↔ s.Acceptable := by
  have hrecord := accepted_entry_iff (show 1 ≤ (64 : UInt32).toNat by decide) (by decide)
  have hsurface := accepted_entry_iff (show 1 ≤ (16 : UInt32).toNat by decide) (by decide)
  simp only [rules, Rule.accepted_append, Rule.accepted_cons, Rule.accepted_ringBase, hrecord,
    hsurface, Rule.accepted_ringEntry, Rule.accepted_gosTables, Rule.depth_holds,
    Rule.ringBytes_holds, Rule.atMost_holds, UInt32.toNat_toUInt64, Rule.accepted_nil, and_true]
  constructor
  · rintro ⟨⟨⟨⟨⟨⟨⟨⟨⟨⟨⟨hbase, hdepth⟩, hentry⟩, hprogBase⟩, hprogDepth⟩, hprogEntry⟩, hinfo⟩,
      hprogInfo⟩, hinfoEntry⟩, hprogInfoEntry⟩, hbytes, hprogBytes, hinfoBytes, hprogInfoBytes,
      hunit⟩, hcount, htables⟩
    exact {
      requests := ⟨hbase.1, hbase.2, hentry.1, hentry.2, hbytes⟩
      programs := ⟨hprogBase.1, hprogBase.2, hprogEntry.1, hprogEntry.2, hprogBytes⟩
      requestInfo := ⟨hinfo.1, hinfo.2, hinfoEntry.1, hinfoEntry.2, hinfoBytes⟩
      programInfo := ⟨hprogInfo.1, hprogInfo.2, hprogInfoEntry.1, hprogInfoEntry.2, hprogInfoBytes⟩
      requests_pos := hdepth.1
      requests_le := hdepth.2
      programs_pos := hprogDepth.1
      programs_le := hprogDepth.2
      unit_le := hunit
      tables_le := hcount
      tables := fun table hm => ⟨(htables table hm).1, (htables table hm).2⟩ }
  · intro h
    have hreq := h.requests
    have hprog := h.programs
    have hinfo := h.requestInfo
    have hprogInfo := h.programInfo
    exact ⟨⟨⟨⟨⟨⟨⟨⟨⟨⟨⟨⟨hreq.base_ne, hreq.base_aligned⟩, h.requests_pos, h.requests_le⟩,
      hreq.entry_aligned, hreq.record_le⟩, hprog.base_ne, hprog.base_aligned⟩, h.programs_pos,
      h.programs_le⟩, hprog.entry_aligned, hprog.record_le⟩, hinfo.base_ne, hinfo.base_aligned⟩,
      hprogInfo.base_ne, hprogInfo.base_aligned⟩, hinfo.entry_aligned, hinfo.record_le⟩,
      hprogInfo.entry_aligned, hprogInfo.record_le⟩, hreq.bytes_le, hprog.bytes_le, hinfo.bytes_le,
      hprogInfo.bytes_le, h.unit_le⟩, h.tables_le,
      fun table hm => ⟨(h.tables table hm).base_ne, (h.tables table hm).base_aligned⟩⟩

theorem exists_build_iff {s : IspSettings} : (∃ c, s.build = .ok c) ↔ s.Acceptable := by
  rw [← accepted_iff]
  constructor
  · rintro ⟨c, h⟩
    exact (Rule.enforce_eq_ok.mp h).1
  · intro h
    exact ⟨_, Rule.enforce_of_accepted _ h⟩

theorem settings_of_build {s : IspSettings} {c : IspConfig} (h : s.build = .ok c) :
    c.settings = s := by
  obtain ⟨_, rfl⟩ := Rule.enforce_eq_ok.mp h
  rfl

/-- A slot for programs holds the record of any descriptor and of any program. -/
theorem record_le_programSlot {s : IspSettings} (h : s.Acceptable) {d : ProgramDescriptor}
    {p : IspProgram} {front body : Bytes} (hd : d.encode = .ok front) (hp : p.encode = .ok body) :
    (front ++ body).length = 64 + 16512 ∧ (front ++ body).length ≤ s.programs.size.toNat := by
  obtain ⟨-, rfl⟩ := ProgramDescriptor.encode_eq_ok.mp hd
  obtain ⟨-, hfinish⟩ := Rule.enforce_bind_eq_ok.mp hp
  have hbody : body.length = 16512 := by
    obtain ⟨hlen, rfl⟩ := Bytes.finish_eq_ok.mp hfinish
    exact hlen
  have hlen : (ProgramDescriptor.codec.write d.words ++ body).length = 64 + 16512 := by
    rw [List.length_append, d.length_write, hbody]
  exact ⟨hlen, hlen ▸ h.programs.record_le⟩

/--
**Settings of an ISP channel become a configuration exactly when they are acceptable.** The
configuration then has these settings, and each slot of its program ring holds the 64 bytes of a
descriptor and the 16512 bytes of a program, whichever they are. All other settings are an invalid
configuration, for the first of the rules that does not hold.
-/
theorem builds_exactly_acceptable (s : IspSettings) :
    ((∃ c, s.build = .ok c) ↔ s.Acceptable) ∧
    (∀ c, s.build = .ok c → c.settings = s ∧
      ∀ (d : ProgramDescriptor) (p : IspProgram) (front body : Bytes),
        d.encode = .ok front → p.encode = .ok body →
          (front ++ body).length = 64 + 16512 ∧
            (front ++ body).length ≤ c.settings.programs.size.toNat) ∧
    ∀ e, CaptureError.ofRule s.build = .error e →
      ∃ r, Rule.firstBroken s.rules = some r ∧ e = .configurationInvalid r.violation := by
  refine ⟨exists_build_iff, fun c hc => ?_, fun e he => ?_⟩
  · obtain rfl := settings_of_build hc
    exact ⟨rfl, fun d p front body => record_le_programSlot (exists_build_iff.mp ⟨c, hc⟩)⟩
  · obtain ⟨violation, hv, rfl⟩ := CaptureError.ofRule_eq_error.mp he
    obtain ⟨r, hr, rfl⟩ := Rule.enforce_eq_error.mp hv
    exact ⟨r, hr, rfl⟩

/-- Settings at the upper ends of their ranges; the program rings would not bear a depth of 240. -/
def boundarySettings : IspSettings :=
  { requests := ⟨0xFFFFFFFFFFFFFFC0, 240, 69888⟩, programs := ⟨0xFFFFFFFFFFFFFF80, 32, 524288⟩,
    requestInfo := 0xFFFFFFFFFFFFFFC0, requestInfoSize := 69888, programInfo := 64,
    programInfoSize := 524288, unit := 1, gosTables := List.replicate 8 0xFFFFFFFFFFFFFF00 }

/-- The same with larger slots for programs. -/
def overfullSettings : IspSettings :=
  { boundarySettings with programs := ⟨0xFFFFFFFFFFFFFF80, 32, 524352⟩ }

/--
The upper ends are accepted, and a slot holds a program with its descriptor. Slots of 64 bytes more
are refused, for the bytes of their ring.
-/
theorem builds_exactly_acceptable_at_bounds :
    (∃ c, boundarySettings.build = .ok c ∧ c.settings = boundarySettings ∧
      ∃ front body, ({} : ProgramDescriptor).encode = .ok front ∧
        ({} : IspProgram).encode = .ok body ∧ (front ++ body).length ≤ 524288) ∧
      ∃ e, CaptureError.ofRule overfullSettings.build = .error e ∧
        e = .configurationInvalid (.fieldOutOfRange "program ring" 16779264 16777216) := by
  obtain ⟨hbuild, hslot, -⟩ := builds_exactly_acceptable boundarySettings
  obtain ⟨hrefused, -, herror⟩ := builds_exactly_acceptable overfullSettings
  constructor
  · obtain ⟨c, hc⟩ := hbuild.mpr (accepted_iff.mp (by decide))
    obtain ⟨hsettings, hfits⟩ := hslot c hc
    have hd := ProgramDescriptor.encode_eq_ok.mpr
      ⟨(by decide : Rule.Accepted ({} : ProgramDescriptor).rules), rfl⟩
    have hp := IspProgram.encode_eq_ok (p := {}) (by decide)
    obtain ⟨-, hle⟩ := hfits {} {} _ _ hd hp
    rw [hsettings] at hle
    exact ⟨c, hc, hsettings, _, _, hd, hp, hle⟩
  · cases hb : CaptureError.ofRule overfullSettings.build with
    | ok c =>
      have hring : 32 * 524352 ≤ 2 ^ 24 :=
        (hrefused.mp ⟨c, CaptureError.ofRule_eq_ok.mp hb⟩).programs.bytes_le
      omega
    | error e =>
      obtain ⟨r, hr, rfl⟩ := herror e hb
      have hfirst : Rule.firstBroken overfullSettings.rules =
          some (.ringBytes "program ring" 32 524352) := rfl
      cases hfirst.symm.trans hr
      exact ⟨_, rfl, rfl⟩

end IspSettings

end CaptureProtocol
