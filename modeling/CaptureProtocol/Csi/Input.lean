import CaptureProtocol.Error

/-!
# CSI inputs

A VI channel takes its frames from a CSI stream and virtual channel. The input may also name a
receiver port; a port is wired to one stream, so a binding whose port feeds another stream is
refused.

* `ofWords_words`: a binding is read back from the words that it is written as.
* `exists_ofWords_iff`: which words of a record are a binding.
-/

set_option autoImplicit false

namespace CaptureProtocol

/-- How many streams the CSI receiver has. -/
def csiStreams : UInt32 := 6

/-- How many virtual channels a stream has. -/
def csiVirtualChannels : UInt32 := 16

/-- How many ports the CSI receiver has. -/
def csiPorts : UInt32 := 8

/-- A stream of the CSI receiver. -/
abbrev CsiStream := Fin 6

/-- A virtual channel within a CSI stream. -/
abbrev VirtualChannel := Fin 16

/-- A port of the CSI receiver. -/
inductive CsiPort where
  | a | b | c | d | e | f | g | h
  deriving DecidableEq, Repr

namespace CsiPort

/-- The ports by number. -/
def all : List CsiPort := [a, b, c, d, e, f, g, h]

/-- The number of a port in a record. -/
def number : CsiPort → UInt32
  | a => 0 | b => 1 | c => 2 | d => 3 | e => 4 | f => 5 | g => 6 | h => 7

/-- The letter of a port. -/
def letter : CsiPort → Char
  | a => 'A' | b => 'B' | c => 'C' | d => 'D' | e => 'E' | f => 'F' | g => 'G' | h => 'H'

/-- The stream that a port feeds: F shares stream 4 with E, and H shares stream 5 with G. -/
def stream : CsiPort → CsiStream
  | a => 0 | b => 1 | c => 2 | d => 3 | e => 4 | f => 4 | g => 5 | h => 5

/-- The port with a number. -/
def ofNumber? (number : UInt32) : Option CsiPort := all.find? fun p => p.number == number

/-- The port with a letter of either case. -/
def ofLetter? (letter : Char) : Option CsiPort := all.find? fun p => p.letter == letter.toUpper

theorem ofNumber?_number (p : CsiPort) : ofNumber? p.number = some p := by
  cases p <;> rfl

theorem number_of_ofNumber? {number : UInt32} {p : CsiPort} (h : ofNumber? number = some p) :
    p.number = number := by
  simpa using List.find?_some h

end CsiPort

/-! ## Words of a record -/

/-- The word that stands for no port in particular. -/
def unspecifiedPort : UInt32 := 0xFFFFFFFF

namespace CsiInput

/-- The word for a port, or for none in particular. -/
def portWord : Option CsiPort → UInt32
  | some p => p.number
  | none => unspecifiedPort

/-- A port's letter, or that none was named. -/
def portText : Option CsiPort → String
  | some p => p.letter.toString
  | none => "unspecified"

/-- The stream with a number. -/
def stream (id : UInt32) : Except ConfigViolation CsiStream :=
  if h : id.toNat < 6 then .ok ⟨id.toNat, h⟩
  else .error (.fieldOutOfRange "csi_stream.stream_id" id.toUInt64 (csiStreams - 1).toUInt64)

/-- The port that a word names, or none in particular. -/
def port (word : UInt32) : Except ConfigViolation (Option CsiPort) :=
  match CsiPort.ofNumber? word with
  | some p => .ok (some p)
  | none =>
    if word = unspecifiedPort then .ok none
    else .error (.fieldOutOfRange "csi_stream.csi_port" word.toUInt64 (csiPorts - 1).toUInt64)

/-- The virtual channel with a number. -/
def virtualChannel (number : UInt32) : Except ConfigViolation VirtualChannel :=
  if h : number.toNat < 16 then .ok ⟨number.toNat, h⟩
  else .error (.fieldOutOfRange "csi_stream.virtual_channel" number.toUInt64
    (csiVirtualChannels - 1).toUInt64)

@[simp] theorem stream_ofNat (s : CsiStream) : stream (UInt32.ofNat s.val) = .ok s := by
  have h : (UInt32.ofNat s.val).toNat = s.val := by
    simp
    omega
  simp [stream, h]

@[simp] theorem virtualChannel_ofNat (c : VirtualChannel) :
    virtualChannel (UInt32.ofNat c.val) = .ok c := by
  have h : (UInt32.ofNat c.val).toNat = c.val := by
    simp
    omega
  simp [virtualChannel, h]

@[simp] theorem port_portWord (p : Option CsiPort) : port (portWord p) = .ok p := by
  cases p with
  | none => rfl
  | some p => simp [port, portWord, CsiPort.ofNumber?_number]

theorem word_of_stream {id : UInt32} {s : CsiStream} (h : stream id = .ok s) :
    UInt32.ofNat s.val = id := by
  unfold stream at h
  split at h
  · cases h
    exact UInt32.ofNat_toNat
  · cases h

theorem word_of_virtualChannel {number : UInt32} {c : VirtualChannel}
    (h : virtualChannel number = .ok c) : UInt32.ofNat c.val = number := by
  unfold virtualChannel at h
  split at h
  · cases h
    exact UInt32.ofNat_toNat
  · cases h

theorem portWord_of_port {word : UInt32} {p : Option CsiPort} (h : port word = .ok p) :
    portWord p = word := by
  unfold port at h
  split at h
  · next q hq =>
    cases h
    exact CsiPort.number_of_ofNumber? hq
  · split at h
    · next hw =>
      cases h
      exact hw.symm
    · cases h

end CsiInput

/-! ## Bindings -/

/-- The stream, port and virtual channel that feed a channel. -/
structure CsiBinding where
  stream : CsiStream
  port : Option CsiPort
  channel : VirtualChannel
  /-- A named port feeds the stream. -/
  feeds : ∀ p, port = some p → p.stream = stream
  deriving DecidableEq

namespace CsiBinding

/-- The binding of a stream, refused when the port feeds another one. -/
def bind (stream : CsiStream) (port : Option CsiPort) (channel : VirtualChannel) :
    Except ConfigViolation CsiBinding :=
  match port with
  | none => .ok ⟨stream, none, channel, by simp⟩
  | some p =>
    if h : p.stream = stream then .ok ⟨stream, some p, channel, by simpa using h⟩
    else .error (.inconsistent
      s!"port {p.letter} feeds stream {p.stream.val}, not stream {stream.val}")

/-- The binding that three words of a record describe. -/
def ofWords (stream port channel : UInt32) : Except ConfigViolation CsiBinding := do
  let stream ← CsiInput.stream stream
  let port ← CsiInput.port port
  let channel ← CsiInput.virtualChannel channel
  bind stream port channel

/-- The three words that describe a binding; without one, stream and channel 0 and no port. -/
def words : Option CsiBinding → UInt32 × UInt32 × UInt32
  | some b => (UInt32.ofNat b.stream.val, CsiInput.portWord b.port, UInt32.ofNat b.channel.val)
  | none => (0, unspecifiedPort, 0)

@[simp] theorem bind_fields (b : CsiBinding) : bind b.stream b.port b.channel = .ok b := by
  obtain ⟨stream, port, channel, h⟩ := b
  cases port with
  | none => rfl
  | some p => simp [bind, h p rfl]

theorem bind_eq_ok {stream : CsiStream} {port : Option CsiPort} {channel : VirtualChannel}
    {b : CsiBinding} (h : bind stream port channel = .ok b) :
    b.stream = stream ∧ b.port = port ∧ b.channel = channel := by
  cases port with
  | none =>
    cases h
    exact ⟨rfl, rfl, rfl⟩
  | some p =>
    simp only [bind] at h
    split at h
    · cases h
      exact ⟨rfl, rfl, rfl⟩
    · cases h

theorem ofWords_words (b : CsiBinding) :
    ofWords (words (some b)).1 (words (some b)).2.1 (words (some b)).2.2 = .ok b := by
  simp only [ofWords, words, CsiInput.stream_ofNat, CsiInput.port_portWord,
    CsiInput.virtualChannel_ofNat]
  exact b.bind_fields

/-- A binding is written as the words that it was read from. -/
theorem words_of_ofWords {stream port channel : UInt32} {b : CsiBinding}
    (h : ofWords stream port channel = .ok b) : words (some b) = (stream, port, channel) := by
  obtain ⟨s, hs, h⟩ := CaptureError.bind_eq_ok.mp h
  obtain ⟨p, hp, h⟩ := CaptureError.bind_eq_ok.mp h
  obtain ⟨c, hc, h⟩ := CaptureError.bind_eq_ok.mp h
  obtain ⟨rfl, rfl, rfl⟩ := bind_eq_ok h
  rw [words, CsiInput.word_of_stream hs, CsiInput.portWord_of_port hp,
    CsiInput.word_of_virtualChannel hc]

/-- The streams that the ports feed, by the number of the port. -/
def portStreams : List Nat := [0, 1, 2, 3, 4, 4, 5, 5]

/-- The numbers of a stream, a port and a virtual channel that go together. -/
structure Legal (stream port channel : Nat) : Prop where
  stream_lt : stream < 6
  channel_lt : channel < 16
  /-- No port is named, or one that feeds the stream. -/
  port : port = 0xFFFFFFFF ∨ portStreams[port]? = some stream

theorem portStreams_eq_some {port stream : Nat} :
    portStreams[port]? = some stream ↔
      ∃ p : CsiPort, p.number.toNat = port ∧ p.stream.val = stream := by
  constructor
  · intro h
    have hlt : port < 8 := (List.getElem?_eq_some_iff.mp h).1
    have hport : ∀ k : Fin 8, (CsiPort.all[k]).number.toNat = k.val ∧
        portStreams[k.val]? = some (CsiPort.all[k]).stream.val := by
      decide
    obtain ⟨hn, hs⟩ := hport ⟨port, hlt⟩
    exact ⟨_, hn, Option.some.inj (hs.symm.trans h)⟩
  · rintro ⟨p, rfl, rfl⟩
    cases p <;> rfl

/-- Three words describe a binding exactly when their numbers go together. -/
theorem exists_ofWords_iff {stream port channel : UInt32} :
    (∃ b, ofWords stream port channel = .ok b) ↔
      Legal stream.toNat port.toNat channel.toNat := by
  constructor
  · rintro ⟨b, h⟩
    have hw := words_of_ofWords h
    simp only [words, Prod.mk.injEq] at hw
    obtain ⟨rfl, rfl, rfl⟩ := hw
    have hs : (UInt32.ofNat b.stream.val).toNat = b.stream.val := by
      rw [UInt32.toNat_ofNat']
      omega
    have hc : (UInt32.ofNat b.channel.val).toNat = b.channel.val := by
      rw [UInt32.toNat_ofNat']
      omega
    refine ⟨by omega, by omega, ?_⟩
    cases hp : b.port with
    | none => exact .inl rfl
    | some p =>
      refine .inr (portStreams_eq_some.mpr ⟨p, rfl, ?_⟩)
      rw [b.feeds p hp, hs]
  · rintro ⟨hs, hc, hport⟩
    -- The binding is the one that is written as these words.
    suffices h : ∃ b, words (some b) = (stream, port, channel) by
      obtain ⟨b, hb⟩ := h
      have hw := b.ofWords_words
      rw [hb] at hw
      exact ⟨b, hw⟩
    rcases hport with hnone | hsome
    · obtain rfl : port = unspecifiedPort := UInt32.toNat_inj.mp hnone
      exact ⟨⟨⟨_, hs⟩, none, ⟨_, hc⟩, by simp⟩, by simp [words, CsiInput.portWord]⟩
    · obtain ⟨p, hn, hf⟩ := portStreams_eq_some.mp hsome
      obtain rfl : p.number = port := UInt32.toNat_inj.mp hn
      exact ⟨⟨⟨_, hs⟩, some p, ⟨_, hc⟩, by simp [Fin.ext_iff, hf]⟩,
        by simp [words, CsiInput.portWord]⟩

end CsiBinding

end CaptureProtocol
