import CaptureProtocol.Text

/-!
# Why a configuration, record or ring operation is refused

`ConfigViolation` is one broken rule of a configuration; `CaptureError` is anything that a codec or
a ring can report. The wording of each is in `message`.
-/

set_option autoImplicit false

namespace CaptureProtocol

/-- One rule of a configuration that was broken. -/
inductive ConfigViolation where
  /-- An address that must be set is zero. -/
  | zeroAddress (field : String)
  /-- An address or size is not a multiple of its alignment. -/
  | misaligned (field : String) (value align : UInt64)
  /-- A ring entry is smaller than the record it must hold. -/
  | entryTooSmall (field : String) (size min : UInt32)
  /-- A queue depth lies outside its range. -/
  | queueDepthOutOfRange (field : String) (depth min max : UInt32)
  /-- There are more Grid-of-Semaphores tables than the record can carry. -/
  | tooManyGosTables (count max : Nat)
  /-- A number lies above its largest legal value. -/
  | fieldOutOfRange (field : String) (value max : UInt64)
  /-- Settings that are legal one by one contradict each other. -/
  | inconsistent (reason : String)
  deriving DecidableEq, Repr

namespace ConfigViolation

/-- The text that reports the violation. -/
def message : ConfigViolation → String
  | zeroAddress field => s!"{field} must be non-zero"
  | misaligned field value align =>
    s!"{field} = {Text.hex value.toNat} is not a multiple of {align.toNat}"
  | entryTooSmall field size min =>
    s!"{field} = {size.toNat} is smaller than the {min.toNat}-byte record"
  | queueDepthOutOfRange field depth min max =>
    s!"{field} = {depth.toNat} is outside [{min.toNat}, {max.toNat}]"
  | tooManyGosTables count max => s!"{count} GoS tables exceed the limit of {max}"
  | fieldOutOfRange field value max => s!"{field} = {value.toNat} exceeds {max.toNat}"
  | inconsistent reason => s!"inconsistent configuration: {reason}"

end ConfigViolation

/-- Why an operation of the capture protocol is refused. -/
inductive CaptureError where
  /-- A configuration or request breaks a rule. -/
  | configurationInvalid (violation : ConfigViolation)
  /-- The coprocessor has not completed the request. -/
  | notReady (sequence : UInt32)
  /-- A versioned record carries another magic number or version. -/
  | unsupportedVersion (record : String) (foundId : UInt32) (foundVersion : UInt16)
      (expectedId : UInt32) (expectedVersion : UInt16)
  /-- An ISP program is for a generation that is not known. -/
  | unsupportedIspType (raw : UInt16)
  /-- There are fewer bytes than the record needs. -/
  | layoutMismatch (record : String) (expected actual : Nat)
  /-- A status word is not in the catalogue. -/
  | invalidStatusCode (record : String) (raw : UInt32)
  /-- The slot still holds an earlier request. -/
  | slotBusy (index : Nat) (sequence : UInt32)
  /-- A completion notice names another request than its token. -/
  | noticeMismatch (token notice : UInt32)
  /-- The slot no longer holds the request that was submitted. -/
  | sequenceMismatch (index : Nat) (expected found : UInt32)
  /-- The channel is being reset. -/
  | channelResetting (inFlight : Nat)
  /-- A name or number stands for no CSI data type. -/
  | unknownDataType (name : String)
  deriving DecidableEq, Repr

namespace CaptureError

/-- The text that reports the error. -/
def message : CaptureError → String
  | configurationInvalid violation => s!"invalid configuration: {violation.message}"
  | notReady sequence => s!"request {sequence.toNat} not ready: status is still UNKNOWN"
  | unsupportedVersion record foundId foundVersion expectedId expectedVersion =>
    s!"unsupported {record}: id {Text.hexPadded 8 foundId.toNat} version {foundVersion.toNat} " ++
      s!"(expected id {Text.hexPadded 8 expectedId.toNat} version {expectedVersion.toNat})"
  | unsupportedIspType raw => s!"unsupported ISP type {raw.toNat}"
  | layoutMismatch record expected actual =>
    s!"{record} layout mismatch: need {expected} bytes, have {actual}"
  | invalidStatusCode record raw => s!"invalid {record} status code {raw.toNat}"
  | slotBusy index sequence => s!"slot {index} busy with request {sequence.toNat}"
  | noticeMismatch token notice =>
    s!"completion notice for request {notice.toNat} paired with request {token.toNat}"
  | sequenceMismatch index expected found =>
    s!"slot {index} holds sequence {found.toNat}, expected {expected.toNat}"
  | channelResetting inFlight => s!"channel reset in progress ({inFlight} requests in flight)"
  | unknownDataType name => s!"unknown CSI data type: {name}"

/-- Whether sharing memory with the coprocessor is unsafe after the error. -/
def isFatalToChannel : CaptureError → Bool
  | unsupportedVersion .. | unsupportedIspType .. | layoutMismatch .. | sequenceMismatch .. => true
  | _ => false

/-- The broken rule behind the error, if there is one. -/
def violation? : CaptureError → Option ConfigViolation
  | configurationInvalid violation => some violation
  | _ => none

/-- A broken rule is reported as an invalid configuration. -/
def ofRule {α : Type} : Except ConfigViolation α → Except CaptureError α
  | .ok a => .ok a
  | .error violation => .error (.configurationInvalid violation)

instance : MonadLift (Except ConfigViolation) (Except CaptureError) where
  monadLift := ofRule

theorem ofRule_eq_ok {α : Type} {x : Except ConfigViolation α} {a : α} :
    ofRule x = .ok a ↔ x = .ok a := by
  cases x <;> simp [ofRule]

theorem ofRule_eq_error {α : Type} {x : Except ConfigViolation α} {e : CaptureError} :
    ofRule x = .error e ↔
      ∃ violation, x = .error violation ∧ e = .configurationInvalid violation := by
  cases x <;> simp [ofRule, eq_comm]

theorem ofRule_bind {α β : Type} (x : Except ConfigViolation α)
    (f : α → Except ConfigViolation β) :
    ofRule (x >>= f) = ofRule x >>= fun a => ofRule (f a) := by
  cases x <;> rfl

/-- Two steps succeed exactly when the first does and the second does with its result. -/
theorem bind_eq_ok {ε α β : Type} {x : Except ε α} {f : α → Except ε β} {b : β} :
    (x >>= f) = .ok b ↔ ∃ a, x = .ok a ∧ f a = .ok b := by
  cases x <;> simp [bind, Except.bind]

end CaptureError

end CaptureProtocol
