import CaptureProtocol.Error
import CaptureProtocol.Log

/-!
# CSI-2 data types

The catalogue of data types with their numbers and names. A type has one canonical name, and most
types have a second name under the older family of names; both are understood.
-/

set_option autoImplicit false

namespace CaptureProtocol

/-- A CSI-2 data type. -/
inductive DataType where
  | unspecified
  | yuv420x8 | yuv420x10 | legacyYuv420x8 | yuv420Csps8 | yuv420Csps10 | yuv422x8 | yuv422x10
  | rgb444 | rgb555 | rgb565 | rgb666 | rgb888
  | raw6 | raw7 | raw8 | raw10 | raw12 | raw14 | raw16 | raw20
  | user1 | user2 | user3 | user4 | user5 | user6 | user7 | user8
  | unknown
  deriving DecidableEq, Repr

/-- The family of names that a data type was named in. -/
inductive Spelling where
  /-- The bare name, or the one that begins with `NVCSI_DATATYPE_`. -/
  | canonical
  /-- The deprecated name that begins with `NVCSI_DATA_TYPE_`. -/
  | legacy
  deriving DecidableEq, Repr

namespace DataType

/-- The data types by number. -/
def all : List DataType :=
  [unspecified, yuv420x8, yuv420x10, legacyYuv420x8, yuv420Csps8, yuv420Csps10, yuv422x8, yuv422x10,
    rgb444, rgb555, rgb565, rgb666, rgb888, raw6, raw7, raw8, raw10, raw12, raw14, raw16, raw20,
    user1, user2, user3, user4, user5, user6, user7, user8, unknown]

/-- The number of a data type. -/
def raw : DataType → UInt8
  | unspecified => 0
  | yuv420x8 => 24 | yuv420x10 => 25 | legacyYuv420x8 => 26 | yuv420Csps8 => 28 | yuv420Csps10 => 29
  | yuv422x8 => 30 | yuv422x10 => 31
  | rgb444 => 32 | rgb555 => 33 | rgb565 => 34 | rgb666 => 35 | rgb888 => 36
  | raw6 => 40 | raw7 => 41 | raw8 => 42 | raw10 => 43 | raw12 => 44 | raw14 => 45 | raw16 => 46
  | raw20 => 47
  | user1 => 48 | user2 => 49 | user3 => 50 | user4 => 51 | user5 => 52 | user6 => 53 | user7 => 54
  | user8 => 55
  | unknown => 64

/-- The canonical name without its beginning. -/
def name : DataType → String
  | unspecified => "UNSPECIFIED"
  | yuv420x8 => "YUV420_8" | yuv420x10 => "YUV420_10" | legacyYuv420x8 => "LEG_YUV420_8"
  | yuv420Csps8 => "YUV420CSPS_8" | yuv420Csps10 => "YUV420CSPS_10"
  | yuv422x8 => "YUV422_8" | yuv422x10 => "YUV422_10"
  | rgb444 => "RGB444" | rgb555 => "RGB555" | rgb565 => "RGB565" | rgb666 => "RGB666"
  | rgb888 => "RGB888"
  | raw6 => "RAW6" | raw7 => "RAW7" | raw8 => "RAW8" | raw10 => "RAW10" | raw12 => "RAW12"
  | raw14 => "RAW14" | raw16 => "RAW16" | raw20 => "RAW20"
  | user1 => "USER_1" | user2 => "USER_2" | user3 => "USER_3" | user4 => "USER_4"
  | user5 => "USER_5" | user6 => "USER_6" | user7 => "USER_7" | user8 => "USER_8"
  | unknown => "UNKNOWN"

/-- The older name without its beginning; the user-defined types have none. -/
def legacyName? : DataType → Option String
  | unspecified => some "Unspecified"
  | unknown => some "Unknown"
  | user1 | user2 | user3 | user4 | user5 | user6 | user7 | user8 => none
  | dt => some dt.name

/-- The bits per pixel of a RAW type. -/
def rawBits? : DataType → Option Nat
  | raw6 => some 6 | raw7 => some 7 | raw8 => some 8 | raw10 => some 10 | raw12 => some 12
  | raw14 => some 14 | raw16 => some 16 | raw20 => some 20
  | _ => none

/-- What canonical names begin with. -/
def canonicalLead : String := "NVCSI_DATATYPE_"

/-- What the older names begin with. -/
def legacyLead : String := "NVCSI_DATA_TYPE_"

/-- The whole canonical name. -/
def canonicalName (dt : DataType) : String := canonicalLead ++ dt.name

/-- The data type with a number. -/
def ofRaw? (raw : UInt8) : Option DataType := all.find? fun dt => dt.raw == raw

/--
The data type with a name, and which family the name is of. A name with a known beginning must match
the catalogue exactly; a bare name may use either case.
-/
def lookup? (name : String) : Option (DataType × Spelling) :=
  match Text.after? legacyLead name with
  | some rest => (all.find? fun dt => dt.legacyName? == some rest).map (·, .legacy)
  | none =>
    match Text.after? canonicalLead name with
    | some rest => (all.find? fun dt => dt.name == rest).map (·, .canonical)
    | none => (all.find? fun dt => Text.sameIgnoringCase dt.name name).map (·, .canonical)

/-- The data type with a number, or an error that names the number. -/
def ofRaw (raw : UInt8) : Except CaptureError DataType :=
  match ofRaw? raw with
  | some dt => .ok dt
  | none => .error (.unknownDataType (Text.hexPadded 2 raw.toNat))

/-- The data type with a name, or an error that names it. -/
def lookup (name : String) : Except CaptureError (DataType × Spelling) :=
  match lookup? name with
  | some found => .ok found
  | none => .error (.unknownDataType name)

/-- What looking up a name tells the log: that it is one of the older names. -/
def lookupEvents (name : String) : List LogEvent :=
  match lookup? name with
  | some (dt, .legacy) =>
    [{ level := .warn
       target := "camrtc_capture::csi"
       message := s!"{name} uses the deprecated {legacyLead} prefix; use {dt.canonicalName}" }]
  | _ => []

end DataType

end CaptureProtocol
