/-!
# Numbers on the command line

Most options take a decimal number. Words of a record may also be written in hexadecimal with `0x`,
and with underscores anywhere among the digits.

* `digits?`: a sequence of digits, as the number that it denotes.
* `word64?`, `word32?`: a word of a record.
* `count32?`, `index?`: a plain decimal number.
-/

set_option autoImplicit false

namespace CaptureProtocol.CommandLine

/-- The value of a digit in a base of up to sixteen. -/
def digit? (base : Nat) (c : Char) : Option Nat :=
  let value? :=
    if '0' ≤ c ∧ c ≤ '9' then some (c.toNat - '0'.toNat)
    else if 'a' ≤ c ∧ c ≤ 'f' then some (c.toNat - 'a'.toNat + 10)
    else if 'A' ≤ c ∧ c ≤ 'F' then some (c.toNat - 'A'.toNat + 10)
    else none
  value?.filter (· < base)

/-- The number with `value` in front of some digits. -/
def digitsFrom? (base : Nat) : Nat → List Char → Option Nat
  | value, [] => some value
  | value, c :: rest => (digit? base c).bind fun d => digitsFrom? base (value * base + d) rest

/-- The number that one digit or more denote. -/
def digits? (base : Nat) (cs : List Char) : Option Nat :=
  if cs.isEmpty then none else digitsFrom? base 0 cs

/-- A number that may have a plus sign. -/
def unsigned? (base : Nat) : List Char → Option Nat
  | '+' :: rest => digits? base rest
  | cs => digits? base cs

/-- A 64-bit word: hexadecimal after `0x` or `0X`, else decimal; underscores are skipped. -/
def word64? (s : String) : Option UInt64 :=
  let value? :=
    match s.toList with
    | '0' :: 'x' :: rest | '0' :: 'X' :: rest => unsigned? 16 (rest.filter (· != '_'))
    | cs => unsigned? 10 (cs.filter (· != '_'))
  (value?.filter (· < UInt64.size)).map UInt64.ofNat

/-- A 32-bit word, written as a 64-bit word is. -/
def word32? (s : String) : Option UInt32 :=
  ((word64? s).filter (·.toNat < UInt32.size)).map fun w => w.toUInt32

/-- A decimal number of 32 bits. It may have a sign, so that 0 can be written with a minus. -/
def count32? (s : String) : Option UInt32 :=
  match s.toList with
  | '-' :: rest => ((digits? 10 rest).filter (· = 0)).map UInt32.ofNat
  | cs => ((unsigned? 10 cs).filter (· < UInt32.size)).map UInt32.ofNat

/-- A decimal number of 64 bits that may have a plus sign. -/
def index? (s : String) : Option Nat := (unsigned? 10 s.toList).filter (· < UInt64.size)

end CaptureProtocol.CommandLine
