import CaptureProtocol.CommandLine.Report

/-!
# The program

Carries out the command line with the files that are there, prints the outcome and exits with its
code. Warnings and errors go to the log.
-/

set_option autoImplicit false

namespace CaptureProtocol.CommandLine

/-- The number of an error, which some calls report with its sign turned. -/
def errorNumber (code : UInt32) : UInt32 := if code < 0x80000000 then code else 0 - code

/-- Why a file could not be read. -/
def readFailure : IO.Error → FileError
  | .noFileOrDirectory .. => .notFound
  | .permissionDenied .. => .denied
  | .inappropriateType _ code _ => if errorNumber code = 20 then .notADirectory else .isADirectory
  | error@(.invalidArgument _ code _) =>
    if errorNumber code = 36 then .nameTooLong else .other (toString error)
  | error => .other (toString error)

/-- The contents of a file, or why it could not be read. -/
def readFile (file : String) : IO (Except FileError Bytes) := do
  try
    return .ok (← IO.FS.readBinFile file).toList
  catch error => return .error (readFailure error)

/-- Prints an outcome and gives its exit code. -/
def Outcome.print (outcome : Outcome) : IO UInt32 := do
  IO.print outcome.stdout
  IO.eprint outcome.stderr
  return UInt32.ofNat outcome.exitCode

end CaptureProtocol.CommandLine

open CaptureProtocol.CommandLine in
/-- Runs one command line. -/
def main (arguments : List String) : IO UInt32 := do
  let outcome ← execute CaptureProtocol.Logger.warnings readFile arguments
  outcome.print
