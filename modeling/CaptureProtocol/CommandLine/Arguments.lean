import CaptureProtocol.Text

/-!
# Options and operands

A command takes options, some with a value, and at most one operand. An option is written `--name
value` or `--name=value`; options and operand may be mixed, and after `--` there are no more
options. No option may be given twice. Help can also be asked for with a letter, behind which
further letters do not count. Arguments are judged from left to right, each value as soon as it is
seen, and the first one that is wrong or asks for help decides.

* `scan`: the options and the operand among some arguments.
-/

set_option autoImplicit false

namespace CaptureProtocol.CommandLine

/-- What a command understands. -/
structure Grammar where
  /-- The names of options with a value, and which values they take. -/
  valued : List (String × (String → Bool)) := []
  /-- The names of options without one. -/
  flags : List String := []
  /-- Which operands the command takes, if it takes one. -/
  operand : Option (String → Bool) := none

/-- What was found among the arguments of a command. -/
structure Scan where
  values : List (String × String) := []
  flags : List String := []
  operand : Option String := none
  /-- The option whose value comes next. -/
  pending : Option String := none
  /-- Whether only operands follow. -/
  operandsOnly : Bool := false

/-- Why the arguments do not make a command. -/
inductive Stop where
  /-- They ask for help. -/
  | help
  /-- They ask for the version. -/
  | version
  /-- They are wrong. -/
  | usage
  deriving DecidableEq, Repr

namespace Scan

/-- Whether an argument looks like an option, so that it cannot be the value of one. -/
def looksLikeOption (argument : String) : Bool :=
  argument.toList.head? == some '-' && argument != "-"

/-- The name of a long option and the value that is attached to it. -/
def splitOption (body : List Char) : String × Option String :=
  let name := String.ofList (body.takeWhile (· != '='))
  match body.dropWhile (· != '=') with
  | [] => (name, none)
  | _ :: value => (name, some (String.ofList value))

/-- The value of an option that has one. -/
def value? (s : Scan) (name : String) : Option String := s.values.lookup name

/-- Whether an option without a value was given. -/
def has (s : Scan) (name : String) : Bool := s.flags.contains name

/-- Adds the operand, if the command takes it and there is none yet. -/
def addOperand (g : Grammar) (s : Scan) (argument : String) : Except Stop Scan :=
  if s.operand.isNone ∧ g.operand.any (· argument) then
    .ok { s with operand := some argument }
  else .error .usage

/-- Adds the value of an option, if the option takes it and has none yet. -/
def addValue (g : Grammar) (s : Scan) (name value : String) : Except Stop Scan :=
  if (s.value? name).isNone ∧ (g.valued.lookup name).any (· value) then
    .ok { s with values := s.values ++ [(name, value)], pending := none }
  else .error .usage

/-- Adds an option, with a value if one is attached. -/
def addOption (g : Grammar) (s : Scan) (name : String) (value : Option String) :
    Except Stop Scan :=
  if name = "help" ∧ value = none then .error .help
  else if (g.valued.lookup name).isSome then
    match value with
    | some value => s.addValue g name value
    | none => if (s.value? name).isSome then .error .usage else .ok { s with pending := some name }
  else if g.flags.contains name ∧ value = none ∧ ¬ s.has name then
    .ok { s with flags := s.flags ++ [name] }
  else .error .usage

/-- What is known after one more argument. -/
def step (g : Grammar) (s : Scan) (argument : String) : Except Stop Scan :=
  if s.operandsOnly then s.addOperand g argument
  else
    match s.pending with
    | some name =>
      if looksLikeOption argument then .error .usage else s.addValue g name argument
    | none =>
      match argument.toList with
      | ['-', '-'] => .ok { s with operandsOnly := true }
      | '-' :: '-' :: body =>
        let (name, value) := splitOption body
        s.addOption g name value
      | '-' :: 'h' :: _ => .error .help
      | _ => if looksLikeOption argument then .error .usage else s.addOperand g argument

end Scan

/-- The options and the operand among the arguments of a command. -/
def scan (g : Grammar) (arguments : List String) : Except Stop Scan := do
  let s ← arguments.foldlM (Scan.step g) {}
  if s.pending.isSome then .error .usage else .ok s

end CaptureProtocol.CommandLine
