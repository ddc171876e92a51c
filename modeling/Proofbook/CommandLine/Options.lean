import Proofbook.Binary64.Numeral

/-!
# Options of the command line

Arguments are read from the first to the last. An option is written `--name value` or
`--name=value`; a value in an argument of its own does not start with a dash, unless it is a
single dash. An option without a value stands for its default, if it has one. A bare `--` ends the
options. What remains is the path of a script, of which there has to be exactly one.

Asking for help or for the version is answered when it is met; a wrong value or an option given
twice is a fault only when all arguments have been read.
-/

namespace Proofbook.CommandLine

inductive Format where
  | json
  | tstp
  | silent
deriving DecidableEq

def Format.ofName? : String → Option Format
  | "json" => some json
  | "tstp" => some tstp
  | "silent" => some silent
  | _ => none

inductive OptionName where
  | format
  | timeLimit
  | target
  | tableLimit
  | logLevel
deriving DecidableEq

namespace OptionName

def all : List OptionName := [format, timeLimit, target, tableLimit, logLevel]

def name : OptionName → String
  | format => "output"
  | timeLimit => "time-limit"
  | target => "target"
  | tableLimit => "truth-table-limit"
  | logLevel => "log-level"

def ofName? (name : String) : Option OptionName := all.find? (·.name == name)

end OptionName

structure Options where
  path : String
  format : Format
  /-- The longest time of a proof check, in nanoseconds. -/
  timeLimit : Option Nat
  tableLimit : Nat

inductive Stop where
  | help
  | version
  | invalid

/-! ## Values -/

/-- A natural number of at most 64 bits; a plus sign is allowed. -/
def natValue? (value : String) : Option Nat :=
  let digits := match value.toList with
    | '+' :: digits => digits
    | digits => digits
  let n := natOfDigits digits
  if !digits.isEmpty && digits.all Char.isDigit && n < Nat.pow 2 64 then some n else none

def unsignedValue? (negative : Bool) (value : List Char) : Option Binary64 := do
  let (whole, rest) := spanDigits value
  let (decimals, rest) := match rest with
    | '.' :: rest => spanDigits rest
    | rest => ([], rest)
  if whole.isEmpty && decimals.isEmpty then none
  else
    let (exponent, rest) ← scanExponent rest
    let numeral : Numeral := ⟨negative, whole, decimals, exponent⟩
    if rest.isEmpty then some numeral.toBinary64 else none

def decimalValue? (value : String) : Option Binary64 :=
  match value.toList with
  | '-' :: rest => unsignedValue? true rest
  | '+' :: rest => unsignedValue? false rest
  | rest => unsignedValue? false rest

def greatestSeconds : Nat := Nat.pow 10 9

/--
A number of seconds in nanoseconds, rounded to the nearest one. It lies between zero, which may
carry a sign, and a billion.
-/
def nanoseconds? (x : Binary64) : Option Nat :=
  let (num, den) := rescale 2 (-x.scale) (x.mantissa * Nat.pow 10 9) 1
  if x.isFinite && (!x.isNegative || x.isZero) && num ≤ greatestSeconds * Nat.pow 10 9 * den then
    some (roundHalfEven num den)
  else none

def secondsValue? (value : String) : Option Nat := (decimalValue? value).bind nanoseconds?

def logLevels : List String := ["off", "error", "warn", "info", "debug", "trace"]

/-! ## Arguments -/

structure Arguments where
  path : Option String := none
  /-- The options met, with their values where they were given, latest first. -/
  given : List (OptionName × Option String) := []
  awaiting : Bool := false
  /-- Only a path may still come. -/
  closed : Bool := false

namespace Arguments

def addPath (a : Arguments) (value : String) : Except Stop Arguments :=
  match a.path with
  | none => .ok { a with path := some value, awaiting := false }
  | some _ => .error .invalid

def addValue (a : Arguments) (value : String) : Except Stop Arguments :=
  match a.given with
  | (name, _) :: given => .ok { a with given := (name, some value) :: given, awaiting := false }
  | [] => .error .invalid

def splitOption (argument : List Char) : String × Option String :=
  let body := argument.dropWhile (· == '-')
  let name := body.takeWhile (· != '=')
  match body.drop name.length with
  | [] => (String.ofList name, none)
  | rest => (String.ofList name, some (String.ofList (rest.dropWhile (· == '='))))

def addLong (a : Arguments) (argument : List Char) : Except Stop Arguments :=
  let (name, value) := splitOption argument
  match OptionName.ofName? name with
  | some option =>
    .ok { a with given := (option, value) :: a.given, awaiting := value.isNone }
  | none =>
    if name = "help" then .error .help
    else if name = "version" then .error .version
    else .error .invalid

def shortStop : Char → Stop
  | 'h' => .help
  | 'V' => .version
  | _ => .invalid

def add (a : Arguments) (argument : String) : Except Stop Arguments :=
  if a.closed then a.addPath argument
  else
    match argument.toList with
    | ['-', '-'] => .ok { a with closed := true, awaiting := false }
    | '-' :: '-' :: rest => a.addLong ('-' :: '-' :: rest)
    | '-' :: c :: _ => .error (shortStop c)
    | _ => if a.awaiting then a.addValue argument else a.addPath argument

/-- The value of an option that may be given once; without a value its default counts. -/
def value? (a : Arguments) (option : OptionName) (fallback : Option String) :
    Except Stop (Option String) :=
  match (a.given.filter fun (name, _) => name == option).map Prod.snd with
  | [] => .ok fallback
  | [some value] => .ok (some value)
  | [none] => if fallback.isSome then .ok fallback else .error .invalid
  | _ => .error .invalid

def read {α : Type} (a : Arguments) (option : OptionName) (fallback : Option String)
    (read? : String → Option α) : Except Stop (Option α) := do
  match ← a.value? option fallback with
  | none => return none
  | some value =>
    match read? value with
    | some found => return some found
    | none => throw .invalid

end Arguments

def required {α : Type} : Option α → Except Stop α
  | some value => .ok value
  | none => .error .invalid

def Options.ofArguments (arguments : List String) : Except Stop Options := do
  let a ← arguments.foldlM Arguments.add {}
  let path ← required a.path
  let format ← required (← a.read .format "json" Format.ofName?)
  let timeLimit ← a.read .timeLimit none secondsValue?
  let _ ← a.read .target "1" secondsValue?
  let tableLimit ← required (← a.read .tableLimit "12" natValue?)
  let _ ← a.read .logLevel "warn" fun value => if value ∈ logLevels then some value else none
  return { path, format, timeLimit, tableLimit }

end Proofbook.CommandLine
