import MemoryProbe.Bytes.Utf8
import MemoryProbe.Report
import MemoryProbe.Text.Decimal
import MemoryProbe.Text.Printable

namespace MemoryProbe.CommandLine

/-! ## Settings -/

/-- Each setting has a long option and an environment variable that stands in for it. -/
inductive Setting where
  | format
  | samples
  | intervalMs
  | logFile
  deriving DecidableEq, Repr

namespace Setting

def all : List Setting := [.format, .samples, .intervalMs, .logFile]

def optionName : Setting → String
  | .format => "format"
  | .samples => "samples"
  | .intervalMs => "interval-ms"
  | .logFile => "log-file"

def valueName : Setting → String
  | .format => "FORMAT"
  | .samples => "SAMPLES"
  | .intervalMs => "INTERVAL_MS"
  | .logFile => "LOG_FILE"

def usage (setting : Setting) : String :=
  "--" ++ setting.optionName ++ " <" ++ setting.valueName ++ ">"

def variableName (setting : Setting) : String :=
  "HWMEM_PROBE_" ++ setting.valueName

def ofOptionName? (name : Bytes) : Option Setting :=
  all.find? fun setting => name = Bytes.ofString setting.optionName

end Setting

/-- What the environment sets, for each setting. -/
abbrev Environment := Setting → Option Bytes

def Environment.empty : Environment := fun _ => none

/-! ## Refusals -/

inductive HelpFlag where
  | help
  | version
  deriving DecidableEq, Repr

def HelpFlag.optionName : HelpFlag → String
  | .help => "help"
  | .version => "version"

inductive Refusal where
  | unexpectedArgument (shown : String)
  | unexpectedValue (flag : HelpFlag) (value : String)
  | missingValue (setting : Setting)
  | repeated (setting : Setting)
  | invalidValue (setting : Setting) (value : String)
  | invalidNumber (setting : Setting) (value : String) (cause : Text.DecimalError)
  | outOfRange (setting : Setting) (value : String) (number : Int)
  | invalidText
  deriving DecidableEq, Repr

namespace Refusal

def quoted (text : String) : String :=
  "'" ++ Text.printable text ++ "'"

def reason : Refusal → String
  | .unexpectedArgument shown => "unexpected argument " ++ quoted shown ++ " found"
  | .unexpectedValue flag value =>
      "unexpected value " ++ quoted value ++ " for '--" ++ flag.optionName ++
        "' found; no more were expected"
  | .missingValue setting =>
      "a value is required for '" ++ setting.usage ++ "' but none was supplied"
  | .repeated setting =>
      "the argument '" ++ setting.usage ++ "' cannot be used multiple times"
  | .invalidValue setting value =>
      "invalid value " ++ quoted value ++ " for '" ++ setting.usage ++ "'"
  | .invalidNumber setting value cause =>
      "invalid value " ++ quoted value ++ " for '" ++ setting.usage ++ "': " ++ cause.message
  | .outOfRange setting value number =>
      "invalid value " ++ quoted value ++ " for '" ++ setting.usage ++ "': " ++
        number.repr ++ " is not in 1..=4294967295"
  | .invalidText => "invalid UTF-8 was detected in one or more arguments"

/-- The first line of the text in which a refusal is reported. -/
def message (refusal : Refusal) : String :=
  Text.firstLine ("error: " ++ refusal.reason)

end Refusal

/-! ## Values -/

def maxSamples : Nat := UInt32.size - 1

def formatOf (value : Bytes) : Except Refusal Report.Format :=
  if value = Bytes.ofString Report.Format.text.name then .ok .text
  else if value = Bytes.ofString Report.Format.json.name then .ok .json
  else if value = [] then .error (.missingValue .format)
  else .error (.invalidValue .format value.display)

/-- Samples are read as a signed number first, so the range has its own refusal. -/
def samplesOf (value : Bytes) : Except Refusal Nat :=
  match value.toChars? with
  | none => .error .invalidText
  | some characters =>
      match Text.Decimal.integer (UInt64.size / 2 - 1) characters with
      | .error cause => .error (.invalidNumber .samples (String.ofList characters) cause)
      | .ok number =>
          if 1 ≤ number ∧ number ≤ maxSamples then .ok number.toNat
          else .error (.outOfRange .samples (String.ofList characters) number)

def intervalOf (value : Bytes) : Except Refusal UInt64 :=
  match value.toChars? with
  | none => .error .invalidText
  | some characters =>
      match Text.Decimal.natural (UInt64.size - 1) characters with
      | .error cause => .error (.invalidNumber .intervalMs (String.ofList characters) cause)
      | .ok number => .ok (UInt64.ofNat number)

def logFileOf (value : Bytes) : Except Refusal Bytes :=
  if value = [] then .error (.missingValue .logFile) else .ok value

/-! ## Options -/

structure Options where
  format : Report.Format
  samples : Nat
  intervalMs : UInt64
  logFile : Option Bytes
  deriving DecidableEq, Repr

/-- The settings given so far. -/
structure Given where
  format : Option Report.Format
  samples : Option Nat
  intervalMs : Option UInt64
  logFile : Option Bytes
  deriving DecidableEq, Repr

namespace Given

def nothing : Given := ⟨none, none, none, none⟩

def has (given : Given) : Setting → Bool
  | .format => given.format.isSome
  | .samples => given.samples.isSome
  | .intervalMs => given.intervalMs.isSome
  | .logFile => given.logFile.isSome

def put (given : Given) (setting : Setting) (value : Bytes) : Except Refusal Given :=
  match setting with
  | .format => (formatOf value).map fun format => { given with format := some format }
  | .samples => (samplesOf value).map fun samples => { given with samples := some samples }
  | .intervalMs => (intervalOf value).map fun interval =>
      { given with intervalMs := some interval }
  | .logFile => (logFileOf value).map fun path => { given with logFile := some path }

/-- An option may be given once. -/
def accept (given : Given) (setting : Setting) (value : Bytes) : Except Refusal Given :=
  if given.has setting then .error (.repeated setting) else given.put setting value

/-- A setting without an option takes the value of its variable. -/
def fill (environment : Environment) (given : Given) (setting : Setting) :
    Except Refusal Given :=
  if given.has setting then .ok given
  else
    match environment setting with
    | none => .ok given
    | some value => given.put setting value

def options (given : Given) : Options where
  format := given.format.getD .text
  samples := given.samples.getD 1
  intervalMs := given.intervalMs.getD 1000
  logFile := given.logFile

end Given

end MemoryProbe.CommandLine
