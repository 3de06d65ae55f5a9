import MemoryProbe.CommandLine.Setting

namespace MemoryProbe.CommandLine

/-! ## Arguments -/

/-- An argument is the separator, a long option with or without a value of its own, a
group of short flags, or a plain value. A single dash is a plain value. -/
inductive Argument where
  | separator
  | long (name : Bytes) (value : Option Bytes)
  | short (flags : Bytes)
  | plain (value : Bytes)
  deriving DecidableEq, Repr

def dash : UInt8 := 45
def equalsSign : UInt8 := 61

def Argument.long? (body : Bytes) : Argument :=
  match body.dropWhile (· != equalsSign) with
  | [] => .long body none
  | _ :: value => .long (body.takeWhile (· != equalsSign)) (some value)

def Argument.ofBytes (argument : Bytes) : Argument :=
  match argument with
  | [45, 45] => .separator
  | 45 :: 45 :: body => .long? body
  | 45 :: flag :: flags => .short (flag :: flags)
  | value => .plain value

/-! ## Reading arguments -/

/-- Help and version end the reading, and so does a refusal. -/
inductive Stop where
  | longHelp
  | shortHelp
  | version
  | refused (refusal : Refusal)
  deriving DecidableEq, Repr

/-- The last option, as long as its value has not been taken: it waits for one, or
holds the argument that followed it. -/
inductive Pending where
  | nothing
  | waiting (setting : Setting)
  | holding (setting : Setting) (value : Bytes)
  deriving DecidableEq, Repr

namespace Pending

def settle (pending : Pending) (given : Given) : Except Refusal Given :=
  match pending with
  | .nothing => .ok given
  | .waiting setting => .error (.missingValue setting)
  | .holding setting value => given.accept setting value

end Pending

def refuse {Value : Type} (refusal : Refusal) : Except Stop Value :=
  .error (.refused refusal)

def orStop {Value : Type} : Except Refusal Value → Except Stop Value
  | .ok value => .ok value
  | .error refusal => refuse refusal

def unexpected {Value : Type} (shown : String) : Except Stop Value :=
  refuse (.unexpectedArgument shown)

/-- The pending option is settled before anything that comes next takes effect,
except before an argument that is unexpected in itself. -/
def stopAfter {Value : Type} (stop : Stop) (pending : Pending) (given : Given) :
    Except Stop Value :=
  match pending.settle given with
  | .ok _ => .error stop
  | .error refusal => refuse refusal

def helpFlag? (name : Bytes) : Option HelpFlag :=
  [HelpFlag.help, HelpFlag.version].find? fun flag => name = Bytes.ofString flag.optionName

def HelpFlag.stop : HelpFlag → Stop
  | .help => .longHelp
  | .version => .version

/-- The first short flag decides, since none of them lets the reading go on. -/
def readShort {Value : Type} (flags : Bytes) (pending : Pending) (given : Given) :
    Except Stop Value :=
  match flags.scan.head? with
  | some (some 'h') => stopAfter .shortHelp pending given
  | some (some 'V') => stopAfter .version pending given
  | some (some flag) => unexpected ("-" ++ String.singleton flag)
  | _ => unexpected ("-" ++ flags.display)

/-- A long option that is no setting never lets the reading go on. -/
def readFlag {Value : Type} (name : Bytes) (value : Option Bytes) (pending : Pending)
    (given : Given) : Except Stop Value :=
  match helpFlag? name, value with
  | some flag, none => stopAfter flag.stop pending given
  | some flag, some value => refuse (.unexpectedValue flag value.display)
  | none, _ => unexpected ("--" ++ name.display)

/-- After the separator no argument is expected. -/
def readRest (pending : Pending) (given : Given) : List Bytes → Except Stop Given
  | [] => orStop (pending.settle given)
  | argument :: _ => unexpected argument.display

def read (pending : Pending) (given : Given) : List Bytes → Except Stop Given
  | [] => orStop (pending.settle given)
  | argument :: rest =>
      match Argument.ofBytes argument with
      | .separator => readRest pending given rest
      | .short flags => readShort flags pending given
      | .plain value =>
          match pending with
          | .waiting setting => read (.holding setting value) given rest
          | _ => unexpected value.display
      | .long name value =>
          match Setting.ofOptionName? name with
          | none => readFlag name value pending given
          | some setting =>
              match pending.settle given, value with
              | .error refusal, _ => refuse refusal
              | .ok given, none => read (.waiting setting) given rest
              | .ok given, some value =>
                  match given.accept setting value with
                  | .error refusal => refuse refusal
                  | .ok given => read .nothing given rest

def parse (environment : Environment) (arguments : List Bytes) : Except Stop Options :=
  match read .nothing .nothing arguments with
  | .error stop => .error stop
  | .ok given =>
      match Setting.all.foldlM (Given.fill environment) given with
      | .error refusal => refuse refusal
      | .ok given => .ok given.options

end MemoryProbe.CommandLine
