import MemoryProbe.CommandLine.Setting
import MemoryProbe.Version

namespace MemoryProbe.CommandLine

/-! ## Help and version texts

The short help keeps each setting on one line, the long help gives it a paragraph.
Both show what the environment sets, indented like the text around it. Names of
options are bold, and the whole text is shown without terminal control, so that a
sequence left open in a value goes on to the next name. -/

def Setting.about : Setting → String
  | .format => "Output format"
  | .samples => "Number of snapshots to take"
  | .intervalMs => "Delay between snapshots, in milliseconds"
  | .logFile => "Also write logs to this file, rotated daily"

def Setting.default? : Setting → Option String
  | .format => some "text"
  | .samples => some "1"
  | .intervalMs => some "1000"
  | .logFile => none

def spaces (count : Nat) : String :=
  String.ofList (List.replicate count ' ')

def indented (width : Nat) (text : String) : String :=
  String.ofList (text.toList.flatMap fun character =>
    if character = '\n' then '\n' :: List.replicate width ' ' else [character])

def bold (text : String) : String :=
  "\x1b[1m" ++ text ++ "\x1b[0m"

def boldUsage (setting : Setting) : String :=
  "      " ++ bold ("--" ++ setting.optionName) ++ " <" ++ setting.valueName ++ ">"

def boldFlags (short : String) (flag : HelpFlag) : String :=
  "  " ++ bold short ++ ", " ++ bold ("--" ++ flag.optionName)

def variableNote (environment : Environment) (width : Nat) (setting : Setting) : String :=
  "[env: " ++ setting.variableName ++ "=" ++
    indented width ((environment setting).elim "" Bytes.display) ++ "]"

def defaultNotes (setting : Setting) : List String :=
  (setting.default?.map fun value => "[default: " ++ value ++ "]").toList

def heading : String :=
  "Print system and GPU memory as seen by the platform frameworks\n\n" ++
    "Usage: hwmem-probe [OPTIONS]\n\nOptions:\n"

/-! ## Short help -/

def shortColumn : Nat := 35

def padded (width : Nat) (text : String) : String :=
  text ++ spaces (width - (Text.printable text).length)

def choiceNotes : Setting → List String
  | .format => ["[possible values: text, json]"]
  | _ => []

def shortEntry (environment : Environment) (setting : Setting) : String :=
  padded shortColumn (boldUsage setting) ++
    String.intercalate " " ([setting.about, variableNote environment shortColumn setting] ++
      defaultNotes setting ++ choiceNotes setting) ++ "\n"

def shortHelp (environment : Environment) : String :=
  Text.printable (heading ++ String.join (Setting.all.map (shortEntry environment)) ++
    padded shortColumn (boldFlags "-h" .help) ++ "Print help (see more with '--help')\n" ++
    padded shortColumn (boldFlags "-V" .version) ++ "Print version\n")

/-! ## Long help -/

def longColumn : Nat := 10

def longLine (text : String) : String :=
  spaces longColumn ++ text ++ "\n"

def choiceLines : Setting → String
  | .format =>
      "\n" ++ longLine "Possible values:" ++
        longLine "- text: Human readable, one quantity per line" ++
        longLine "- json: One JSON object per sample"
  | _ => ""

def longEntry (environment : Environment) (setting : Setting) : String :=
  boldUsage setting ++ "\n" ++ longLine setting.about ++ choiceLines setting ++
    longLine "" ++
    String.join (([variableNote environment longColumn setting] ++
      defaultNotes setting).map longLine) ++ "\n"

def longHelp (environment : Environment) : String :=
  Text.printable (heading ++ String.join (Setting.all.map (longEntry environment)) ++
    boldFlags "-h" .help ++ "\n" ++ longLine "Print help (see a summary with '-h')" ++
    "\n" ++ boldFlags "-V" .version ++ "\n" ++ longLine "Print version")

def versionText : String :=
  "hwmem-probe " ++ Version.unversioned ++ "\n"

end MemoryProbe.CommandLine
