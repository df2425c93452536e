/-
# Help

The help is a summary with a line for each option, or full with the possible values
explained. It shows what the environment says of the log format, with every line of it
in the column of the explanations. Options are written bold for a terminal; the text
that is printed has no control sequences, neither these nor those of the environment.

Key definitions: `Help.version`, `Help.brief`, `Help.full`, `Help.text`.
-/
import AlertReceivers.CommandLine.Options
import AlertReceivers.Text.Control

namespace AlertReceivers
namespace Help

/-- The name of the program. -/
def program : String := "receiver-config"

/-- The version of the program. -/
def version : String := program ++ " 0.1.0\n"

/-- How both texts start. -/
def opening : String :=
  "Decode and validate alert notification receivers\n\nUsage: " ++ program ++ " [OPTIONS]\n\nOptions:\n"

/-- A word that a terminal shows bold. -/
def bold (word : String) : String := "\x1b[1m" ++ word ++ "\x1b[0m"

/-- A value in brackets. -/
def note (name value : String) : String := "[" ++ name ++ value ++ "]"

/-- What the environment says, and the default. -/
def defaults (environment : String) : List String :=
  [note "env: LOG_FORMAT=" environment, note "default: " LogFormat.default.name]

/-- A text whose lines, except the first, start in a column. -/
def hanging (column : Nat) (s : String) : String :=
  ("\n" ++ String.ofList (List.replicate column ' ')).intercalate (s.splitOn "\n")

/-- The head of an option: its letter, if it has one, its name and the word for its value. -/
def head (letter : Option String) (name value : String) : String :=
  let start := match letter with
    | some l => "  " ++ bold l ++ ", "
    | none => "      "
  start ++ bold name ++ value

/-- An option of the summary. -/
def line (head gap explanation : String) : String := head ++ gap ++ hanging 33 explanation ++ "\n"

/-- The summary. -/
def brief (environment : String) : String :=
  let values := note "possible values: " (", ".intercalate (LogFormat.all.map LogFormat.name))
  opening ++ String.join [
    line (head "-c" "--config" " <CONFIG>") "          "
      ("Path to configuration file " ++ note "default: " defaultPath),
    line (head none "--dump" "") "                     "
      "Print the validated receivers, with defaults applied, as YAML",
    line (head none "--log-format" " <LOG_FORMAT>") "  "
      (" ".intercalate (["Log format: text or json"] ++ defaults environment ++ [values])),
    line (head "-h" "--help" "") "                     " "Print help (see more with '--help')",
    line (head "-V" "--version" "") "                  " "Print version"]

/-- An option of the full help. -/
def item (head : String) (lines : List String) : String :=
  head ++ "\n" ++ String.join (lines.map fun l => "          " ++ hanging 10 l ++ "\n")

/-- The full help. -/
def full (environment : String) : String :=
  opening ++ "\n".intercalate [
    item (head "-c" "--config" " <CONFIG>")
      ["Path to configuration file", "", note "default: " defaultPath],
    item (head none "--dump" "") ["Print the validated receivers, with defaults applied, as YAML"],
    item (head none "--log-format" " <LOG_FORMAT>") ["Log format: text or json"] ++ "\n" ++
      String.join ((["Possible values:"] ++
        LogFormat.all.map (fun f => "- " ++ f.name ++ ": " ++ f.help) ++
        [""] ++ defaults environment).map fun l => "          " ++ hanging 10 l ++ "\n"),
    item (head "-h" "--help" "") ["Print help (see a summary with '-h')"],
    item (head "-V" "--version" "") ["Print version"]]

/-- The help that is asked for. -/
def text (isFull : Bool) (environment : Option String) : String :=
  Control.plain (if isFull then full (environment.getD "") else brief (environment.getD ""))

end Help
end AlertReceivers
