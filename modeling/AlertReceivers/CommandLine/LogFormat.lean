/-
# Formats of the log

Key definitions: `LogFormat`, `LogFormat.ofName?`, `LogFormat.help`.
-/

namespace AlertReceivers

/-- The formats in which the log is written. -/
inductive LogFormat where
  | text
  | json
deriving DecidableEq, Repr

namespace LogFormat

/-- All formats. -/
def all : List LogFormat := [text, json]

/-- The word for a format. -/
def name : LogFormat → String
  | text => "text"
  | json => "json"

/-- A format spelled out. -/
def shown : LogFormat → String
  | text => "Text"
  | json => "Json"

/-- What a format is good for. -/
def help : LogFormat → String
  | text => "Human-readable text format (default)"
  | json => "Structured JSON format for log aggregation"

/-- The format that is used when none is chosen. -/
def default : LogFormat := text

/-- A word with the capitals of ASCII made small if their case does not matter. -/
def folded (ignoreCase : Bool) (word : String) : String :=
  if ignoreCase then word.map Char.toLower else word

/-- The format that a word stands for. -/
def ofName? (word : String) (ignoreCase : Bool) : Option LogFormat :=
  all.find? fun f => f.name == folded ignoreCase word

/-- What is said of a word that stands for no format. -/
def refusal (word : String) : String := "invalid variant: " ++ word

theorem ofName?_name (f : LogFormat) : ofName? f.name false = some f := by
  cases f <;> decide

end LogFormat
end AlertReceivers
