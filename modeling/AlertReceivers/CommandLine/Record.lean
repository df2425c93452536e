/-
# Records of the log

A record has a level, the part of the program that it comes from, a message, and
named values. It is written as a line of text or as a JSON object.

Key definitions: `Level`, `Record`, `Record.textLine`, `Record.jsonLine`.
-/
import AlertReceivers.CommandLine.LogFormat
import AlertReceivers.Text.Quoted

namespace AlertReceivers

/-- The levels of records, from the gravest on. -/
inductive Level where
  | error
  | warn
  | info
  | debug
  | trace
deriving DecidableEq

namespace Level

/-- How much is logged if records up to a level are. -/
def rank : Level → Nat
  | error => 1
  | warn => 2
  | info => 3
  | debug => 4
  | trace => 5

/-- The name of a level. -/
def name : Level → String
  | error => "ERROR"
  | warn => "WARN"
  | info => "INFO"
  | debug => "DEBUG"
  | trace => "TRACE"

end Level

/-- A value in a record. -/
inductive RecordValue where
  /-- A text as it is. -/
  | words (s : String)
  /-- A text that is quoted in a line of text. -/
  | literal (s : String)
  | number (n : Nat)

/-- A record of the log. -/
structure Record where
  level : Level
  target : String
  message : String
  values : List (String × RecordValue)

/-! ### Lines -/

/-- A character between the quotes of JSON. -/
def jsonChar (c : Char) : String :=
  match c with
  | '"' => "\\\""
  | '\\' => "\\\\"
  | '\n' => "\\n"
  | '\r' => "\\r"
  | '\t' => "\\t"
  | '\x08' => "\\b"
  | '\x0c' => "\\f"
  | c =>
    if c.toNat < 32 then "\\u00" ++ (if c.toNat < 16 then "0" else "") ++ hexDigits c.toNat
    else c.toString

/-- A text in JSON. -/
def jsonText (s : String) : String := "\"" ++ String.join (s.toList.map jsonChar) ++ "\""

namespace RecordValue

/-- A value in a line of text. -/
def text : RecordValue → String
  | words s => s
  | literal s => quoted s
  | number n => toString n

/-- A value in JSON. -/
def json : RecordValue → String
  | words s | literal s => jsonText s
  | number n => toString n

end RecordValue

namespace Record

/-- A record as a line of text. -/
def textLine (r : Record) : String :=
  r.level.name ++ " " ++ r.target ++ ": " ++
    " ".intercalate (r.message :: r.values.map fun v => v.1 ++ "=" ++ v.2.text)

/-- A record as a JSON object. -/
def jsonLine (r : Record) : String :=
  let members := [("level", jsonText r.level.name), ("message", jsonText r.message)] ++
    r.values.map (fun v => (v.1, v.2.json)) ++ [("target", jsonText r.target)]
  "\x7b" ++ ",".intercalate (members.map fun m => jsonText m.1 ++ ":" ++ m.2) ++ "\x7d"

/-- A record in a format. -/
def line (r : Record) : LogFormat → String
  | .text => r.textLine
  | .json => r.jsonLine

end Record
end AlertReceivers
