/-
# Rules for what is logged

A rule reads `part=level` or `part[span{field}]=level`. What is left out counts as
any: without a part the rule is about all parts of the program, and without a level
it lets everything through. A word alone is a level if it can be one, and a part
otherwise. Fields narrow a rule to the records that have them. A span, or a field
with a value, narrows it to records inside a span, and this program opens none.

A rule is read character by character. Where its words stand is counted from its
first character that is not white space, but they are cut out of the whole rule.

Key definitions: `Directive`, `DirectiveError`, `Directive.Reader`,
`Directive.Reader.step?`, `Directive.read`.
-/
import AlertReceivers.CommandLine.Record
import AlertReceivers.Text.Blank

namespace AlertReceivers

/-- A rule for what is logged. -/
structure Directive where
  /-- The part of the program, or none for all parts. -/
  target : Option String
  /-- The fields that a record must have. -/
  fields : List String
  /-- Whether the rule is about records inside a span. -/
  inSpan : Bool
  /-- How much is let through. -/
  rank : Nat
deriving DecidableEq

/-- Why a text is no rule. -/
inductive DirectiveError where
  /-- It is not built like one. -/
  | shape
  /-- A word that should be a level is none. -/
  | level
deriving DecidableEq

/-- What is said of a text that is no rule. -/
def DirectiveError.message : DirectiveError → String
  | shape => "invalid filter directive"
  | level => "error parsing level filter: expected one of \"off\", \"error\", \"warn\", " ++
      "\"info\", \"debug\", \"trace\", or a number 0-5"

namespace Directive

/-! ### Levels -/

/-- The number that decimal digits write. -/
def number? (cs : List Char) : Option Nat :=
  if cs.isEmpty || !cs.all Char.isDigit then none
  else some (cs.foldl (fun n c => 10 * n + (c.toNat - '0'.toNat)) 0)

/-- How much a level lets through: a name in any case, or a number, perhaps after a plus. -/
def rank? (word : String) : Option Nat :=
  let digits := match word.toList with
    | '+' :: cs => cs
    | cs => cs
  match (number? digits).filter (· ≤ Level.trace.rank) with
  | some n => some n
  | none => [("off", 0), ("error", Level.error.rank), ("warn", Level.warn.rank),
      ("info", Level.info.rank), ("debug", Level.debug.rank),
      ("trace", Level.trace.rank)].lookup (word.map Char.toLower)

/-! ### Reading -/

/-- Where a reader stands in a rule, with the place where the word at hand starts. -/
inductive Stage where
  | start
  | word (start : Nat)
  | span (start : Nat)
  | field (start : Nat)
  /-- Behind the fields. -/
  | fieldsEnd
  /-- Behind the bracket that ends the span. -/
  | spanEnd
  | level (start : Nat)

/-- What has been read of a rule. -/
structure Reader where
  directive : Directive
  stage : Stage

namespace Reader

/-- A reader at the start of a rule. -/
def start : Reader := ⟨⟨none, [], false, Level.trace.rank⟩, .start⟩

/-- Whether a word can start with a character. -/
def startsWord (c : Char) : Bool :=
  c.isAlphanum || c == '-' || c == ':' || c == '_' || 128 ≤ c.toNat

/-- The characters of a rule from one place to before another. -/
def piece (cs : List Char) (start stop : Nat) : String :=
  String.ofList ((cs.drop start).take (stop - start))

/-- A rule with one more field; one with a value is about spans. -/
def addField (d : Directive) (word : String) : Option Directive :=
  if word = "" then none
  else some { d with
    fields := d.fields ++ [String.ofList (word.toList.takeWhile (· != '='))]
    inSpan := d.inSpan || word.toList.contains '=' }

/-- Reads the character `c` at a place of the rule `cs`. -/
def step? (cs : List Char) (r : Reader) (place : Nat) (c : Char) : Option Reader :=
  let d := r.directive
  match r.stage with
  | .start =>
    if c = '[' then some ⟨d, .span (place + 1)⟩
    else if startsWord c then some ⟨d, .word place⟩ else none
  | .word start =>
    if c = '=' then some ⟨{ d with target := some (piece cs start place) }, .level (place + 1)⟩
    else if c = '[' then some ⟨{ d with target := some (piece cs start place) }, .span (place + 1)⟩
    else some r
  | .span start =>
    if c = ']' then some ⟨{ d with inSpan := true }, .spanEnd⟩
    else if c = '\x7b' then
      some ⟨{ d with inSpan := d.inSpan || piece cs start place != "" }, .field (place + 1)⟩
    else some r
  | .field start =>
    if c = '\x7d' then (addField d (piece cs start place)).map fun d => ⟨d, .fieldsEnd⟩ else some r
  | .fieldsEnd => if c = ']' then some ⟨d, .spanEnd⟩ else none
  | .spanEnd => if c = '=' then some ⟨d, .level (place + 1)⟩ else none
  | .level _ => some r

/-- Reads characters from a place on. -/
def run (cs : List Char) : Reader → Nat → List Char → Option Reader
  | r, _, [] => some r
  | r, place, c :: rest =>
    match r.step? cs place c with
    | some r => run cs r (place + 1) rest
    | none => none

/-- The rule at the end of its text. -/
def finish (cs : List Char) (r : Reader) : Except DirectiveError Directive :=
  match r.stage with
  | .word start =>
    let word := String.ofList (cs.drop start)
    match rank? word with
    | some rank => .ok { r.directive with rank }
    | none => .ok { r.directive with target := some word }
  | .level start =>
    let word := String.ofList (cs.drop start)
    if word = "" then .ok r.directive
    else match rank? word with
      | some rank => .ok { r.directive with rank }
      | none => .error .level
  | .spanEnd => .ok r.directive
  | _ => .error .shape

end Reader

/-- The rule that a text gives. -/
def read (s : String) : Except DirectiveError Directive :=
  let cs := s.toList
  match Reader.run cs .start 0 (trimRight (String.ofList (cs.dropWhile isWhiteSpace))).toList with
  | some r => r.finish cs
  | none => .error .shape

end Directive
end AlertReceivers
