/-
# Mistakes in a block

Every mistake names the kind of the block. A mistake of type says what a field
needs and why the given value does not do.

Key definitions: `BlockError`, `BlockError.message`, `BlockError.shown`.
-/
import AlertReceivers.Kind
import AlertReceivers.Text.Quoted

namespace AlertReceivers

/-- A mistake in a block. -/
inductive BlockError where
  /-- A required field is empty. -/
  | missingField (kind : Kind) (field : String)
  /-- A word is not among those that a field allows. -/
  | invalidValue (kind : Kind) (field value : String) (allowed : List String)
  /-- Two header names have the same canonical form. -/
  | duplicateHeader (name : String)
  /-- Some keys name no field. -/
  | unrecognizedFields (kind : Kind) (keys : List String)
  /-- A value is not of the type of its field. -/
  | invalidType (kind : Kind) (field expected reason : String)
  /-- A block is not a mapping. -/
  | invalidBlock (kind : Kind) (found : String)
deriving DecidableEq

namespace BlockError

/-- What is said of a mistake. -/
def message : BlockError → String
  | missingField kind field => "missing " ++ field ++ " in " ++ kind.name ++ " config"
  | invalidValue kind field value allowed =>
    "invalid " ++ field ++ " value " ++ quoted value ++ " in " ++ kind.name ++
      " config (expected one of: " ++ ", ".intercalate allowed ++ ")"
  | duplicateHeader name => "duplicate header " ++ quoted name ++ " in email config"
  | unrecognizedFields kind keys =>
    "unrecognized field(s) in " ++ kind.name ++ " config: " ++ ", ".intercalate keys
  | invalidType kind field expected reason =>
    "invalid type for " ++ field ++ " in " ++ kind.name ++ " config: expected " ++ expected ++
      ": " ++ reason
  | invalidBlock kind found => kind.name ++ " config must be a mapping, found " ++ found

/-- The name of a sort of mistakes. -/
def name : BlockError → String
  | missingField .. => "MissingField"
  | invalidValue .. => "InvalidValue"
  | duplicateHeader .. => "DuplicateHeader"
  | unrecognizedFields .. => "UnrecognizedFields"
  | invalidType .. => "InvalidType"
  | invalidBlock .. => "InvalidBlock"

/-- A list of texts, spelled out. -/
def shownTexts (ss : List String) : String := "[" ++ ", ".intercalate (ss.map quoted) ++ "]"

/-- The parts of a mistake with their names, spelled out. -/
def shownParts : BlockError → List String
  | missingField kind field => ["kind: " ++ kind.shown, "field: " ++ quoted field]
  | invalidValue kind field value allowed =>
    ["kind: " ++ kind.shown, "field: " ++ quoted field, "value: " ++ quoted value,
      "allowed: " ++ shownTexts allowed]
  | duplicateHeader name => ["name: " ++ quoted name]
  | unrecognizedFields kind keys => ["kind: " ++ kind.shown, "keys: " ++ shownTexts keys]
  | invalidType kind field expected reason =>
    ["kind: " ++ kind.shown, "field: " ++ quoted field, "expected: " ++ quoted expected,
      "message: " ++ quoted reason]
  | invalidBlock kind found => ["kind: " ++ kind.shown, "found: " ++ quoted found]

/-- A mistake spelled out. -/
def shown (e : BlockError) : String :=
  e.name ++ " \x7b " ++ ", ".intercalate e.shownParts ++ " \x7d"

end BlockError
end AlertReceivers
