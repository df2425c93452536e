/-
# Values of another type

A field that needs a text, a number, a boolean, a list or a table may find
something else in a document. The message says what was found, with its value if
it is a single one, and what would have been right. An integer of more than 64
bits is of the right type, but out of range.

Key definitions: `Shape`, `Mismatch`, `Mismatch.message`.
-/
import AlertReceivers.Node.Basic
import AlertReceivers.Text.Quoted

namespace AlertReceivers

/-- The shapes of values that fields need. -/
inductive Shape where
  | text
  | integer
  | boolean
  | list
  | table
deriving DecidableEq, Repr

/-- A shape in a message. -/
def Shape.described : Shape → String
  | text => "a string"
  | integer => "i64"
  | boolean => "a boolean"
  | list => "a sequence"
  | table => "a map"

/-- A value in a message. Tags are not seen. -/
def Node.described : Node → String
  | .null => "unit value"
  | .bool b => "boolean `" ++ boolText b ++ "`"
  | .int i => "integer `" ++ toString i ++ "`"
  | .float x => "floating point `" ++ x.text Layout.message ++ "`"
  | .text s => "string " ++ quoted s
  | .seq _ => "sequence"
  | .map _ => "map"
  | .tagged _ n => n.described

/-- Why a value does not have the shape that is needed. -/
inductive Mismatch where
  /-- The value has another shape. -/
  | shape (found : Node) (needed : Shape)
  /-- The integer needs more than 64 bits. -/
  | range (found : Int)

/-- What is said of a mismatch. -/
def Mismatch.message : Mismatch → String
  | shape found needed => "invalid type: " ++ found.described ++ ", expected " ++ needed.described
  | range i => "invalid value: " ++ (Node.int i).described ++ ", expected " ++ Shape.integer.described

end AlertReceivers
