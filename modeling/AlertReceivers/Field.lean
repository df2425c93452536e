/-
# Fields of a block

A block is a list of fields. A field has a name, a type, a value that it takes
when a block does not give one, and it may be required. The values of all fields
of a list are held in their order (`Values`).

Key definitions: `FieldType`, `FieldType.Value`, `Field`, `Values`,
`Values.defaults`, `Values.zero`, `Values.toEntries`, `Values.missing?`.
-/
import AlertReceivers.MessageFormat
import AlertReceivers.Node.Basic
import AlertReceivers.Secret
import AlertReceivers.Text.Quoted
import AlertReceivers.TextMap

namespace AlertReceivers

/-! ### Types of fields -/

/-- The types of fields. -/
inductive FieldType where
  | text
  | secret
  | integer
  | boolean
  /-- A list of texts. -/
  | tags
  /-- Texts under names. -/
  | table
  /-- The format of a message. -/
  | format
deriving DecidableEq

namespace FieldType

/-- The values of a field of a type. -/
abbrev Value : FieldType → Type
  | text => String
  | secret => Secret
  | integer => Int64
  | boolean => Bool
  | tags => List String
  | table => TextMap
  | format => FormatSetting

instance decidableEqValue : (t : FieldType) → DecidableEq t.Value
  | text => inferInstanceAs (DecidableEq String)
  | secret => inferInstanceAs (DecidableEq Secret)
  | integer => inferInstanceAs (DecidableEq Int64)
  | boolean => inferInstanceAs (DecidableEq Bool)
  | tags => inferInstanceAs (DecidableEq (List String))
  | table => inferInstanceAs (DecidableEq TextMap)
  | format => inferInstanceAs (DecidableEq FormatSetting)

/-- What a type error says was expected. -/
def expected : FieldType → String
  | text | secret | format => "string"
  | integer => "integer"
  | boolean => "boolean"
  | tags => "sequence of strings"
  | table => "mapping of string to string"

/-- The value of a field that nothing is known of. -/
def zero : (t : FieldType) → t.Value
  | text => ""
  | secret => .empty
  | integer => (0 : Int64)
  | boolean => false
  | tags => []
  | table => .empty
  | format => ⟨.html, none⟩

/-- Whether a value counts as missing. Only texts and credentials can be missing. -/
def isMissing : (t : FieldType) → t.Value → Bool
  | text, s => s = ""
  | secret, s => s.isEmpty
  | _, _ => false

/-- A value as a document holds it. -/
def toNode : (t : FieldType) → t.Value → Node
  | text, s => .text s
  | secret, s => .text s.expose
  | integer, i => .int i.toInt
  | boolean, b => .bool b
  | tags, ss => .seq (ss.map .text)
  | table, m => .map (m.toList.map fun e => (.text e.1, .text e.2))
  | format, s => .text s.format.name

/-- A field spelled out: its name with its value. A format has a second part, the
word that was rejected. -/
def shown [TextMap.Walk] (name : String) : (t : FieldType) → t.Value → List String
  | text, s => [name ++ ": " ++ quoted s]
  | secret, s => [name ++ ": " ++ s.shown]
  | integer, i => [name ++ ": " ++ toString i.toInt]
  | boolean, b => [name ++ ": " ++ Node.boolText b]
  | tags, ss => [name ++ ": [" ++ ", ".intercalate (ss.map quoted) ++ "]"]
  | table, m =>
    let entries := (TextMap.Walk.entries m).map fun e => quoted e.1 ++ ": " ++ quoted e.2
    [name ++ ": \x7b" ++ ", ".intercalate entries ++ "\x7d"]
  | format, s =>
    let rejected := match s.rejected with
      | some word => "Some(" ++ quoted word ++ ")"
      | none => "None"
    [name ++ ": " ++ s.format.shown, "rejected_format: " ++ rejected]

end FieldType

/-! ### Fields -/

/-- A field of a block. -/
structure Field where
  name : String
  type : FieldType
  required : Bool
  default : type.Value

namespace Field

/-- A field that may be left out and has nothing then. -/
@[reducible] def optional (name : String) (type : FieldType) : Field := ⟨name, type, false, type.zero⟩

/-- A field that must be given. -/
@[reducible] def needed (name : String) (type : FieldType) : Field := ⟨name, type, true, type.zero⟩

/-- A field with a value of its own when it is left out. -/
@[reducible] def preset (name : String) (type : FieldType) (default : type.Value) : Field :=
  ⟨name, type, false, default⟩

end Field

/-! ### Values of fields -/

/-- The values of a list of fields. -/
inductive Values : List Field → Type where
  | nil : Values []
  | cons {f : Field} {fs : List Field} (value : f.type.Value) (rest : Values fs) : Values (f :: fs)
deriving DecidableEq

namespace Values

/-- The values that fields take when nothing is given. -/
def defaults : (fs : List Field) → Values fs
  | [] => .nil
  | f :: fs => .cons f.default (defaults fs)

/-- The values of fields that nothing is known of. -/
def zero : (fs : List Field) → Values fs
  | [] => .nil
  | f :: fs => .cons f.type.zero (zero fs)

/-- The value of a field, given by its position. -/
def get : {fs : List Field} → Values fs → (i : Fin fs.length) → (fs.get i).type.Value
  | _, .cons v _, ⟨0, _⟩ => v
  | _, .cons _ rest, ⟨i + 1, h⟩ => rest.get ⟨i, Nat.lt_of_succ_lt_succ h⟩

/-- The entries that a document holds for the values. -/
def toEntries : {fs : List Field} → Values fs → Entries
  | _, .nil => []
  | f :: _, .cons v rest => (.text f.name, f.type.toNode v) :: rest.toEntries

/-- The first required field that is missing. -/
def missing? : {fs : List Field} → Values fs → Option String
  | _, .nil => none
  | f :: _, .cons v rest => if f.required && f.type.isMissing v then some f.name else rest.missing?

/-- The first field with a rejected word, and the word. -/
def rejected? : {fs : List Field} → Values fs → Option (String × String)
  | _, .nil => none
  | ⟨name, .format, _, _⟩ :: _, .cons s rest =>
    match (s : FormatSetting).rejected with
    | some word => some (name, word)
    | none => rest.rejected?
  | _, .cons _ rest => rest.rejected?

/-- The values spelled out. -/
def shown [TextMap.Walk] : {fs : List Field} → Values fs → List String
  | _, .nil => []
  | f :: _, .cons v rest => f.type.shown f.name v ++ rest.shown

/-- Values are equal when they agree at every position. -/
theorem ext_get : ∀ {fs : List Field} {a b : Values fs}, (∀ i, a.get i = b.get i) → a = b
  | _, .nil, .nil, _ => rfl
  | _, .cons v a, .cons w b, h => by
    have hv : v = w := h ⟨0, Nat.succ_pos _⟩
    have hab : a = b := ext_get fun i => h ⟨i.1 + 1, Nat.succ_lt_succ i.2⟩
    rw [hv, hab]

/-- The default of a field stands at its position. -/
theorem get_defaults : ∀ (fs : List Field) (i : Fin fs.length),
    (defaults fs).get i = (fs.get i).default
  | _ :: _, ⟨0, _⟩ => rfl
  | _ :: fs, ⟨i + 1, h⟩ => get_defaults fs ⟨i, Nat.lt_of_succ_lt_succ h⟩

end Values
end AlertReceivers
