/-
# Formats of chat messages

A message is sent as HTML or as text. The word in a document is matched exactly.
A word that names no format is remembered until a good one replaces it, so that
validation can report it.

Key definitions: `MessageFormat`, `MessageFormat.ofName?`, `FormatSetting`,
`FormatSetting.choose`.
-/

namespace AlertReceivers

/-- The formats of a message. -/
inductive MessageFormat where
  | html
  | text
deriving DecidableEq, Repr

namespace MessageFormat

/-- All formats. -/
def all : List MessageFormat := [html, text]

/-- The word for a format. -/
def name : MessageFormat → String
  | html => "html"
  | text => "text"

/-- The format where values are spelled out. -/
def shown : MessageFormat → String
  | html => "Html"
  | text => "Text"

/-- The format that a word names. -/
def ofName? (s : String) : Option MessageFormat :=
  if s = "html" then some html else if s = "text" then some text else none

/-- The words for formats. -/
def names : List String := all.map name

@[simp] theorem ofName?_name (f : MessageFormat) : ofName? f.name = some f := by
  cases f <;> decide

end MessageFormat

/-- The chosen format, and the last word if it named none. -/
structure FormatSetting where
  format : MessageFormat
  rejected : Option String
deriving DecidableEq

namespace FormatSetting

/-- The setting after a word has been given. -/
def choose (s : FormatSetting) (word : String) : FormatSetting :=
  match MessageFormat.ofName? word with
  | some f => ⟨f, none⟩
  | none => { s with rejected := some word }

/-- The name of a format is never rejected. -/
@[simp] theorem choose_name (s : FormatSetting) (f : MessageFormat) : s.choose f.name = ⟨f, none⟩ := by
  rw [choose, MessageFormat.ofName?_name]

end FormatSetting
end AlertReceivers
