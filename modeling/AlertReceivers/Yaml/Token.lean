/-
# Tokens of a document

Where blocks start and end is told by indentation; the tokens say it openly. A
key is marked by a token in front of it, also when only the colon after it shows
that it is one.

Key definitions: `Token`.
-/
import AlertReceivers.Yaml.Tag

namespace AlertReceivers
namespace Yaml

/-- A token of a document. -/
inductive Token where
  /-- The directive that gives the version of the language. -/
  | version (major minor : Nat)
  /-- The directive that lets a handle stand for the start of a tag. -/
  | tagHandle (handle : String) (lead : Tag)
  | documentStart
  | documentEnd
  | blockSequenceStart
  | blockMappingStart
  | blockEnd
  | flowSequenceStart
  | flowSequenceEnd
  | flowMappingStart
  | flowMappingEnd
  | blockEntry
  | flowEntry
  | key
  | value
  | alias (name : String)
  | anchor (name : String)
  /-- A tag; a tag in full has an empty handle. -/
  | tag (handle : String) (suffix : Tag)
  /-- A scalar, and whether it stands without quotes and not as a block. -/
  | scalar (text : String) (plain : Bool)
deriving DecidableEq

end Yaml
end AlertReceivers
