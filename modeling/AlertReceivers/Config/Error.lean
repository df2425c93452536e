/-
# Mistakes in a configuration

A configuration cannot be read, it is not built as a configuration is, or a block
of one of its receivers has a mistake. The last is reported with the place of the
block: the receiver, the kind, and the position among the blocks of this kind.

Key definitions: `Fault`, `Fault.message`, `ConfigError`, `ConfigError.message`,
`ConfigError.shown`.
-/
import AlertReceivers.Block.Error

namespace AlertReceivers

/-- What is wrong with the structure of a configuration. -/
inductive Fault where
  /-- The text is not a document. -/
  | unreadable
  /-- The document is not a mapping. -/
  | document (found : String)
  /-- A key of the document names no section. -/
  | unknownSection (key : String)
  /-- The receivers are not a list. -/
  | receivers (found : String)
  /-- A receiver is not a mapping. -/
  | definition (found : String)
  /-- A receiver has no name. -/
  | missingName
  /-- The name of a receiver is not a text. -/
  | nameType (found : String)
  /-- A key of a receiver is the block key of no kind. -/
  | unknownField (receiver key : String)
  /-- The blocks of a kind are not a list. -/
  | blocks (receiver : String) (kind : Kind) (found : String)
  /-- Two receivers have the same name. -/
  | repeatedName (receiver : String)
  /-- Any other fault, in words. -/
  | other (words : String)
deriving DecidableEq

/-- What is said of a fault. -/
def Fault.message : Fault → String
  | unreadable => "the text is not a document"
  | document found => "configuration document must be a mapping, found " ++ found
  | unknownSection key => "unknown top-level field '" ++ key ++ "'"
  | receivers found => "receivers must be a list, found " ++ found
  | definition found => "receiver definition must be a mapping, found " ++ found
  | missingName => "missing name in receiver definition"
  | nameType found => "receiver name must be a string, found " ++ found
  | unknownField receiver key => "receiver '" ++ receiver ++ "': unknown field '" ++ key ++ "'"
  | blocks receiver kind found =>
    "receiver '" ++ receiver ++ "': " ++ kind.blockKey ++ " must be a list, found " ++ found
  | repeatedName receiver => "receiver '" ++ receiver ++ "' is defined more than once"
  | other words => words

/-- Why there is no configuration. -/
inductive ConfigError where
  /-- The file cannot be read. -/
  | load (reason : String)
  /-- The structure is wrong. -/
  | validation (fault : Fault)
  /-- A block of a receiver has a mistake. -/
  | receiver (name : String) (kind : Kind) (index : Nat) (source : BlockError)
deriving DecidableEq

namespace ConfigError

/-- What is said of an error. -/
def message : ConfigError → String
  | load reason => "failed to load config file: " ++ reason
  | validation fault => "invalid configuration: " ++ fault.message
  | receiver name kind index source =>
    "invalid receiver '" ++ name ++ "': " ++ kind.blockKey ++ "[" ++ toString index ++ "]: " ++
      source.message

/-- The name of a sort of errors. -/
def name : ConfigError → String
  | load .. => "LoadError"
  | validation .. => "ValidationError"
  | receiver .. => "InvalidReceiver"

/-- An error spelled out. -/
def shown (e : ConfigError) : String :=
  match e with
  | load reason => e.name ++ "(" ++ quoted reason ++ ")"
  | validation fault => e.name ++ "(" ++ quoted fault.message ++ ")"
  | receiver name kind index source =>
    let parts := ["receiver: " ++ quoted name, "kind: " ++ kind.shown,
      "index: " ++ toString index, "source: " ++ source.shown]
    e.name ++ " \x7b " ++ ", ".intercalate parts ++ " \x7d"

/-- The mistakes that an error comes from. -/
def sources : ConfigError → List BlockError
  | receiver _ _ _ source => [source]
  | _ => []

end ConfigError
end AlertReceivers
