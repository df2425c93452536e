/-
# Configurations

A configuration is a list of receivers. A receiver has a name and a list of
integrations: valid blocks, each of some kind, in the order of the document. A
document that is written groups them by kind, in the order of `Kind.all`, and
leaves out the kinds without blocks.

Key definitions: `Integration`, `Integration.shown`, `Receiver`, `Receiver.ofKind`, `Receiver.toNode`,
`Config`, `Config.receiver?`, `Config.toNode`, `Config.dump`.
-/
import AlertReceivers.Schema
import AlertReceivers.Yaml.Printer

namespace AlertReceivers

-- a sum starts from the numeral, whatever else is imported
attribute [local instance (high)] Zero.ofOfNat0

/-- A block with its kind. -/
structure Integration where
  kind : Kind
  block : Block kind
deriving DecidableEq

/-- A block with its kind, spelled out. -/
def Integration.shown [TextMap.Walk] (i : Integration) : String := i.kind.shown ++ "(" ++ i.block.shown ++ ")"

/-- A named receiver with its integrations. -/
structure Receiver where
  name : String
  integrations : List Integration
deriving DecidableEq

/-- All receivers of a document. -/
structure Config where
  receivers : List Receiver
deriving DecidableEq

/-! ### Receivers -/

namespace Receiver

/-- The integrations of a kind, in the order of the document. -/
def ofKind (r : Receiver) (k : Kind) : List Integration := r.integrations.filter fun i => i.kind == k

/-- How many integrations of a kind there are. -/
def count (r : Receiver) (k : Kind) : Nat := (r.ofKind k).length

/-- The kinds of which there are integrations, in the order of all kinds. -/
def kinds (r : Receiver) : List Kind := Kind.all.filter fun k => !(r.ofKind k).isEmpty

/-- The entry of a definition that lists the blocks of a kind. -/
def blocksEntry (r : Receiver) (k : Kind) : Node × Node :=
  (.text k.blockKey, .seq ((r.ofKind k).map fun i => i.block.toNode))

/-- A receiver as a document holds it. -/
def toNode (r : Receiver) : Node := .map ((.text "name", .text r.name) :: r.kinds.map r.blocksEntry)

/-- The integrations of a receiver in a few words. -/
def summary (r : Receiver) : String :=
  if r.kinds.isEmpty then "no integrations"
  else ", ".intercalate (r.kinds.map fun k => k.name ++ " x" ++ toString (r.count k))

end Receiver

/-! ### Configurations -/

namespace Config

/-- The receiver with a name. -/
def receiver? (c : Config) (name : String) : Option Receiver := c.receivers.find? fun r => r.name == name

/-- How many integrations all receivers have. -/
def size (c : Config) : Nat := (c.receivers.map fun r => r.integrations.length).sum

/-- A configuration as a document holds it. -/
def toNode (c : Config) : Node := .map [(.text "receivers", .seq (c.receivers.map Receiver.toNode))]

/-- The text of a configuration. -/
def dump (c : Config) : String := Yaml.render c.toNode

end Config
end AlertReceivers
