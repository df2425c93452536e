/-
# From documents to configurations

A document is a mapping. Its `receivers` are a list of definitions; the sections of
other components are left aside, and no other key is allowed. A definition is a
mapping with a name and, under block keys, lists of blocks. The first mistake ends
the load. The name of a receiver is compared with the names before it only after its
blocks have been decoded.

Key definitions: `Load.blocks`, `Load.entries`, `Load.receiver`, `Load.receivers`,
`Load.sections`, `Load.document`, `Load.text`.
-/
import AlertReceivers.Block.Validation
import AlertReceivers.Config.Basic
import AlertReceivers.Config.Load
import AlertReceivers.Yaml.Reader

namespace AlertReceivers

/-- The sections of a document that other components read. -/
def foreignSections : List String := ["global", "route", "inhibit_rules", "templates"]

/-- The items of a list that may be left out. -/
def Node.items? : Node → Option (List Node)
  | .seq items => some items
  | .null => some []
  | _ => none

namespace Load

/-- Ends with a fault of structure. -/
def refuse {α : Type} (f : Fault) : Load α := fail (.validation f)

/-! ### Receivers -/

/-- Decodes the blocks of a kind, counted from `index`. -/
def blocks [TextMap.Walk] (name : String) (k : Kind) : Nat → List Node → Load (List Integration)
  | _, [] => pure []
  | index, n :: ns =>
    match Block.decode k n with
    | .error mistake => fail (.receiver name k index mistake)
    | .ok b => do
      report (.decoded name k index)
      let rest ← blocks name k (index + 1) ns
      return ⟨k, b⟩ :: rest

/-- Decodes the list of blocks under a key. -/
def blockList [TextMap.Walk] (name key : String) (n : Node) : Load (List Integration) :=
  match Kind.ofBlockKey? key with
  | none => refuse (.unknownField name key)
  | some k =>
    match n.items? with
    | none => refuse (.blocks name k n.typeName)
    | some items => blocks name k 0 items

/-- Decodes the entries of a definition, apart from the name. -/
def entries [TextMap.Walk] (name : String) : Entries → Load (List Integration)
  | [] => pure []
  | (k, n) :: es =>
    if keyName k = "name" then entries name es
    else do
      let here ← blockList name (keyName k) n
      let rest ← entries name es
      return here ++ rest

/-- The name in a definition: a text that is not empty. -/
def nameIn (es : Entries) : Except Fault String :=
  match Entries.value? es "name" with
  | none | some .null => .error .missingName
  | some (.text s) => if s = "" then .error .missingName else .ok s
  | some n => .error (.nameType n.typeName)

/-- Decodes a definition of a receiver. -/
def receiver [TextMap.Walk] : Node → Load Receiver
  | .map es =>
    match nameIn es with
    | .error fault => refuse fault
    | .ok name => do
      let integrations ← entries name es
      return ⟨name, integrations⟩
  | n => refuse (.definition n.typeName)

/-- Decodes definitions, whose names must differ from the names `seen` and from each other. -/
def receivers [TextMap.Walk] : List String → List Node → Load (List Receiver)
  | _, [] => pure []
  | seen, n :: ns => do
    let r ← receiver n
    if r.name ∈ seen then refuse (.repeatedName r.name)
    else
      let rest ← receivers (r.name :: seen) ns
      return r :: rest

/-! ### Documents -/

/-- Decodes the sections of a document, given the receivers so far. -/
def sections [TextMap.Walk] : List Receiver → Entries → Load (List Receiver)
  | rs, [] => pure rs
  | rs, (k, n) :: es =>
    let key := keyName k
    if key = "receivers" then
      match n.items? with
      | none => refuse (.receivers n.typeName)
      | some items => do
        let rs ← receivers [] items
        sections rs es
    else if key ∈ foreignSections then do
      report (.skipped key)
      sections rs es
    else refuse (.unknownSection key)

/-- Decodes a document. -/
def document [TextMap.Walk] : Node → Load Config
  | .map es => do
    let rs ← sections [] es
    let c : Config := ⟨rs⟩
    report (.loaded c.receivers.length c.size)
    return c
  | n => refuse (.document n.typeName)

/-- Decodes a text. -/
def text [TextMap.Walk] (s : String) : Load Config :=
  match Yaml.parse? s with
  | none => refuse .unreadable
  | some n => document n

end Load

/-- The configuration of a document. -/
def Config.ofNode [TextMap.Walk] (n : Node) : Except ConfigError Config := (Load.document n).outcome

/-- The configuration of a text. -/
def Config.ofText [TextMap.Walk] (s : String) : Except ConfigError Config := (Load.text s).outcome

/-- The receiver of a definition. -/
def Receiver.ofNode [TextMap.Walk] (n : Node) : Except ConfigError Receiver := (Load.receiver n).outcome

end AlertReceivers
