/-
# The tree of a document

Tokens form a tree of scalars, sequences, mappings and aliases. A node may carry
an anchor and a tag. What is left out is an empty scalar: an item with nothing
behind its mark, a key without a colon, a value with nothing behind the colon.

A text holds at most one document. Directives stand before it and need a
document mark behind them.

Key definitions: `Tree`, `Property`, `Grammar.node`, `Tree.ofTokens?`.
-/
import AlertReceivers.Yaml.Token

namespace AlertReceivers
namespace Yaml

/-- The anchor and the tag of a node. -/
structure Property where
  anchor : Option String
  tag : Option Tag
deriving DecidableEq

namespace Property

/-- Neither an anchor nor a tag. -/
def none : Property := ⟨.none, .none⟩

/-- Whether there is an anchor or a tag. -/
def isSome (p : Property) : Bool := p.anchor.isSome || p.tag.isSome

end Property

/-- A document before its aliases are followed; `α` names what an alias refers to. -/
inductive Tree (α : Type) where
  | alias (target : α)
  | scalar (property : Property) (text : String) (plain : Bool)
  | seq (property : Property) (items : List (Tree α))
  | map (property : Property) (entries : List (Tree α × Tree α))

namespace Tree

/-- The scalar that stands for something left out. -/
def empty {α : Type} : Tree α := .scalar .none "" true

end Tree

/-- What the handles of tags stand for. -/
abbrev Handles := List (String × Tag)

namespace Handles

/-- The handles that every document has. -/
def standard : Handles := [("!", [Tag.mark]), ("!!", .ofString "tag:yaml.org,2002:")]

/-- The tag with a handle and a suffix. -/
def tag? (hs : Handles) (handle : String) (suffix : Tag) : Option Tag :=
  if handle = "" then some suffix else (hs.lookup handle).map (· ++ suffix)

end Handles

/-- What a part of the grammar reads, and the tokens behind it. -/
abbrev Parsed (β : Type) := Option (β × List Token)

namespace Grammar

/-! ### Anchors and tags -/

/-- A tag with its handle replaced. -/
def resolveTag (hs : Handles) (p : Property) (handle : String) (suffix : Tag) (ts : List Token) :
    Parsed Property :=
  (hs.tag? handle suffix).map fun t => ({ p with tag := some t }, ts)

/-- An anchor and a tag in either order. -/
def property (hs : Handles) : List Token → Parsed Property
  | .anchor a :: .tag h s :: ts => resolveTag hs ⟨some a, none⟩ h s ts
  | .anchor a :: ts => some (⟨some a, none⟩, ts)
  | .tag h s :: .anchor a :: ts => resolveTag hs ⟨some a, none⟩ h s ts
  | .tag h s :: ts => resolveTag hs .none h s ts
  | ts => some (.none, ts)

/-! ### Where something is left out -/

/-- Whether nothing stands behind the mark of an item of a block sequence. -/
def noItem : List Token → Bool
  | .blockEntry :: _ | .blockEnd :: _ => true
  | _ => false

/-- Whether nothing stands behind a mark in a block mapping. -/
def noPart : List Token → Bool
  | .key :: _ | .value :: _ | .blockEnd :: _ => true
  | _ => false

/-- Whether nothing stands behind the mark of an item that is not indented. -/
def noUnindentedItem (ts : List Token) : Bool := noItem ts || noPart ts

/-- Whether nothing stands behind a colon between brackets of a kind. -/
def noFlowValue (close : Token) : List Token → Bool
  | t :: _ => t == .flowEntry || t == close
  | [] => false

/-- Whether nothing stands behind the mark of a key between brackets of a kind. -/
def noFlowKey (close : Token) : List Token → Bool
  | t :: _ => t == .value || t == .flowEntry || t == close
  | [] => false

/-! ### Nodes -/

/-- Reads a node with `read` unless it is left out. -/
def orEmpty (absent : List Token → Bool) (read : List Token → Parsed (Tree String))
    (ts : List Token) : Parsed (Tree String) :=
  if absent ts then some (.empty, ts) else read ts

/-- Steps over the comma before every item but the first. -/
def comma (first : Bool) : List Token → Option (List Token)
  | .flowEntry :: ts => if first then none else some ts
  | ts => if first then some ts else none

mutual
/-- A node. Block collections may stand only where `block` says so, and a block
sequence that is not indented only behind the marks of a mapping. Every call
below uses up a token or leaves the next one to a call that does. -/
def node (hs : Handles) (block unindented : Bool) : Nat → List Token → Parsed (Tree String)
  | 0, _ => none
  | _, .alias a :: ts => some (.alias a, ts)
  | fuel + 1, ts =>
    match property hs ts with
    | none => none
    | some (p, ts) =>
      match ts with
      | .scalar s plain :: ts => some (.scalar p s plain, ts)
      | .flowSequenceStart :: ts =>
        (flowItems hs fuel true ts).map fun (xs, ts) => (.seq p xs, ts)
      | .flowMappingStart :: ts =>
        (flowEntries hs fuel true ts).map fun (xs, ts) => (.map p xs, ts)
      | t :: rest =>
        if unindented && t == .blockEntry then
          (unindentedItems hs fuel ts).map fun (xs, ts) => (.seq p xs, ts)
        else if block && t == .blockSequenceStart then
          (blockItems hs fuel rest).map fun (xs, ts) => (.seq p xs, ts)
        else if block && t == .blockMappingStart then
          (blockEntries hs fuel rest).map fun (xs, ts) => (.map p xs, ts)
        else if p.isSome then some (.scalar p "" true, ts)
        else none
      | [] => if p.isSome then some (.scalar p "" true, []) else none

/-- The items of a block sequence and its end. -/
def blockItems (hs : Handles) : Nat → List Token → Parsed (List (Tree String))
  | 0, _ => none
  | fuel + 1, .blockEntry :: ts =>
    match orEmpty noItem (node hs true false fuel) ts with
    | some (x, ts) => (blockItems hs fuel ts).map fun (xs, ts) => (x :: xs, ts)
    | none => none
  | _, .blockEnd :: ts => some ([], ts)
  | _, _ => none

/-- The items of a block sequence that is not indented; it ends with its items. -/
def unindentedItems (hs : Handles) : Nat → List Token → Parsed (List (Tree String))
  | 0, _ => none
  | fuel + 1, .blockEntry :: ts =>
    match orEmpty noUnindentedItem (node hs true false fuel) ts with
    | some (x, ts) => (unindentedItems hs fuel ts).map fun (xs, ts) => (x :: xs, ts)
    | none => none
  | _, ts => some ([], ts)

/-- The entries of a block mapping and its end. -/
def blockEntries (hs : Handles) : Nat → List Token → Parsed (List (Tree String × Tree String))
  | 0, _ => none
  | fuel + 1, .key :: ts =>
    match orEmpty noPart (node hs true true fuel) ts with
    | some (k, ts) =>
      match blockValue hs fuel ts with
      | some (v, ts) => (blockEntries hs fuel ts).map fun (xs, ts) => ((k, v) :: xs, ts)
      | none => none
    | none => none
  | _, .blockEnd :: ts => some ([], ts)
  | _, _ => none

/-- The value behind a key of a block mapping. -/
def blockValue (hs : Handles) : Nat → List Token → Parsed (Tree String)
  | 0, _ => none
  | fuel + 1, .value :: ts => orEmpty noPart (node hs true true fuel) ts
  | _, ts => some (.empty, ts)

/-- The items of a sequence between brackets and its end. -/
def flowItems (hs : Handles) : Nat → Bool → List Token → Parsed (List (Tree String))
  | 0, _, _ => none
  | _, _, .flowSequenceEnd :: ts => some ([], ts)
  | fuel + 1, first, ts =>
    match comma first ts with
    | none => none
    | some (.flowSequenceEnd :: ts) => some ([], ts)
    | some ts =>
      match flowItem hs fuel ts with
      | some (x, ts) => (flowItems hs fuel false ts).map fun (xs, ts) => (x :: xs, ts)
      | none => none

/-- An item of a sequence between brackets. A key makes it a mapping of one entry; a
mark of a key with nothing behind it swallows the token that follows. -/
def flowItem (hs : Handles) : Nat → List Token → Parsed (Tree String)
  | 0, _ => none
  | fuel + 1, .key :: ts =>
    let key := if noFlowKey .flowSequenceEnd ts then some (.empty, ts.drop 1)
      else node hs false false fuel ts
    match key with
    | some (k, ts) =>
      (flowValue hs .flowSequenceEnd fuel ts).map fun (v, ts) => (.map .none [(k, v)], ts)
    | none => none
  | fuel + 1, ts => node hs false false fuel ts

/-- The entries of a mapping between brackets and its end. -/
def flowEntries (hs : Handles) :
    Nat → Bool → List Token → Parsed (List (Tree String × Tree String))
  | 0, _, _ => none
  | _, _, .flowMappingEnd :: ts => some ([], ts)
  | fuel + 1, first, ts =>
    match comma first ts with
    | none => none
    | some (.flowMappingEnd :: ts) => some ([], ts)
    | some ts =>
      match flowPair hs fuel ts with
      | some (e, ts) => (flowEntries hs fuel false ts).map fun (xs, ts) => (e :: xs, ts)
      | none => none

/-- An entry of a mapping between brackets. -/
def flowPair (hs : Handles) : Nat → List Token → Parsed (Tree String × Tree String)
  | 0, _ => none
  | fuel + 1, .key :: ts =>
    match orEmpty (noFlowKey .flowMappingEnd) (node hs false false fuel) ts with
    | some (k, ts) => (flowValue hs .flowMappingEnd fuel ts).map fun (v, ts) => ((k, v), ts)
    | none => none
  | fuel + 1, ts => (node hs false false fuel ts).map fun (k, ts) => ((k, .empty), ts)

/-- The value behind a key between brackets of a kind. -/
def flowValue (hs : Handles) (close : Token) : Nat → List Token → Parsed (Tree String)
  | 0, _ => none
  | fuel + 1, .value :: ts => orEmpty (noFlowValue close) (node hs false false fuel) ts
  | _, ts => some (.empty, ts)
end

/-! ### Documents -/

/-- The directives before a document mark. Only the versions 1.1 and 1.2 are known, and
no directive may be given twice. -/
def directives : Bool → Handles → List Token → Parsed Handles
  | seen, hs, .version major minor :: ts =>
    if seen ∨ major ≠ 1 ∨ (minor ≠ 1 ∧ minor ≠ 2) then none else directives true hs ts
  | seen, hs, .tagHandle h lead :: ts =>
    if (hs.lookup h).isSome then none else directives seen (hs ++ [(h, lead)]) ts
  | _, hs, ts => some (hs ++ Handles.standard, ts)

/-- Whether a document with a mark has nothing in it. -/
def noContent : List Token → Bool
  | [] | .version _ _ :: _ | .tagHandle _ _ :: _ | .documentStart :: _ | .documentEnd :: _ => true
  | _ => false

/-- The content of the first document. -/
def content (ts : List Token) : Parsed (Tree String) :=
  let fuel := 4 * ts.length + 4
  match ts with
  | .version _ _ :: _ | .tagHandle _ _ :: _ | .documentStart :: _ =>
    match directives false [] ts with
    | some (hs, .documentStart :: ts) => orEmpty noContent (node hs true false fuel) ts
    | _ => none
  | _ => node Handles.standard true false fuel ts

end Grammar

namespace Tree

/-- The tree of the only document; a text without any is an empty scalar. -/
def ofTokens? (ts : List Token) : Option (Tree String) :=
  if ts = [] then some .empty else
  match Grammar.content ts with
  | some (x, ts) => if ts.all (· == .documentEnd) then some x else none
  | none => none

end Tree
end Yaml
end AlertReceivers
