/-
# A node spelled out

A node that has no written form in a document is named by spelling out how it
is built: the kind of each value with its parts in brackets. The keys of a
mapping that are booleans, numbers or texts stand there by themselves.

Key definitions: `Node.shown`.
-/
import AlertReceivers.Node.Basic
import AlertReceivers.Text.Quoted

namespace AlertReceivers
namespace Node

mutual
/-- A node spelled out. -/
def shown : Node → String
  | .null => "Null"
  | .bool b => "Bool(" ++ boolText b ++ ")"
  | .int i => "Number(" ++ toString i ++ ")"
  | .float x => "Number(" ++ x.text Layout.document ++ ")"
  | .text s => "String(" ++ quoted s ++ ")"
  | .seq items => "Sequence [" ++ ", ".intercalate (shownItems items) ++ "]"
  | .map entries => "Mapping \x7b" ++ ", ".intercalate (shownEntries entries) ++ "\x7d"
  | .tagged t n => "TaggedValue \x7b tag: !" ++ t ++ ", value: " ++ shown n ++ " \x7d"

/-- The items of a sequence, spelled out. -/
def shownItems : List Node → List String
  | [] => []
  | n :: ns => shown n :: shownItems ns

/-- The entries of a mapping, spelled out. -/
def shownEntries : Entries → List String
  | [] => []
  | (k, v) :: es =>
    let name := match k with
      | .bool b => boolText b
      | .int i => toString i
      | .float x => x.text Layout.document
      | .text s => quoted s
      | k => shown k
    (name ++ ": " ++ shown v) :: shownEntries es
end

end Node
end AlertReceivers
