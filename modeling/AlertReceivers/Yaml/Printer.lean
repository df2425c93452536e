/-
# Nodes as text

A node is written as a block: every item of a sequence and every entry of a
mapping has a line of its own, two spaces further in than what holds it, and a
sequence under a key is not further in than the key. Empty collections are
brackets. A key stands before a colon if it is short and on one line; otherwise
key and value each follow a mark of their own. A tag stands in front of its value.

A tag directly around a tag cannot be written, and neither can a mapping of one
entry whose key is tagged or again such a mapping, unless the mapping itself is
tagged (`Node.writable`).

Key definitions: `writeText`, `writeNode`, `render`, `Node.writable`, `keyName`.
-/
import AlertReceivers.Node.Shown
import AlertReceivers.Text.Blank
import AlertReceivers.Yaml.Style

namespace AlertReceivers
namespace Yaml

/-! ### Scalars -/

/-- Spaces up to a column. -/
def indentTo (n : Nat) : String := String.ofList (List.replicate n ' ')

/-- A number in upper-case hexadecimal digits, of at least a given width. -/
def upperHex (width n : Nat) : String :=
  let ds := (Nat.toDigits 16 n).map Char.toUpper
  String.ofList (List.replicate (width - ds.length) '0' ++ ds)

/-- A character between double quotes. -/
def doubleChar (c : Char) : String :=
  if isPrintable c && !endsLineAt c && c != '"' && c != '\\' then c.toString
  else match c with
  | '\x00' => "\\0"
  | '\x07' => "\\a"
  | '\x08' => "\\b"
  | '\t' => "\\t"
  | '\n' => "\\n"
  | '\x0b' => "\\v"
  | '\x0c' => "\\f"
  | '\r' => "\\r"
  | '\x1b' => "\\e"
  | '"' => "\\\""
  | '\\' => "\\\\"
  | '\u0085' => "\\N"
  | '\u2028' => "\\L"
  | '\u2029' => "\\P"
  | c =>
    let n := c.toNat
    if n < 0x100 then "\\x" ++ upperHex 2 n
    else if n < 0x10000 then "\\u" ++ upperHex 4 n
    else "\\U" ++ upperHex 8 n

/-- A text between double quotes. -/
def writeDouble (s : String) : String := "\"" ++ String.join (s.toList.map doubleChar) ++ "\""

/-- Characters between single quotes; a line after a break is indented. -/
def singleFrom (indent : Nat) : Bool → List Char → String
  | broken, [] => if broken then indentTo indent else ""
  | broken, c :: cs =>
    if endsLineAt c then c.toString ++ singleFrom indent true cs
    else (if broken then indentTo indent else "") ++
      (if c = '\'' then "''" else c.toString) ++ singleFrom indent false cs

/-- A text between single quotes. -/
def writeSingle (indent : Nat) (s : String) : String := "'" ++ singleFrom indent false s.toList ++ "'"

/-- The lines of a literal block, each indented. A last line without an end gets one. -/
def literalFrom (indent : Nat) : Bool → List Char → String
  | broken, [] => if broken then "" else "\n"
  | broken, c :: cs =>
    if endsLineAt c then c.toString ++ literalFrom indent true cs
    else (if broken then indentTo indent else "") ++ c.toString ++ literalFrom indent false cs

/-- What stands behind the mark of a literal block: the indentation if the text
starts with a blank, and what happens to the line breaks at its end. -/
def literalHint (cs : List Char) : String :=
  let indentation := if cs.head?.any fun c => c == ' ' || endsLineAt c then "2" else ""
  let ending := match cs.reverse with
    | [] => "-"
    | c :: rest =>
      if !endsLineAt c then "-"
      else if rest.isEmpty || rest.head?.any endsLineAt then "+" else ""
  indentation ++ ending

/-- A text as a literal block, with the end of its last line. -/
def writeLiteral (indent : Nat) (s : String) : String :=
  "|" ++ literalHint s.toList ++ "\n" ++ literalFrom indent true s.toList

/-- A text on the line at hand, with the end of the line. -/
def writeText (indent : Nat) (s : String) : String :=
  match Style.ofText false s with
  | .plain => s ++ "\n"
  | .single => writeSingle indent s ++ "\n"
  | .double => writeDouble s ++ "\n"
  | .literal => writeLiteral indent s

/-- A text as a key before a colon. -/
def writeKeyText (indent : Nat) (s : String) : String :=
  match Style.ofText true s with
  | .plain => s
  | .single => writeSingle indent s
  | .double | .literal => writeDouble s

/-! ### Tags -/

/-- A tag with its mark, up to a zero character; a name that starts with a mark has it already. -/
def markedTag (tag : String) : String :=
  let cs := tag.toList.takeWhile (· != '\x00')
  String.ofList (if cs.head? = some '!' then cs else '!' :: cs)

/-- An octet after a percent sign. -/
def writeOctet (b : UInt8) : String := "%" ++ upperHex 2 b.toNat

/-- A character of a tag; one that a tag may not hold is written as its octets. -/
def writeTagChar (c : Char) : String :=
  if c.isAlphanum || "-;/?:@&=+$,_.~*'()[]".toList.contains c then c.toString
  else String.join (c.toString.toUTF8.toList.map writeOctet)

/-- A tag as it stands in front of a value. -/
def writeTag (tag : String) : String :=
  let suffix := String.join (((markedTag tag).toList.drop 1).map writeTagChar)
  if suffix = "" then "!<%21>" else "!" ++ suffix

/-! ### Keys before a colon -/

/-- How many octets a key before a colon has, if it can stand there. -/
def keySize? : Node → Option Nat
  | .text s => if (Traits.of s.toList).multiline then none else some s.utf8ByteSize
  | .seq xs => if xs.isEmpty then some 0 else none
  | .map es => if es.isEmpty then some 0 else none
  | .tagged t n => (keySize? n).map (· + (markedTag t).utf8ByteSize)
  | n => some (n.scalarText?.getD "null").utf8ByteSize

/-- Whether a key can stand before a colon. -/
def isSimpleKey (n : Node) : Bool := (keySize? n).any (· ≤ 128)

/-- A key before a colon. -/
def writeKey (indent : Nat) : Node → String
  | .text s => writeKeyText indent s
  | .seq _ => "[]"
  | .map _ => "\x7b\x7d"
  | .tagged t n => writeTag t ++ " " ++ writeKey indent n
  | n => n.scalarText?.getD "null"

/-! ### Nodes -/

/-- Where a node stands: alone, behind the mark of an item, behind the mark of a
key or a value, or behind a key and its colon. -/
inductive Place where
  | alone
  | item
  | mark
  | value
deriving DecidableEq

namespace Place

/-- What stands between a node and what is in front of it. -/
def gap (p : Place) (tagged : Bool) : String := if p = .alone ∧ !tagged then "" else " "

/-- Whether a collection starts on the line at hand. -/
def inline (p : Place) (tagged : Bool) : Bool := p != .value && !tagged

/-- The indentation of the items of a sequence. -/
def seqIndent (p : Place) (tagged : Bool) (indent : Nat) : Nat :=
  match p with
  | .alone => 0
  | .item => indent + 2
  | .mark => if tagged then indent else indent + 2
  | .value => indent

/-- The indentation of the entries of a mapping. -/
def mapIndent (p : Place) (indent : Nat) : Nat := if p = .alone then 0 else indent + 2

/-- What stands in front of the first item or entry of a collection. -/
def opening (p : Place) (tagged : Bool) (inner : Nat) : String :=
  if p.inline tagged then p.gap tagged else "\n" ++ indentTo inner

end Place

mutual
/-- A node behind what is in front of it, up to the end of its last line. -/
def writeNode (p : Place) (tagged : Bool) (indent : Nat) : Node → String
  | .text s => p.gap tagged ++ writeText (indent + 2) s
  | .seq [] => p.gap tagged ++ "[]\n"
  | .seq (x :: xs) =>
    let inner := p.seqIndent tagged indent
    p.opening tagged inner ++ "-" ++ writeNode .item false inner x ++ writeItems inner xs
  | .map [] => p.gap tagged ++ "\x7b\x7d\n"
  | .map ((k, v) :: es) =>
    let inner := p.mapIndent indent
    p.opening tagged inner ++ (if isSimpleKey k then writeKey (inner + 2) k
      else "?" ++ writeNode .mark false inner k ++ indentTo inner) ++ ":" ++
      writeNode (if isSimpleKey k then .value else .mark) false inner v ++ writeEntries inner es
  | .tagged t n => p.gap tagged ++ writeTag t ++ writeNode p true indent n
  | .null => p.gap tagged ++ "null\n"
  | .bool b => p.gap tagged ++ Node.boolText b ++ "\n"
  | .int i => p.gap tagged ++ toString i ++ "\n"
  | .float x => p.gap tagged ++ x.text Layout.document ++ "\n"

/-- The items of a sequence after the first. -/
def writeItems (indent : Nat) : List Node → String
  | [] => ""
  | x :: xs => indentTo indent ++ "-" ++ writeNode .item false indent x ++ writeItems indent xs

/-- The entries of a mapping after the first. -/
def writeEntries (indent : Nat) : Entries → String
  | [] => ""
  | (k, v) :: es =>
    indentTo indent ++ (if isSimpleKey k then writeKey (indent + 2) k
      else "?" ++ writeNode .mark false indent k ++ indentTo indent) ++ ":" ++
      writeNode (if isSimpleKey k then .value else .mark) false indent v ++ writeEntries indent es
end

/-- A node as a document. -/
def render (n : Node) : String := writeNode .alone false 0 n

end Yaml

/-! ### Names of keys -/

namespace Node

/-- Whether a key of the only entry of a mapping can be written. -/
def isPlainKey : Node → Bool
  | .tagged _ _ => false
  | .map [_] => false
  | _ => true

/-- Whether a mapping has one entry, with a key that cannot stand alone. -/
def hasLoneKey : Entries → Bool
  | [(k, _)] => !k.isPlainKey
  | _ => false

mutual
/-- Whether a node can be written as a document; `tagged` says that it stands under a tag. -/
def writableUnder (tagged : Bool) : Node → Bool
  | .seq xs => writableItems xs
  | .map es => (tagged || !hasLoneKey es) && writableEntries es
  | .tagged _ n => !tagged && writableUnder true n
  | _ => true

/-- Whether all items can be written. -/
def writableItems : List Node → Bool
  | [] => true
  | x :: xs => writableUnder false x && writableItems xs

/-- Whether all keys and values can be written. -/
def writableEntries : Entries → Bool
  | [] => true
  | (k, v) :: es => writableUnder false k && writableUnder false v && writableEntries es
end

/-- Whether a node can be written as a document. -/
def writable (n : Node) : Bool := n.writableUnder false

end Node

/-- The name of a key: a text is its own name, another key is named by its document
without the white space at the end, and one that cannot be written is spelled out. -/
def keyName (n : Node) : String :=
  match n with
  | .text s => s
  | n => if n.writable then trimRight (Yaml.render n) else n.shown

end AlertReceivers
