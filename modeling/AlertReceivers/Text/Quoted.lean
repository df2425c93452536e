/-
# Quoted text

A text in messages stands between double quotes, with a backslash before a
quote and a backslash, short names for the common control characters and
`\u` with the number of a character that does not print on its own.

Key definitions: `quotedChar`, `quoted`, `hexDigits`.
-/
import AlertReceivers.Text.Invisible

namespace AlertReceivers

/-- The lower-case hexadecimal digits of a number. -/
def hexDigits (n : Nat) : String := String.ofList (Nat.toDigits 16 n)

/-- A character as it stands between quotes. -/
def quotedChar (c : Char) : String :=
  match c with
  | '"' => "\\\""
  | '\\' => "\\\\"
  | '\n' => "\\n"
  | '\r' => "\\r"
  | '\t' => "\\t"
  | '\x00' => "\\0"
  | c => if isInvisible c then "\\u\x7b" ++ hexDigits c.toNat ++ "\x7d" else c.toString

/-- A text between double quotes. -/
def quoted (s : String) : String :=
  "\"" ++ String.join (s.toList.map quotedChar) ++ "\""

end AlertReceivers
