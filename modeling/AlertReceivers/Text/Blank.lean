/-
# White space at the end of a text

The characters of white space are those of the Unicode property of that name.

Key definitions: `isWhiteSpace`, `trimRight`.
-/

namespace AlertReceivers

/-- Whether a character is white space. -/
def isWhiteSpace (c : Char) : Bool :=
  let n := c.toNat
  (9 ≤ n && n ≤ 13) || n == 0x20 || n == 0x85 || n == 0xA0 || n == 0x1680 ||
  (0x2000 ≤ n && n ≤ 0x200A) || n == 0x2028 || n == 0x2029 || n == 0x202F ||
  n == 0x205F || n == 0x3000

/-- A text without the white space at its end. -/
def trimRight (s : String) : String :=
  String.ofList (s.toList.reverse.dropWhile isWhiteSpace).reverse

end AlertReceivers
