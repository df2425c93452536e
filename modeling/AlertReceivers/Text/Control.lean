/-
# Text without control sequences

A terminal takes an escape character, and what belongs to it, as a command. A
text that is not for a terminal is written without commands, and of the other
control characters of ASCII only those that lay out the text stay in it.

Key definitions: `Control.Place`, `Control.next`, `Control.keeps`,
`Control.strip`, `Control.plain`.
Key theorems: `Control.isVisible_of_mem_strip`, `Control.strip_eq_self`.
-/

namespace AlertReceivers
namespace Control

/-- Where a character stands in a text with commands. -/
inductive Place where
  /-- Outside every command. -/
  | text
  /-- Behind an escape character. -/
  | escape
  /-- Behind an escape character and a mark that calls for one more character. -/
  | choice
  /-- Among the numbers of a command. -/
  | numbers
  /-- In a title, which a bell ends. -/
  | title
  /-- Among the numbers before a string. -/
  | header
  /-- In a string, which the octet 9C ends. -/
  | string
deriving DecidableEq, Repr

/-- The character that starts a command. -/
def escapeChar : Char := '\x1b'

/-- Whether a character breaks a command off. -/
def isCancel (c : Char) : Bool := c == '\x18' || c == '\x1a'

/-- Whether a control character lays out the text. -/
def isLayout (c : Char) : Bool := c == '\t' || c == '\n' || c == '\x0c' || c == '\r'

/-- Whether a character stays in a text. -/
def isVisible (c : Char) : Bool := isLayout c || (0x20 ≤ c.toNat && c.toNat != 0x7F)

/-- Whether a character is in a range, both ends included. -/
def isIn (low high : Nat) (c : Char) : Bool := low ≤ c.toNat && c.toNat ≤ high

/-- The place after the character that follows an escape character. -/
def afterEscape (c : Char) : Place :=
  match c with
  | '[' => .numbers
  | ']' => .title
  | 'P' => .header
  | 'X' | '^' | '_' => .string
  | c => if isIn 0x20 0x2F c then .choice else if isIn 0x30 0x7E c then .text else .escape

/-- The place after a character. Within a short command a character that lays out the
text ends the command. -/
def next (p : Place) (c : Char) : Place :=
  if c = escapeChar then .escape
  else if isCancel c then .text
  else match p with
    | .text => .text
    | .escape => if isLayout c then .text else afterEscape c
    | .choice => if isLayout c || isIn 0x30 0x7E c then .text else .choice
    | .numbers => if isLayout c || isIn 0x40 0x7E c then .text else .numbers
    | .title => if c = '\x07' then .text else .title
    | .header => if isIn 0x40 0x7E c then .string else .header
    | .string => if c.toString.toUTF8.toList.contains 0x9C then .text else .string

/-- Whether a character at a place stays in the text. -/
def keeps (p : Place) (c : Char) : Bool :=
  match p with
  | .text => isVisible c
  | .escape | .choice | .numbers => isLayout c
  | .title | .header | .string => false

/-- The characters that stay, from a place on. -/
def strip : Place → List Char → List Char
  | _, [] => []
  | p, c :: cs => if keeps p c then c :: strip (next p c) cs else strip (next p c) cs

/-- A text without control sequences. -/
def plain (s : String) : String := String.ofList (strip .text s.toList)

/-! ### What stays -/

theorem isVisible_of_keeps {p : Place} {c : Char} (h : keeps p c = true) : isVisible c = true := by
  cases p <;> simp_all [keeps, isVisible]

/-- Only characters that stay in a text are left. -/
theorem isVisible_of_mem_strip : ∀ {p : Place} {cs : List Char} {c : Char},
    c ∈ strip p cs → isVisible c = true
  | _, [], _, h => by simp [strip] at h
  | p, d :: cs, c, h => by
    simp only [strip] at h
    split at h
    next hd =>
      rcases List.mem_cons.1 h with rfl | h
      · exact isVisible_of_keeps hd
      · exact isVisible_of_mem_strip h
    next => exact isVisible_of_mem_strip h

theorem next_text {c : Char} (h : isVisible c = true) : next .text c = .text := by
  have : c ≠ escapeChar := by
    rintro rfl
    exact absurd h (by decide)
  simp [next, this]

/-- Nothing is taken from a text all of whose characters stay. -/
theorem strip_eq_self : ∀ {cs : List Char}, (∀ c ∈ cs, isVisible c = true) → strip .text cs = cs
  | [], _ => rfl
  | c :: cs, h => by
    have hc := h c List.mem_cons_self
    simp [strip, keeps, hc, next_text hc,
      strip_eq_self fun d hd => h d (List.mem_cons_of_mem _ hd)]

end Control
end AlertReceivers
