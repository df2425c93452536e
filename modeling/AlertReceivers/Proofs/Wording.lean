/-
# The text of a node

Where a text is needed, a node counts with one text at most (`Node.wording?`): a text has itself,
under any tags, and a number or a boolean has its digits or its word where it stands without a tag.

Key definitions: `Node.wording?`, `Entries.spelled`.
Key theorems: `Node.readText_spelled_eq_ok_iff`, `Node.readText_spelled_of_none`,
`Node.asText?_eq_of_same`.
-/
import AlertReceivers.Coercion
import AlertReceivers.Proofs.KeyName

namespace AlertReceivers
namespace Node

/-- The text that is read of a node. -/
def wording? (n : Node) : Option String := n.spelled.asText?

@[simp] theorem spelled_spelled : ∀ n : Node, n.spelled.spelled = n.spelled
  | .null | .bool _ | .int _ | .float _ | .text _ | .seq _ | .map _ | .tagged _ _ => rfl

@[simp] theorem isNull_spelled : ∀ n : Node, n.spelled.isNull = n.isNull
  | .null | .bool _ | .int _ | .float _ | .text _ | .seq _ | .map _ | .tagged _ _ => rfl

/-! ### Texts under tags -/

/-- Under all tags the message is the same. -/
@[simp] theorem described_untagged : ∀ n : Node, n.untagged.described = n.described
  | .tagged _ n => described_untagged n
  | .null | .bool _ | .int _ | .float _ | .text _ | .seq _ | .map _ => rfl

theorem untagged_eq_text_iff {n : Node} {s : String} : n.untagged = .text s ↔ n.asText? = some s := by
  unfold asText?
  cases n.untagged <;> simp

theorem readText_eq_ok_iff {n : Node} {s : String} : n.readText = .ok s ↔ n.asText? = some s := by
  unfold readText asText?
  cases n.untagged <;> simp

theorem readText_of_none {n : Node} (h : n.asText? = none) :
    n.readText = .error (.shape n.untagged .text) := by
  unfold readText
  split
  · rename_i s hs
    rw [untagged_eq_text_iff.mp hs] at h
    cases h
  · rfl

theorem asText?_eq_of_same : ∀ {m n : Node}, m.same n = true → m.asText? = n.asText?
  | .tagged s m, .tagged t n, h => by
    have hmn : m.same n = true := by
      unfold same at h
      exact (Bool.and_eq_true_iff.mp h).2
    exact asText?_eq_of_same (m := m) (n := n) hmn
  | .text s, .text t, h => by
    have hst : s = t := by simpa [same] using h
    rw [hst]
  | .null, .null, _ | .bool _, .bool _, _ | .int _, .int _, _ | .float _, .float _, _
  | .seq _, .seq _, _ | .map _, .map _, _ => rfl

/-! ### Numbers and booleans -/

theorem wording?_of_scalarText? {n : Node} {s : String} (h : n.scalarText? = some s) :
    n.wording? = some s := by
  unfold wording? spelled
  rw [h]
  rfl

/-- A node without a text is not a plain number or boolean. -/
theorem spelled_of_wording?_eq_none {n : Node} (h : n.wording? = none) : n.spelled = n := by
  unfold spelled
  cases hs : n.scalarText? with
  | none => rfl
  | some s =>
    rw [wording?_of_scalarText? hs] at h
    cases h

theorem ne_empty_of_hasSign {s : String} (h : hasSign s = true) : s ≠ "" := by
  rintro rfl
  exact absurd h (by decide)

theorem ne_empty_of_scalarText? : ∀ {n : Node} {s : String}, n.scalarText? = some s → s ≠ ""
  | .bool b, _, rfl => by cases b <;> decide
  | .int i, _, rfl => ne_empty_of_hasSign (hasSign_toString_int i)
  | .float x, _, rfl => ne_empty_of_hasSign (hasSign_text x)

/-! ### Reading a text -/

/-- To read a text of a node is to find its text. -/
theorem readText_spelled_eq_ok_iff {n : Node} {s : String} :
    n.spelled.readText = .ok s ↔ n.wording? = some s :=
  readText_eq_ok_iff

theorem readText_spelled_of_none {n : Node} (h : n.wording? = none) :
    n.spelled.readText = .error (.shape n.untagged .text) := by
  have hspelled := spelled_of_wording?_eq_none h
  unfold wording? at h
  rw [hspelled] at h ⊢
  exact readText_of_none h

end Node

/-- Entries whose numbers and booleans are taken as their text, in keys and values. -/
def Entries.spelled (es : Entries) : Entries := es.map fun e => (e.1.spelled, e.2.spelled)

end AlertReceivers
