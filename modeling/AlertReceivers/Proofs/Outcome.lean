/-
# Steps that may fail

A walk through a list that fails splits the list at the member where it ends. A walk that succeeds
has a result for every member, and a member for every result.

Key theorems: `Except.bind_eq_ok_iff`, `exists_split_cons_iff`, `exists_first_cons_iff`,
`exists_mem_of_forall₂_left`, `exists_mem_of_forall₂_right`.
-/
import AlertReceivers.Config.Load
import Mathlib.Data.List.Forall2

namespace AlertReceivers

theorem Except.bind_eq_ok_iff {ε α β : Type} {x : Except ε α} {f : α → Except ε β} {b : β} :
    x >>= f = .ok b ↔ ∃ a, x = .ok a ∧ f a = .ok b := by
  cases x with
  | error e => simp [bind, Except.bind]
  | ok a => simp [bind, Except.bind]

theorem Except.bind_eq_error_iff {ε α β : Type} {x : Except ε α} {f : α → Except ε β} {e : ε} :
    x >>= f = .error e ↔ x = .error e ∨ ∃ a, x = .ok a ∧ f a = .error e := by
  cases x with
  | error e' => simp [bind, Except.bind]
  | ok a => simp [bind, Except.bind]

/-- A list with one more member at its head is split at this member, or it is split as before. -/
theorem exists_split_cons_iff {α : Type} {P : List α → α → List α → Prop} {x : α} {xs : List α} :
    (∃ before y after, x :: xs = before ++ y :: after ∧ P before y after) ↔
      P [] x xs ∨ ∃ before y after, xs = before ++ y :: after ∧ P (x :: before) y after := by
  constructor
  · rintro ⟨before, y, after, hsplit, h⟩
    cases before with
    | nil =>
      obtain ⟨rfl, rfl⟩ := List.cons.inj hsplit
      exact .inl h
    | cons z before =>
      obtain ⟨rfl, rfl⟩ := List.cons.inj hsplit
      exact .inr ⟨before, y, after, rfl, h⟩
  · rintro (h | ⟨before, y, after, rfl, h⟩)
    · exact ⟨[], x, xs, rfl, h⟩
    · exact ⟨x :: before, y, after, rfl, h⟩

/-- A list with one more member at its head is split with good members before: at this member, or
later if it is good. -/
theorem exists_first_cons_iff {α : Type} {Good : α → Prop} {P : List α → α → List α → Prop} {x : α}
    {xs : List α} :
    (∃ before y after, x :: xs = before ++ y :: after ∧ (∀ z ∈ before, Good z) ∧ P before y after) ↔
      P [] x xs ∨ Good x ∧ ∃ before y after, xs = before ++ y :: after ∧ (∀ z ∈ before, Good z) ∧
        P (x :: before) y after := by
  rw [exists_split_cons_iff]
  constructor
  · rintro (⟨-, h⟩ | ⟨before, y, after, hxs, hbefore, h⟩)
    · exact .inl h
    · obtain ⟨hx, hbefore⟩ := List.forall_mem_cons.mp hbefore
      exact .inr ⟨hx, before, y, after, hxs, hbefore, h⟩
  · rintro (h | ⟨hx, before, y, after, hxs, hbefore, h⟩)
    · exact .inl ⟨fun _ hz => absurd hz List.not_mem_nil, h⟩
    · exact .inr ⟨before, y, after, hxs, List.forall_mem_cons.mpr ⟨hx, hbefore⟩, h⟩

theorem exists_mem_of_forall₂_left {α β : Type} {R : α → β → Prop} : ∀ {xs : List α} {ys : List β},
    List.Forall₂ R xs ys → ∀ x ∈ xs, ∃ y ∈ ys, R x y
  | _, _, .nil, _, hx => absurd hx List.not_mem_nil
  | _, _, .cons h hs, x, hx => by
    rcases List.mem_cons.mp hx with rfl | hx
    · exact ⟨_, List.mem_cons_self, h⟩
    · obtain ⟨y, hy, hxy⟩ := exists_mem_of_forall₂_left hs x hx
      exact ⟨y, List.mem_cons_of_mem _ hy, hxy⟩

theorem exists_mem_of_forall₂_right {α β : Type} {R : α → β → Prop} {xs : List α} {ys : List β}
    (h : List.Forall₂ R xs ys) : ∀ y ∈ ys, ∃ x ∈ xs, R x y :=
  exists_mem_of_forall₂_left (List.Forall₂.flip (R := flip R) h)

end AlertReceivers
