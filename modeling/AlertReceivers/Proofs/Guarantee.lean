/-
# What a validated block guarantees

A block that is validated has all it needs, whatever it was before: the defaults or nothing, with
any entries laid over it, some of them in vain. A configuration holds only such blocks, each of the
kind under whose key it is listed.

Key definitions: `Header.InOrder`, `Block.HeadersInOrder`, `Block.Guarantees`, `Node.ListsValid`.
Key theorems: `Header.inOrder_of_normalize`, `Block.guarantees_of_validate`, `Config.guarantees`.
-/
import AlertReceivers.Proofs.Collision
import AlertReceivers.Proofs.Document
import AlertReceivers.Proofs.Verdict

namespace AlertReceivers

/-! ### Headers in order -/

namespace Header

/-- Headers are in order, for a mail that was given some of them: they stand under canonical
names, no two of which are equal up to case, and have a subject, a recipient and a sender, which
are those of the mail unless others were given. -/
structure InOrder (given : TextMap) (recipient sender : String) (headers : TextMap) : Prop where
  isCanonical : ∀ x, (headers.get? x).isSome = true → canonical x = x
  distinct : ∀ x y, (headers.get? x).isSome = true → (headers.get? y).isSome = true →
    SameUpToCase x y → x = y
  hasSubject : (headers.get? "Subject").isSome = true
  hasRecipient : (headers.get? "To").isSome = true
  recipient_eq : (∀ x, (given.get? x).isSome = true → ¬ SameUpToCase x "To") →
    headers.get? "To" = some recipient
  hasSender : (headers.get? "From").isSome = true
  sender_eq : (∀ x, (given.get? x).isSome = true → ¬ SameUpToCase x "From") →
    headers.get? "From" = some sender

section

variable {m headers : TextMap} {recipient sender name value : String}

/-- A header that every mail has keeps its text unless another one is given, in whatever case. -/
theorem get?_of_not_given (h : normalize m.toList recipient sender = .ok headers)
    (hcanonical : canonical name = name) (hstandard : standard? recipient sender name = some value)
    (hgiven : ∀ x, (m.get? x).isSome = true → ¬ SameUpToCase x name) :
    headers.get? name = some value := by
  refine (completes_of_normalize (.refl _) h).filled name value hstandard fun x hx hname => ?_
  refine hgiven x hx (canonical_eq_iff.mp ?_)
  rw [hname, hcanonical]

theorem inOrder_of_normalize (h : normalize m.toList recipient sender = .ok headers) :
    InOrder m recipient sender headers := by
  have hnormal := normal_of_normalize h
  have hstandard : ∀ x, x = "Subject" ∨ x = "To" ∨ x = "From" → (headers.get? x).isSome = true :=
    fun x hx => hnormal.hasStandard recipient sender x (standard?_isSome.mpr hx)
  refine ⟨hnormal.isCanonical, fun x y hx hy hsame => ?_, hstandard _ (.inl rfl),
    hstandard _ (.inr (.inl rfl)), get?_of_not_given h (by decide) rfl,
    hstandard _ (.inr (.inr rfl)), get?_of_not_given h (by decide) rfl⟩
  rw [← hnormal.isCanonical x hx, ← hnormal.isCanonical y hy]
  exact canonical_eq_iff.mpr hsame

end

end Header

/-! ### Blocks -/

theorem Kind.required_of_secret (k : Kind) :
    ∀ f ∈ k.fields, f.type = .secret → f.required = true := by cases k <;> decide

theorem Kind.isMissing_zero_of_required (k : Kind) :
    ∀ f ∈ k.fields, f.required = true → f.type.isMissing f.type.zero = true := by
  cases k <;> decide

namespace Block

/-- The headers of a mail are in order, given those that it was validated with. -/
def HeadersInOrder : {k : Kind} → Block k → Block k → Prop
  | .email, v, w => Header.InOrder v.headers w.recipient w.sender w.headers
  | _, _, _ => True

/-- What is guaranteed of a block that was validated, given the block that it was before. -/
structure Guarantees [TextMap.Walk] {k : Kind} (v w : Block k) : Prop where
  /-- No field that is required or holds a credential is empty. -/
  filled : ∀ i, (k.fields.get i).required = true ∨ (k.fields.get i).type = .secret →
    Values.get w i ≠ (k.fields.get i).type.zero
  /-- No rejected word is left. -/
  settled : w.pending? = none
  headers : HeadersInOrder v w
  /-- All other fields are as they were. -/
  kept : ∀ i, (k.fields.get i).name ≠ "headers" → Values.get w i = Values.get v i
  lasting : w.validate = .ok w

theorem ne_zero_of_complete {k : Kind} {b : Block k} (h : b.Complete) (i : Fin k.fields.length)
    (hi : (k.fields.get i).required = true) : Values.get b i ≠ (k.fields.get i).type.zero := by
  intro hzero
  have hlacks := h i
  rw [Values.lacks, hi, hzero, k.isMissing_zero_of_required _ (List.get_mem _ i) hi] at hlacks
  cases hlacks

theorem get_withHeaders : ∀ (b : Block .email) (m : TextMap) (i : Fin Kind.email.fields.length),
    (Kind.email.fields.get i).name ≠ "headers" → Values.get (b.withHeaders m) i = Values.get b i
  | .cons _ (.cons _ (.cons _ (.cons _ _))), _, ⟨0, _⟩, _ => rfl
  | .cons _ (.cons _ (.cons _ (.cons _ _))), _, ⟨1, _⟩, _ => rfl
  | .cons _ (.cons _ (.cons _ (.cons _ _))), _, ⟨2, _⟩, _ => rfl
  | .cons _ (.cons _ (.cons _ (.cons _ _))), _, ⟨3, _⟩, h => absurd rfl h
  | .cons _ (.cons _ (.cons _ (.cons _ _))), _, ⟨_ + 4, _⟩, _ => rfl

theorem headersInOrder_of_derive [TextMap.Walk] {k : Kind} {v w : Block k} (h : v.derive = .ok w) :
    HeadersInOrder v w ∧
      ∀ i, (k.fields.get i).name ≠ "headers" → Values.get w i = Values.get v i := by
  by_cases hk : k = .email
  · subst hk
    obtain ⟨m, hm, rfl⟩ := derive_mail_eq_ok_iff.mp h
    refine ⟨?_, get_withHeaders v m⟩
    show Header.InOrder v.headers (v.withHeaders m).recipient (v.withHeaders m).sender
      (v.withHeaders m).headers
    rw [headers_withHeaders, recipient_withHeaders, sender_withHeaders]
    exact Header.inOrder_of_normalize hm
  · rw [derive_of_ne hk] at h
    cases h
    refine ⟨?_, fun _ _ => rfl⟩
    cases k with
    | email => exact absurd rfl hk
    | _ => trivial

theorem guarantees_of_validate [TextMap.Walk] {k : Kind} {v w : Block k} (h : v.validate = .ok w) :
    Guarantees v w := by
  obtain ⟨-, -, hderive⟩ := validate_eq_ok_iff.mp h
  have hlasting := validate_of_validate h
  obtain ⟨hmissing, hrejected, -⟩ := validate_eq_ok_iff.mp hlasting
  obtain ⟨hheaders, hkept⟩ := headersInOrder_of_derive hderive
  have hsettled : w.pending? = none := by
    rw [rejected?_eq, Option.map_eq_none_iff] at hrejected
    exact hrejected
  refine ⟨fun i hi => ?_, hsettled, hheaders, hkept, hlasting⟩
  have hrequired : (k.fields.get i).required = true :=
    hi.elim id (k.required_of_secret _ (List.get_mem _ i))
  exact ne_zero_of_complete (complete_iff.mpr hmissing) i hrequired

end Block

/-! ### Configurations -/

/-- A definition lists a node under the block key of an integration's kind, and the block of the
integration is validated from what this node is bound to. -/
def Node.ListsValid [TextMap.Walk] (n : Node) (i : Integration) : Prop :=
  ∃ es e items m v, n = .map es ∧ e ∈ es ∧ e.1 = .text i.kind.blockKey ∧
    e.2.items? = some items ∧ m ∈ items ∧ (Block.defaults i.kind).bind m = .ok ⟨v, []⟩ ∧
    Block.Guarantees v i.block

theorem Defines.listsValid [TextMap.Walk] {n : Node} {r : Receiver} (h : Defines n r) :
    ∀ i ∈ r.integrations, n.ListsValid i := by
  intro i hi
  obtain ⟨es, rfl, e, he, hkey, items, hitems, m, hm, hdecode⟩ := h.exists_decode hi
  obtain ⟨v, hbind, hvalidate⟩ := Block.exists_bind_of_decode hdecode
  exact ⟨es, e, items, m, v, rfl, he, hkey, hitems, hm, hbind, Block.guarantees_of_validate hvalidate⟩

namespace Config

/-- **Valid once and for all.** Whatever a block was before, it has what is guaranteed after it is
validated. So has every block of a configuration, and it has the kind under whose key the
definition of its receiver lists it. -/
theorem guarantees [TextMap.Walk] :
    (∀ (k : Kind) (v w : Block k), v.validate = .ok w → Block.Guarantees v w) ∧
      ∀ (d : Node) (c : Config), ofNode d = .ok c →
        List.Forall₂ (fun n r => ∀ i ∈ r.integrations, n.ListsValid i) d.definitions c.receivers := by
  refine ⟨fun k v w h => Block.guarantees_of_validate h, fun d c h => ?_⟩
  obtain ⟨-, hall⟩ := ofNode_eq_ok_iff.mp h
  exact hall.imp fun n r hr => hr.listsValid

section
attribute [local instance] TextMap.Walk.ascending

/-- A mail that is given no recipient among its headers has one there once it is validated. -/
theorem guarantees_mail :
    ∃ v w : Block .email, v.headers.get? "To" = none ∧ v.validate = .ok w ∧
      (w.headers.get? "To").isSome = true := by
  let v : Block .email := .cons "ops@example.com" (.cons "bot@example.com" (.cons ""
    (.cons (TextMap.ofList [("x-team", "db")]) (.cons "" .nil))))
  obtain ⟨w, hw⟩ : ∃ w, v.validate = .ok w := ⟨_, rfl⟩
  have hguaranteed : Block.Guarantees v w := guarantees.1 .email v w hw
  have hheaders : Header.InOrder v.headers w.recipient w.sender w.headers := hguaranteed.headers
  exact ⟨v, w, rfl, hw, hheaders.hasRecipient⟩

end

end Config
end AlertReceivers
