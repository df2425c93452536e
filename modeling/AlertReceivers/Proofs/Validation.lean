/-
# What is valid

A block is valid if none of its required fields is empty, no word of it was rejected and, for a mail,
its headers have a normal form. To validate it derives the headers of a mail and changes nothing else.
The order in which headers are gone through has a part in the mistake only
(`Block.derive_mail_eq_ok_iff`, `Block.derive_mail_eq_error_iff`).

Key definitions: `Values.lacks`, `FieldType.isSettled`, `Values.map`, `Block.recipient`,
`Block.sender`, `Block.headers`, `Block.withHeaders`.
Key theorems: `Values.missing?_eq_some_iff`, `Block.validate_eq_ok_iff`,
`Block.validate_of_validate`.
-/
import AlertReceivers.Block.Validation
import AlertReceivers.Proofs.Header

namespace AlertReceivers

/-! ### Required fields -/

namespace Values

/-- Whether the field at a position is required and empty. -/
def lacks {fs : List Field} (b : Values fs) (i : Fin fs.length) : Bool :=
  (fs.get i).required && (fs.get i).type.isMissing (b.get i)

theorem missing?_cons {f : Field} {fs : List Field} (v : f.type.Value) (rest : Values fs) :
    (cons v rest).missing? =
      if (cons v rest).lacks ⟨0, Nat.succ_pos _⟩ = true then some f.name else rest.missing? := rfl

theorem missing?_eq_none_iff : ∀ {fs : List Field} (b : Values fs),
    b.missing? = none ↔ ∀ i, b.lacks i = false
  | _, .nil => by simp [missing?]
  | f :: fs, .cons v rest => by
    rw [missing?_cons]
    constructor
    · intro h i
      split at h
      · cases h
      · rename_i hv
        rcases i with ⟨_ | i, hi⟩
        · simpa using hv
        · exact (missing?_eq_none_iff rest).mp h ⟨i, Nat.lt_of_succ_lt_succ hi⟩
    · intro h
      rw [if_neg (by simp [h])]
      refine (missing?_eq_none_iff rest).mpr fun i => ?_
      exact h ⟨i.1 + 1, Nat.succ_lt_succ i.2⟩

/-- The field that is missing is the first required one that is empty. -/
theorem missing?_eq_some_iff : ∀ {fs : List Field} (b : Values fs) {name : String},
    b.missing? = some name ↔
      ∃ i, b.lacks i = true ∧ (∀ j < i, b.lacks j = false) ∧ (fs.get i).name = name
  | _, .nil, _ => by
    constructor
    · intro h
      cases h
    · rintro ⟨i, -⟩
      exact i.elim0
  | f :: fs, .cons v rest, name => by
    rw [missing?_cons]
    split
    · rename_i hv
      constructor
      · intro h
        refine ⟨⟨0, Nat.succ_pos _⟩, hv, fun j hj => ?_, Option.some_inj.mp h⟩
        exact absurd hj (Nat.not_lt_zero _)
      · rintro ⟨⟨_ | i, hi⟩, hlacks, hfirst, hname⟩
        · exact congrArg some hname
        · have h := hfirst ⟨0, Nat.succ_pos _⟩ (Nat.succ_pos i)
          rw [h] at hv
          cases hv
    · rename_i hv
      rw [missing?_eq_some_iff rest]
      constructor
      · rintro ⟨i, hlacks, hfirst, hname⟩
        refine ⟨⟨i.1 + 1, Nat.succ_lt_succ i.2⟩, hlacks, ?_, hname⟩
        rintro ⟨_ | j, hj⟩ hji
        · simpa using hv
        · exact hfirst ⟨j, Nat.lt_of_succ_lt_succ hj⟩ (Nat.lt_of_succ_lt_succ hji)
      · rintro ⟨⟨_ | i, hi⟩, hlacks, hfirst, hname⟩
        · exact absurd hlacks hv
        · refine ⟨⟨i, Nat.lt_of_succ_lt_succ hi⟩, hlacks, fun j hj => ?_, hname⟩
          exact hfirst ⟨j.1 + 1, Nat.succ_lt_succ j.2⟩ (Nat.succ_lt_succ hj)

end Values

/-! ### Rejected words -/

/-- Whether no word for the value of a field was rejected. -/
def FieldType.isSettled : (t : FieldType) → t.Value → Prop
  | format, s => s.rejected = none
  | _, _ => True

theorem Values.rejected?_cons_eq_none_iff {f : Field} {fs : List Field} {v : f.type.Value}
    {rest : Values fs} :
    (cons v rest).rejected? = none ↔ f.type.isSettled v ∧ rest.rejected? = none := by
  obtain ⟨name, type, required, default⟩ := f
  cases type with
  | format =>
    obtain ⟨format, rejected⟩ := v
    cases rejected <;> simp [rejected?, FieldType.isSettled]
  | _ => simp [rejected?, FieldType.isSettled]

/-! ### Values that are changed field by field -/

namespace Values

/-- The values after each has been changed as its type says. -/
def map (g : (t : FieldType) → t.Value → t.Value) : {fs : List Field} → Values fs → Values fs
  | _, .nil => .nil
  | f :: _, .cons v rest => .cons (g f.type v) (rest.map g)

variable {g : (t : FieldType) → t.Value → t.Value}

/-- The same field is missing if no value becomes empty, or no longer is. -/
theorem missing?_map (hg : ∀ (t : FieldType) (v : t.Value), t.isMissing (g t v) = t.isMissing v) :
    ∀ {fs : List Field} (b : Values fs), (b.map g).missing? = b.missing?
  | _, .nil => rfl
  | f :: _, .cons v rest => by rw [map, missing?, missing?, hg, missing?_map hg rest]

theorem map_eq_self (hg : ∀ (t : FieldType) (v : t.Value), t.isSettled v → g t v = v) :
    ∀ {fs : List Field} {b : Values fs}, b.rejected? = none → b.map g = b
  | _, .nil, _ => rfl
  | f :: _, .cons v rest, h => by
    obtain ⟨hv, hrest⟩ := rejected?_cons_eq_none_iff.mp h
    rw [map, hg f.type v hv, map_eq_self hg hrest]

end Values

/-! ### The headers of a mail -/

namespace Block

/-- The recipient of a mail. -/
def recipient : Block .email → String
  | .cons recipient _ => recipient

/-- The sender of a mail. -/
def sender : Block .email → String
  | .cons _ (.cons sender _) => sender

/-- The headers of a mail. -/
def headers : Block .email → TextMap
  | .cons _ (.cons _ (.cons _ (.cons headers _))) => headers

/-- A mail with other headers. -/
def withHeaders : Block .email → TextMap → Block .email
  | .cons recipient (.cons sender (.cons smarthost (.cons _ rest))), headers =>
    .cons recipient (.cons sender (.cons smarthost (.cons headers rest)))

@[simp] theorem headers_withHeaders : ∀ (b : Block .email) (m : TextMap),
    (b.withHeaders m).headers = m
  | .cons _ (.cons _ (.cons _ (.cons _ _))), _ => rfl

@[simp] theorem recipient_withHeaders : ∀ (b : Block .email) (m : TextMap),
    (b.withHeaders m).recipient = b.recipient
  | .cons _ (.cons _ (.cons _ (.cons _ _))), _ => rfl

@[simp] theorem sender_withHeaders : ∀ (b : Block .email) (m : TextMap),
    (b.withHeaders m).sender = b.sender
  | .cons _ (.cons _ (.cons _ (.cons _ _))), _ => rfl

@[simp] theorem withHeaders_withHeaders : ∀ (b : Block .email) (m n : TextMap),
    (b.withHeaders m).withHeaders n = b.withHeaders n
  | .cons _ (.cons _ (.cons _ (.cons _ _))), _, _ => rfl

@[simp] theorem missing?_withHeaders : ∀ (b : Block .email) (m : TextMap),
    Values.missing? (b.withHeaders m) = Values.missing? b
  | .cons _ (.cons _ (.cons _ (.cons _ _))), _ => rfl

@[simp] theorem rejected?_mail : ∀ b : Block .email, Values.rejected? b = none
  | .cons _ (.cons _ (.cons _ (.cons _ (.cons _ .nil)))) => rfl

variable [TextMap.Walk]

theorem derive_mail : ∀ b : Block .email,
    b.derive = (Header.normalize (TextMap.Walk.entries b.headers) b.recipient b.sender).map b.withHeaders
  | .cons _ (.cons _ (.cons _ (.cons _ _))) => rfl

/-- The headers of a mail can be derived if they can be normalized, in one order or another. -/
theorem derive_mail_eq_ok_iff {b w : Block .email} : b.derive = .ok w ↔
    ∃ m, Header.normalize b.headers.toList b.recipient b.sender = .ok m ∧ w = b.withHeaders m := by
  simp only [← Header.normalize_eq_ok_iff_of_perm (TextMap.Walk.perm b.headers)]
  rw [derive_mail]
  cases Header.normalize (TextMap.Walk.entries b.headers) b.recipient b.sender <;>
    simp [Except.map, eq_comm]

/-- Nothing can be derived from a mail if the headers gone through so far have the canonical form of
the next one. -/
theorem derive_mail_eq_error_iff {b : Block .email} {mistake : BlockError} :
    b.derive = .error mistake ↔ ∃ before e after,
      TextMap.Walk.entries b.headers = before ++ e :: after ∧
      (before.map fun e => Header.canonical e.1).Nodup ∧
      Header.canonical e.1 ∈ before.map (fun e => Header.canonical e.1) ∧
      mistake = .duplicateHeader (Header.canonical e.1) := by
  rw [derive_mail, ← Header.normalize_eq_error_iff]
  cases Header.normalize (TextMap.Walk.entries b.headers) b.recipient b.sender <;> simp [Except.map]

theorem derive_of_ne {k : Kind} (hk : k ≠ .email) (b : Block k) : b.derive = .ok b := by
  cases k with
  | email => exact absurd rfl hk
  | _ => rfl

/-! ### Validation -/

theorem validate_eq_ok_iff {k : Kind} {b w : Block k} : b.validate = .ok w ↔
    Values.missing? b = none ∧ Values.rejected? b = none ∧ b.derive = .ok w := by
  unfold validate
  cases Values.missing? b with
  | some field => simp
  | none =>
    cases Values.rejected? b with
    | some rejected => simp
    | none => simp

/-- **To validate once is enough.** A validated block is valid as it is. -/
theorem validate_of_validate {k : Kind} {b w : Block k} (h : b.validate = .ok w) :
    w.validate = .ok w := by
  obtain ⟨hmissing, hrejected, hderive⟩ := validate_eq_ok_iff.mp h
  rw [validate_eq_ok_iff]
  by_cases hk : k = .email
  · subst hk
    obtain ⟨m, hm, rfl⟩ := derive_mail_eq_ok_iff.mp hderive
    refine ⟨(missing?_withHeaders b m).trans hmissing, rejected?_mail _, ?_⟩
    refine derive_mail_eq_ok_iff.mpr ⟨m, ?_, (withHeaders_withHeaders b m m).symm⟩
    rw [headers_withHeaders, (Header.normal_of_normalize hm).normalize_eq (.refl _)]
  · rw [derive_of_ne hk] at hderive
    cases hderive
    exact ⟨hmissing, hrejected, derive_of_ne hk b⟩

/-- A block that is decoded is validated from what a node is bound to. -/
theorem exists_bind_of_decode {k : Kind} {n : Node} {b : Block k} (h : decode k n = .ok b) :
    ∃ v, (defaults k).bind n = .ok ⟨v, []⟩ ∧ v.validate = .ok b := by
  unfold decode at h
  split at h
  · cases h
  · rename_i r hr
    split at h
    · rename_i hresidual
      refine ⟨r.block, ?_, h⟩
      rw [hr, ← List.isEmpty_iff.mp hresidual]
    · cases h

theorem validate_of_decode {k : Kind} {n : Node} {b : Block k} (h : decode k n = .ok b) :
    b.validate = .ok b := by
  obtain ⟨v, -, hvalidate⟩ := exists_bind_of_decode h
  exact validate_of_validate hvalidate

end Block
end AlertReceivers
