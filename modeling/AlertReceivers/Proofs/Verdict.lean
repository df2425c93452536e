/-
# The verdict on a block

A block goes through stages, and the first one that finds a mistake decides:

* it must be a mapping;
* no entry may give a field a value of another type, and the first that does is named;
* every key must name a field, and all those that do not are named;
* no required field may be empty, once the entries are laid over the defaults;
* no word for the format of messages may be rejected;
* no two headers of a mail may share a canonical form.

`Verdict` says so without going through the entries step by step.

Key definitions: `Mistyped`, `Kind.isUnknown`, `Kind.laid`, `Binds`, `Block.pending?`, `Verdict`.
Key theorems: `Block.decode_map`, `Block.decode_map_eq_ok_iff`, `Block.decode_eq_iff_verdict`.
-/
import AlertReceivers.Proofs.Binding
import AlertReceivers.Proofs.Validation

namespace AlertReceivers

/-! ### Entries -/

/-- An entry names a field and gives it a value of another type, which is not null. -/
structure Mistyped (k : Kind) (e : Node × Node) (f : Field) (m : Mismatch) : Prop where
  isField : f ∈ k.fields
  isNamed : e.1.asText? = some f.name
  isGiven : e.2.isNull = false
  isRefused : f.type.read e.2 = .error m

/-- No entry gives a field a value of another type. -/
def WellTyped (k : Kind) (es : Entries) : Prop := ∀ e ∈ es, ∀ f m, ¬ Mistyped k e f m

/-- Whether the key of an entry is no text, or one that names no field, under any tags. -/
def Kind.isUnknown (k : Kind) (e : Node × Node) : Bool := !(e.1.asText?.any k.hasField)

/-- The defaults of a kind with entries laid over them. -/
def Kind.laid (k : Kind) (es : Entries) : Block k := Values.laidOver (Block.defaults k) es

/-- Every entry names a field and gives it null or a value of its type. -/
structure Binds (k : Kind) (es : Entries) : Prop where
  typed : WellTyped k es
  known : es.filter k.isUnknown = []

/-! ### Blocks -/

/-- The word for the format of messages that was rejected last, in a block that has a format. -/
def Block.pending? : {k : Kind} → Block k → Option String
  | .hipchat, .cons _ (.cons _ (.cons _ (.cons _ (.cons _ (.cons setting .nil))))) =>
    FormatSetting.rejected setting
  | _, _ => none

/-- No required field of a block is empty. -/
def Block.Complete {k : Kind} (b : Block k) : Prop := ∀ i, Values.lacks b i = false

/-! ### Verdicts -/

/-- What is to be said of a node that is given as a block of a kind. -/
inductive Verdict [TextMap.Walk] : (k : Kind) → Node → Except BlockError (Block k) → Prop where
  /-- The node is not a mapping. -/
  | notMapping {k : Kind} {n : Node} (h : ∀ es, n ≠ .map es) :
    Verdict k n (.error (.invalidBlock k n.typeName))
  /-- The first value of another type is named. -/
  | mistyped {k : Kind} {before after : Entries} {e : Node × Node} {f : Field} {m : Mismatch}
    (first : WellTyped k before) (h : Mistyped k e f m) :
    Verdict k (.map (before ++ e :: after))
      (.error (.invalidType k f.name f.type.expected m.message))
  /-- All keys that name no field are named, in the order of the document. -/
  | unknown {k : Kind} {es : Entries} (typed : WellTyped k es) (h : es.filter k.isUnknown ≠ []) :
    Verdict k (.map es)
      (.error (.unrecognizedFields k (Entries.keyNames (es.filter k.isUnknown))))
  /-- The first required field that is empty is named. -/
  | missing {k : Kind} {es : Entries} {i : Fin k.fields.length} (binds : Binds k es)
    (h : Values.lacks (k.laid es) i = true) (first : ∀ j < i, Values.lacks (k.laid es) j = false) :
    Verdict k (.map es) (.error (.missingField k (k.fields.get i).name))
  /-- A rejected word is named, with the words that are allowed. -/
  | rejected {es : Entries} {word : String} (binds : Binds .hipchat es)
    (complete : (Kind.hipchat.laid es).Complete)
    (h : (Kind.hipchat.laid es).pending? = some word) :
    Verdict .hipchat (.map es)
      (.error (.invalidValue .hipchat "message_format" word ["html", "text"]))
  /-- The first canonical form that two headers share is named, as the headers are gone through. -/
  | duplicate {es : Entries} {before after : List (String × String)} {e : String × String}
    (binds : Binds .email es) (complete : (Kind.email.laid es).Complete)
    (split : TextMap.Walk.entries (Kind.email.laid es).headers = before ++ e :: after)
    (first : (before.map fun e => Header.canonical e.1).Nodup)
    (h : Header.canonical e.1 ∈ before.map fun e => Header.canonical e.1) :
    Verdict .email (.map es) (.error (.duplicateHeader (Header.canonical e.1)))
  /-- A mail is accepted with its headers under canonical names, and the standard ones
  filled in. -/
  | mail {es : Entries} {headers : TextMap} (binds : Binds .email es)
    (complete : (Kind.email.laid es).Complete)
    (distinct : ((Kind.email.laid es).headers.toList.map fun e => Header.canonical e.1).Nodup)
    (filled : ∀ x, headers.get? x =
      (Header.textFor? (Kind.email.laid es).headers.toList x).or
        (Header.standard? (Kind.email.laid es).recipient (Kind.email.laid es).sender x)) :
    Verdict .email (.map es) (.ok ((Kind.email.laid es).withHeaders headers))
  /-- A block of another kind is accepted as it is laid over the defaults. -/
  | other {k : Kind} {es : Entries} (hk : k ≠ .email) (binds : Binds k es)
    (complete : (k.laid es).Complete) (settled : (k.laid es).pending? = none) :
    Verdict k (.map es) (.ok (k.laid es))

/-! ### Stages of a binding -/

theorem Kind.isUnknown_eq (k : Kind) (e : Node × Node) : k.isUnknown e = (k.field? e).isNone := by
  unfold isUnknown
  cases hkey : e.1.asText? with
  | none =>
    have hfield : k.field? e = none := by
      rw [field?_eq_none_iff]
      intro f _
      simp [Field.isNamedBy, hkey]
    rw [hfield]
    rfl
  | some name =>
    have hname : ∀ f : Field, (f.name == name) = f.isNamedBy e := fun f => by
      rw [Field.isNamedBy, hkey, Bool.eq_iff_iff, beq_iff_eq, beq_iff_eq, Option.some_inj, eq_comm]
    rw [Option.any_some, hasField, field?]
    simp only [hname]
    rw [← List.isSome_find?, Option.not_isSome]

theorem Kind.filter_field?_isNone (k : Kind) (es : Entries) :
    (es.filter fun e => (k.field? e).isNone) = es.filter k.isUnknown :=
  List.filter_congr fun e _ => (k.isUnknown_eq e).symm

theorem Kind.mistake?_eq_some_iff_mistyped {k : Kind} {e : Node × Node} {mistake : BlockError} :
    k.mistake? e = some mistake ↔
      ∃ f m, Mistyped k e f m ∧ mistake = .invalidType k f.name f.type.expected m.message := by
  rw [mistake?_eq_some_iff]
  constructor
  · rintro ⟨f, m, hf, hm, rfl⟩
    obtain ⟨hmem, hname⟩ := field?_eq_some_iff.mp hf
    obtain ⟨hgiven, hread⟩ := FieldType.given?_eq_error_iff.mp hm
    exact ⟨f, m, ⟨hmem, hname, hgiven, hread⟩, rfl⟩
  · rintro ⟨f, m, h, rfl⟩
    refine ⟨f, m, field?_eq_some_iff.mpr ⟨h.isField, h.isNamed⟩, ?_, rfl⟩
    exact FieldType.given?_eq_error_iff.mpr ⟨h.isGiven, h.isRefused⟩

theorem wellTyped_iff {k : Kind} {es : Entries} :
    WellTyped k es ↔ ∀ e ∈ es, k.mistake? e = none := by
  constructor
  · intro h e he
    refine Option.eq_none_iff_forall_ne_some.mpr fun mistake hm => ?_
    obtain ⟨f, m, hf, -⟩ := Kind.mistake?_eq_some_iff_mistyped.mp hm
    exact h e he f m hf
  · intro h e he f m hf
    have hm := Kind.mistake?_eq_some_iff_mistyped.mpr ⟨f, m, hf, rfl⟩
    rw [h e he] at hm
    cases hm

/-! ### Stages of a validation -/

theorem Values.rejected?_eq_none : ∀ {fs : List Field} (b : Values fs),
    (∀ f ∈ fs, f.type ≠ .format) → b.rejected? = none
  | _, .nil, _ => rfl
  | f :: fs, .cons v rest, h => by
    have hv : f.type.isSettled v := by
      have hf := h f List.mem_cons_self
      unfold FieldType.isSettled
      split
      · exact absurd ‹_› hf
      · trivial
    have hrest := rejected?_eq_none rest fun g hg => h g (List.mem_cons_of_mem f hg)
    exact rejected?_cons_eq_none_iff.mpr ⟨hv, hrest⟩

namespace Block

theorem complete_iff {k : Kind} {b : Block k} : b.Complete ↔ Values.missing? b = none :=
  (Values.missing?_eq_none_iff b).symm

/-- Only the format of messages can be rejected. -/
theorem rejected?_eq {k : Kind} (b : Block k) :
    Values.rejected? b = b.pending?.map fun word => ("message_format", word) := by
  by_cases hk : k = .hipchat
  · subst hk
    match b with
    | .cons _ (.cons _ (.cons _ (.cons _ (.cons _ (.cons ⟨_, none⟩ .nil))))) => rfl
    | .cons _ (.cons _ (.cons _ (.cons _ (.cons _ (.cons ⟨_, some _⟩ .nil))))) => rfl
  · have hformat : ∀ f ∈ k.fields, f.type ≠ .format := by
      cases k <;> first | exact absurd rfl hk | decide
    have hpending : b.pending? = none := by
      cases k <;> first | exact absurd rfl hk | rfl
    rw [Values.rejected?_eq_none b hformat, hpending]
    rfl

theorem rejected?_eq_none_iff {k : Kind} {b : Block k} :
    Values.rejected? b = none ↔ b.pending? = none := by
  rw [rejected?_eq, Option.map_eq_none_iff]

theorem pending?_eq_none_of_ne {k : Kind} (hk : k ≠ .hipchat) (b : Block k) : b.pending? = none := by
  cases k <;> first | exact absurd rfl hk | rfl

section
variable [TextMap.Walk]

theorem validate_of_complete {k : Kind} {b : Block k} (h : b.Complete) :
    b.validate = match b.pending? with
      | some word => .error (.invalidValue k "message_format" word MessageFormat.names)
      | none => b.derive := by
  rw [validate, complete_iff.mp h, rejected?_eq]
  cases b.pending? <;> rfl

/-- The stages of decoding a mapping: types, names, and what is laid over the defaults. -/
theorem decode_map (k : Kind) (es : Entries) : decode k (.map es) =
    match es.findSome? k.mistake? with
    | some mistake => .error mistake
    | none =>
      if es.filter k.isUnknown = [] then (k.laid es).validate
      else .error (.unrecognizedFields k (Entries.keyNames (es.filter k.isUnknown))) := by
  rw [decode, bind, bindEntries_eq, k.filter_field?_isNone]
  cases es.findSome? k.mistake? with
  | some mistake => rfl
  | none =>
    simp only [List.isEmpty_iff]
    rfl

theorem decode_of_wellTyped {k : Kind} {es : Entries} (h : WellTyped k es) : decode k (.map es) =
    if es.filter k.isUnknown = [] then (k.laid es).validate
    else .error (.unrecognizedFields k (Entries.keyNames (es.filter k.isUnknown))) := by
  rw [decode_map, List.findSome?_eq_none_iff.mpr (wellTyped_iff.mp h)]

theorem decode_of_binds {k : Kind} {es : Entries} (h : Binds k es) :
    decode k (.map es) = (k.laid es).validate := by
  rw [decode_of_wellTyped h.typed, if_pos h.known]

/-- A mapping with an entry that makes a mistake is refused for this one, or for an earlier one. -/
theorem decode_of_mistake? {k : Kind} {e : Node × Node} {mistake : BlockError} (before after : Entries)
    (h : k.mistake? e = some mistake) : decode k (.map (before ++ e :: after)) =
      .error ((before.findSome? k.mistake?).getD mistake) := by
  rw [decode_map, List.findSome?_append, List.findSome?_cons, h]
  cases before.findSome? k.mistake? <;> rfl

/-- A mapping is decoded if its entries bind and what they leave can be validated. -/
theorem decode_map_eq_ok_iff {k : Kind} {es : Entries} {b : Block k} :
    decode k (.map es) = .ok b ↔ Binds k es ∧ (k.laid es).validate = .ok b := by
  constructor
  · intro h
    rw [decode_map] at h
    split at h
    · cases h
    · rename_i hm
      split at h
      · rename_i hknown
        exact ⟨⟨wellTyped_iff.mpr (List.findSome?_eq_none_iff.mp hm), hknown⟩, h⟩
      · cases h
  · rintro ⟨hbinds, h⟩
    rw [decode_of_binds hbinds, h]

/-! ### Decoding -/

theorem verdict_derive {k : Kind} {es : Entries} (h : Binds k es) (hcomplete : (k.laid es).Complete)
    (hpending : (k.laid es).pending? = none) : Verdict k (.map es) (k.laid es).derive := by
  by_cases hk : k = .email
  · subst hk
    cases hderive : (Kind.email.laid es).derive with
    | error mistake =>
      obtain ⟨before, e, after, hsplit, hfirst, hhit, rfl⟩ := derive_mail_eq_error_iff.mp hderive
      exact .duplicate h hcomplete hsplit hfirst hhit
    | ok w =>
      obtain ⟨m, hm, rfl⟩ := derive_mail_eq_ok_iff.mp hderive
      obtain ⟨hdistinct, hfilled⟩ := Header.normalize_eq_ok_iff.mp hm
      exact .mail h hcomplete hdistinct hfilled
  · rw [derive_of_ne hk]
    exact .other hk h hcomplete hpending

theorem verdict_validate {k : Kind} {es : Entries} (h : Binds k es) :
    Verdict k (.map es) (k.laid es).validate := by
  cases hmissing : Values.missing? (k.laid es) with
  | some name =>
    obtain ⟨i, hi, hfirst, rfl⟩ := (Values.missing?_eq_some_iff _).mp hmissing
    rw [validate, hmissing]
    exact .missing h hi hfirst
  | none =>
    have hcomplete := complete_iff.mpr hmissing
    rw [validate_of_complete hcomplete]
    cases hpending : (k.laid es).pending? with
    | none => exact verdict_derive h hcomplete hpending
    | some word =>
      by_cases hk : k = .hipchat
      · subst hk
        exact .rejected h hcomplete hpending
      · rw [pending?_eq_none_of_ne hk] at hpending
        cases hpending

theorem verdict_decode (k : Kind) : ∀ n : Node, Verdict k n (decode k n)
  | .map es => by
    rw [decode_map]
    cases hm : es.findSome? k.mistake? with
    | some mistake =>
      obtain ⟨before, e, after, rfl, he, hbefore⟩ := List.findSome?_eq_some_iff.mp hm
      obtain ⟨f, m, hf, rfl⟩ := Kind.mistake?_eq_some_iff_mistyped.mp he
      exact .mistyped (wellTyped_iff.mpr hbefore) hf
    | none =>
      have htyped : WellTyped k es := wellTyped_iff.mpr (List.findSome?_eq_none_iff.mp hm)
      by_cases hknown : es.filter k.isUnknown = []
      · simp only [if_pos hknown]
        exact verdict_validate ⟨htyped, hknown⟩
      · simp only [if_neg hknown]
        exact .unknown htyped hknown
  | .null | .bool _ | .int _ | .float _ | .text _ | .seq _ | .tagged _ _ =>
    .notMapping fun _ h => nomatch h

/-- **To decode a block is to find its verdict.** -/
theorem decode_eq_iff_verdict {k : Kind} {n : Node} {r : Except BlockError (Block k)} :
    decode k n = r ↔ Verdict k n r := by
  constructor
  · rintro rfl
    exact verdict_decode k n
  · intro h
    cases h with
    | notMapping h =>
      cases n with
      | map es => exact absurd rfl (h es)
      | _ => rfl
    | mistyped first h =>
      have hm := Kind.mistake?_eq_some_iff_mistyped.mpr ⟨_, _, h, rfl⟩
      rw [decode_map, List.findSome?_eq_some_iff.mpr ⟨_, _, _, rfl, hm, wellTyped_iff.mp first⟩]
    | unknown typed h => rw [decode_of_wellTyped typed, if_neg h]
    | missing binds h first =>
      rw [decode_of_binds binds, validate, (Values.missing?_eq_some_iff _).mpr ⟨_, h, first, rfl⟩]
    | rejected binds complete h =>
      rw [decode_of_binds binds, validate_of_complete complete, h]
      rfl
    | duplicate binds complete split first h =>
      rw [decode_of_binds binds, validate_of_complete complete]
      exact derive_mail_eq_error_iff.mpr ⟨_, _, _, split, first, h, rfl⟩
    | mail binds complete distinct filled =>
      rw [decode_of_binds binds, validate_of_complete complete]
      exact derive_mail_eq_ok_iff.mpr ⟨_, Header.normalize_eq_ok_iff.mpr ⟨distinct, filled⟩, rfl⟩
    | other hk binds complete settled =>
      rw [decode_of_binds binds, validate_of_complete complete, settled]
      exact derive_of_ne hk _

end

end Block
end AlertReceivers
