/-
# What a null changes

A null gives a field nothing, so the field should keep what it has. All fields do, except that the
format of messages forgets a word that was rejected for it (`FieldType.settle`). The verdict changes
with it, unless a required field is empty.

Key definitions: `FieldType.settle`, `Values.settle`, `Block.settle`, `Block.sets`, `Block.Reached`.
Key theorems: `Values.laidOver_eq_settle`, `Block.settle_eq_self_iff`, `Block.set?_of_isNull`,
`Block.sets_filter_not_isNull`.
-/
import AlertReceivers.Proofs.Verdict

namespace AlertReceivers

/-! ### Values that are settled -/

/-- The value of a field without the word that was rejected for it. -/
def FieldType.settle : (t : FieldType) → t.Value → t.Value
  | format, s => ⟨FormatSetting.format s, none⟩
  | text, v | secret, v | integer, v | boolean, v | tags, v | table, v => v

/-- The values of fields without the words that were rejected for them. -/
def Values.settle {fs : List Field} (b : Values fs) : Values fs := b.map FieldType.settle

namespace FieldType

/-- Where nothing is given, a field takes its own value without the rejected word. -/
theorem take_none : ∀ (t : FieldType) (v : t.Value), t.take v none = t.settle v
  | format, s => FormatSetting.choose_name s s.format
  | text, _ | secret, _ | integer, _ | boolean, _ | tags, _ | table, _ => rfl

theorem settle_of_ne : ∀ {t : FieldType} (v : t.Value), t ≠ .format → t.settle v = v
  | format, _, h => absurd rfl h
  | text, _, _ | secret, _, _ | integer, _, _ | boolean, _, _ | tags, _, _ | table, _, _ => rfl

theorem isSettled_settle : ∀ {t : FieldType} (v : t.Value), t.isSettled (t.settle v)
  | format, _ => rfl
  | text, _ | secret, _ | integer, _ | boolean, _ | tags, _ | table, _ => trivial

theorem settle_of_isSettled : ∀ (t : FieldType) (v : t.Value), t.isSettled v → t.settle v = v
  | format, ⟨_, _⟩, rfl => rfl
  | text, _, _ | secret, _, _ | integer, _, _ | boolean, _, _ | tags, _, _ | table, _, _ => rfl

theorem isMissing_settle : ∀ (t : FieldType) (v : t.Value),
    t.isMissing (t.settle v) = t.isMissing v
  | format, _ | text, _ | secret, _ | integer, _ | boolean, _ | tags, _ | table, _ => rfl

end FieldType

namespace Values

theorem settle_cons {f : Field} {fs : List Field} (v : f.type.Value) (rest : Values fs) :
    (cons v rest).settle = .cons (f.type.settle v) rest.settle := rfl

theorem missing?_settle {fs : List Field} (b : Values fs) : b.settle.missing? = b.missing? :=
  missing?_map FieldType.isMissing_settle b

theorem rejected?_settle : ∀ {fs : List Field} (b : Values fs), b.settle.rejected? = none
  | _, .nil => rfl
  | _ :: _, .cons v rest =>
    rejected?_cons_eq_none_iff.mpr ⟨FieldType.isSettled_settle v, rejected?_settle rest⟩

theorem settle_eq_self_iff {fs : List Field} {b : Values fs} : b.settle = b ↔ b.rejected? = none := by
  constructor
  · intro h
    rw [← h, rejected?_settle]
  · exact map_eq_self FieldType.settle_of_isSettled

end Values

/-- What a null leaves in a field: the field is settled if the entry names it. -/
theorem Field.takeAll_given_of_isNull {f : Field} {e : Node × Node} (hnull : e.2.isNull = true)
    (v : f.type.Value) :
    f.type.takeAll v (f.given [e]) = if f.isNamedBy e then f.type.settle v else v := by
  cases hf : f.isNamedBy e with
  | true =>
    have hnone : f.type.given? e.2 = .ok none := if_pos hnull
    have hgiven : f.given [e] = [none] := given_cons_of_named hf hnone []
    rw [hgiven]
    exact f.type.take_none v
  | false =>
    rw [given_singleton_of_unnamed hf]
    rfl

namespace Values

/-- A null for every format settles all fields. -/
theorem laidOver_eq_settle {e : Node × Node} (hnull : e.2.isNull = true) : ∀ {fs : List Field}
    (b : Values fs), (∀ f ∈ fs, f.type = .format → f.isNamedBy e = true) → b.laidOver [e] = b.settle
  | _, .nil, _ => rfl
  | f :: fs, .cons v rest, h => by
    have hrest := laidOver_eq_settle hnull rest fun g hg => h g (List.mem_cons_of_mem f hg)
    rw [laidOver, settle_cons, hrest, Field.takeAll_given_of_isNull hnull]
    split
    · rfl
    · rename_i hf
      rw [FieldType.settle_of_ne v fun ht => hf (h f List.mem_cons_self ht)]

theorem laidOver_eq_self {e : Node × Node} (hnull : e.2.isNull = true) : ∀ {fs : List Field}
    (b : Values fs), (∀ f ∈ fs, f.isNamedBy e = true → f.type ≠ .format) → b.laidOver [e] = b
  | _, .nil, _ => rfl
  | f :: fs, .cons v rest, h => by
    have hrest := laidOver_eq_self hnull rest fun g hg => h g (List.mem_cons_of_mem f hg)
    rw [laidOver, hrest, Field.takeAll_given_of_isNull hnull]
    split
    · rename_i hf
      rw [FieldType.settle_of_ne v (h f List.mem_cons_self hf)]
    · rfl

end Values

theorem Kind.type_eq_format_iff {k : Kind} :
    ∀ f ∈ k.fields, f.type = .format ↔ f.name = "message_format" := by
  cases k <;> decide

theorem Kind.format_mem : Field.optional "message_format" .format ∈ Kind.hipchat.fields :=
  List.mem_of_getElem? (i := 5) rfl

namespace Block

/-- A block without a pending word. -/
def settle {k : Kind} (b : Block k) : Block k := Values.settle b

/-! ### Calls -/

/-- The block after a field has been set, which stays if the call is refused or names no field. -/
def setOrKeep {k : Kind} (b : Block k) (call : String × Node) : Block k :=
  match b.set? call.1 call.2 with
  | some (.ok c) => c
  | _ => b

/-- The block after a run of calls that set fields. -/
def sets {k : Kind} (b : Block k) (calls : List (String × Node)) : Block k := calls.foldl setOrKeep b

/-- A block that calls lead to, from the defaults of its kind or from nothing. -/
def Reached {k : Kind} (b : Block k) : Prop :=
  ∃ calls, b = (defaults k).sets calls ∨ b = (zero k).sets calls

/-! ### A null for a field -/

section
variable {k : Kind} {f : Field} {n : Node}

theorem set?_eq_laidOver_of_isNull (b : Block k) (hf : f ∈ k.fields) (hn : n.isNull = true) :
    b.set? f.name n = some (.ok (Values.laidOver b [(.text f.name, n)])) := by
  have hmistake : f.mistake? k (.text f.name, n) = none := by
    simp [Field.mistake?, FieldType.given?, hn]
  rw [set?_of_mem hf, hmistake]

theorem set?_eq_settle (b : Block k) (hf : f ∈ k.fields) (hformat : f.type = .format)
    (hn : n.isNull = true) : b.set? f.name n = some (.ok b.settle) := by
  have hlaid : Values.laidOver b [(.text f.name, n)] = b.settle := by
    refine Values.laidOver_eq_settle hn b fun g hg hg' => ?_
    rw [Field.isNamedBy_iff, (Kind.type_eq_format_iff g hg).mp hg',
      (Kind.type_eq_format_iff f hf).mp hformat]
    rfl
  rw [set?_eq_laidOver_of_isNull b hf hn, hlaid]

theorem set?_eq_self (b : Block k) (hf : f ∈ k.fields) (hformat : f.type ≠ .format)
    (hn : n.isNull = true) : b.set? f.name n = some (.ok b) := by
  have hlaid : Values.laidOver b [(.text f.name, n)] = b := by
    refine Values.laidOver_eq_self hn b fun g hg hnamed => ?_
    rw [Kind.eq_of_isNamedBy hg hf hnamed (Field.isNamedBy_iff.mpr rfl)]
    exact hformat
  rw [set?_eq_laidOver_of_isNull b hf hn, hlaid]

/-! ### The verdict after a null -/

/-- A block changes if it is settled while a word is pending, and only then. -/
theorem settle_eq_self_iff {b : Block k} : b.settle = b ↔ b.pending? = none :=
  Values.settle_eq_self_iff.trans rejected?_eq_none_iff

/-- A pending word is what is reported, unless a required field is empty. -/
theorem validate_settle_eq_iff [TextMap.Walk] {b : Block k} :
    b.settle.validate = b.validate ↔ b.pending? = none ∨ ¬ b.Complete := by
  cases hpending : b.pending? with
  | none => simp [settle_eq_self_iff.mpr hpending]
  | some word =>
    have hmissing : Values.missing? b.settle = Values.missing? b := Values.missing?_settle b
    by_cases hcomplete : b.Complete
    · -- only a chat has a format, and nothing is derived for a chat
      have hk : k ≠ .email := by
        rintro rfl
        cases hpending
      have hsettled : b.settle.validate = .ok b.settle :=
        validate_eq_ok_iff.mpr ⟨hmissing.trans (complete_iff.mp hcomplete),
          Values.rejected?_settle b, derive_of_ne hk _⟩
      rw [hsettled, validate_of_complete hcomplete, hpending]
      simp [hcomplete]
    · obtain ⟨name, hname⟩ := Option.ne_none_iff_exists'.mp (mt complete_iff.mpr hcomplete)
      simp [validate, hmissing, hname, hcomplete]

/-- **What a null changes.** A null is accepted for every field, in every block. It leaves the
block as it is unless it is given for the format while a word is pending. In this case the
verdict is another one, unless a required field is empty. -/
theorem set?_of_isNull [TextMap.Walk] (b : Block k) (hf : f ∈ k.fields) (hn : n.isNull = true) :
    ∃ c, b.set? f.name n = some (.ok c) ∧
      (c = b ↔ f.type ≠ .format ∨ b.pending? = none) ∧
      (c.validate = b.validate ↔ f.type ≠ .format ∨ b.pending? = none ∨ ¬ b.Complete) := by
  by_cases hformat : f.type = .format
  · refine ⟨b.settle, set?_eq_settle b hf hformat hn, ?_, ?_⟩
    · rw [settle_eq_self_iff]
      simp [hformat]
    · rw [validate_settle_eq_iff]
      simp [hformat]
  · exact ⟨b, set?_eq_self b hf hformat hn, by simp [hformat], by simp [hformat]⟩

end

section
attribute [local instance] TextMap.Walk.ascending

/-- A null for another field keeps the word that is pending. -/
theorem set?_of_isNull_prefix :
    let b := (defaults .hipchat).setOrKeep ("message_format", .text "markdown")
    b.pending? = some "markdown" ∧ b.set? "prefix" (.tagged "t" .null) = some (.ok b) := by
  intro b
  have hprefix : Field.optional "prefix" .text ∈ Kind.hipchat.fields :=
    List.mem_of_getElem? (i := 4) rfl
  have hnull : (Node.tagged "t" .null).isNull = true := rfl
  obtain ⟨c, hset, hkept, -⟩ := set?_of_isNull b hprefix hnull
  have hc : c = b := hkept.mpr (.inl (by decide))
  rw [hc] at hset
  exact ⟨rfl, hset⟩

/-- A block can be reached that a null changes: it is refused before and accepted after. -/
theorem exists_set?_null_ne : ∃ b : Block .hipchat, b.Reached ∧
    b.validate = .error (.invalidValue .hipchat "message_format" "markdown" ["html", "text"]) ∧
    ∃ c, b.set? "message_format" .null = some (.ok c) ∧ c ≠ b ∧ c.validate = .ok c := by
  refine ⟨(defaults .hipchat).sets [("auth_token", .text "t"), ("message_format", .text "markdown")],
    ⟨_, .inl rfl⟩, rfl, (defaults .hipchat).sets [("auth_token", .text "t")], rfl, ?_, rfl⟩
  decide

end

/-! ### Nulls in a run of calls -/

theorem setOrKeep_of_isNull {k : Kind} (b : Block k) {call : String × Node}
    (hn : call.2.isNull = true) (hcall : ∀ f ∈ k.fields, f.name = call.1 → f.type ≠ .format) :
    b.setOrKeep call = b := by
  unfold setOrKeep
  by_cases hname : call.1 ∈ k.fieldNames
  · obtain ⟨f, hf, hfname⟩ := List.mem_map.mp hname
    rw [← hfname, set?_eq_self b hf (hcall f hf hfname) hn]
  · rw [set?_of_unknown hname]

/-- **Nulls in a run.** Nulls that are not for a format can be left out of a run of calls. -/
theorem sets_filter_not_isNull {k : Kind} : ∀ (calls : List (String × Node)) (b : Block k),
    (∀ call ∈ calls, call.2.isNull = true → ∀ f ∈ k.fields, f.name = call.1 → f.type ≠ .format) →
    b.sets (calls.filter fun call => !call.2.isNull) = b.sets calls
  | [], _, _ => rfl
  | call :: calls, b, h => by
    have hrest := fun c => sets_filter_not_isNull calls (b := c) fun x hx =>
      h x (List.mem_cons_of_mem call hx)
    cases hn : call.2.isNull with
    | true =>
      have hkeep := setOrKeep_of_isNull b hn (h call List.mem_cons_self hn)
      rw [List.filter_cons, hn]
      show b.sets (calls.filter fun call => !call.2.isNull) = (b.setOrKeep call).sets calls
      rw [hkeep, hrest]
    | false =>
      rw [List.filter_cons, hn]
      exact hrest _

end Block
end AlertReceivers
