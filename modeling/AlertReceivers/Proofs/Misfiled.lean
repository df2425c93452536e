/-
# Blocks under the wrong key

A block is written without its kind, so nothing but the fields tells the kinds apart. Fields that two
kinds share have one type in both, so nothing is mistyped. Fields that the other kind does not have
are named. If there are none, the other kind has a required field that the block cannot hold. Only the
block of a request to a URL comes to this, since it has the one field `url`.

Key definitions: `Kind.fieldsOutside`.
Key theorems: `Kind.required_of_shared`, `Kind.keyNames_unknown_of_writes`,
`Block.decode_of_writes_other`.
-/
import AlertReceivers.Proofs.Verdict
import AlertReceivers.Proofs.Written

namespace AlertReceivers

/-! ### Fields of two kinds -/

namespace Kind

/-- The fields of a kind that another kind does not have, in their order. -/
def fieldsOutside (k j : Kind) : List String := k.fieldNames.filter fun name => !j.hasField name

/-- Fields of one name have one type. -/
theorem type_eq_of_name_eq (j k : Kind) :
    ∀ f ∈ j.fields, ∀ g ∈ k.fields, f.name = g.name → f.type = g.type := by
  cases j <;> cases k <;> decide

/-- A kind that has all fields of another kind needs one more, and none that both have. -/
theorem required_of_shared {j k : Kind} (hjk : j ≠ k) (h : k.fieldsOutside j = []) :
    (∃ f ∈ j.fields, f.required = true) ∧
      ∀ f ∈ j.fields, f.required = true → f.name ∉ k.fieldNames := by
  revert hjk h
  cases j <;> cases k <;> decide

theorem isMissing_default_of_required (k : Kind) :
    ∀ f ∈ k.fields, f.required = true → f.type.isMissing f.default = true := by
  cases k <;> decide

end Kind

/-! ### Written entries under another kind -/

theorem Values.keys_of_writes : ∀ {fs : List Field} {w : Values fs} {es : Entries}, w.Writes es →
    es.map Prod.fst = (fs.map Field.name).map .text
  | _, .nil, _, rfl => rfl
  | f :: _, .cons v rest, _, h => by
    obtain ⟨n, es, rfl, -, hes⟩ := h
    rw [List.map_cons, keys_of_writes hes, List.map_cons, List.map_cons]

section
variable {j k : Kind} {w : Block k} {es : Entries}

theorem Kind.mistake?_of_writes (hes : Values.Writes w es) (hw : Values.rejected? w = none) :
    ∀ e ∈ es, j.mistake? e = none := by
  intro e he
  obtain ⟨f, hf, hkey, g, hg⟩ := Values.of_mem_writes hes hw e he
  refine Option.eq_none_iff_forall_ne_some.mpr fun mistake hmistake => ?_
  obtain ⟨f', m, hfield, hm, -⟩ := mistake?_eq_some_iff.mp hmistake
  obtain ⟨hf', hname⟩ := field?_eq_some_iff.mp hfield
  have hsame : f'.name = f.name := by
    rw [hkey] at hname
    exact (Option.some_inj.mp hname).symm
  rw [type_eq_of_name_eq j k f' hf' f hf hsame, hg] at hm
  cases hm

/-- The keys of a written block that another kind does not know are those of its fields that the
other kind does not have. -/
theorem Kind.keyNames_unknown_of_writes (hes : Values.Writes w es) :
    Entries.keyNames (es.filter j.isUnknown) = k.fieldsOutside j := by
  let unknown : Node → Bool := fun key => !(key.asText?.any j.hasField)
  have hkeys : (es.filter j.isUnknown).map Prod.fst = (es.map Prod.fst).filter unknown := by
    rw [List.filter_map]
    rfl
  calc Entries.keyNames (es.filter j.isUnknown)
      = ((es.filter j.isUnknown).map Prod.fst).map keyName := by
        rw [Entries.keyNames, List.map_map]
        rfl
    _ = ((k.fieldNames.map Node.text).filter unknown).map keyName := by
        rw [hkeys, Values.keys_of_writes hes]
        rfl
    _ = k.fieldsOutside j := by
        rw [List.filter_map, List.map_map]
        exact List.map_id _

end

namespace Block

section
variable {j k : Kind} {w : Block k} {es : Entries}

theorem get_laid_of_writes (hes : Values.Writes w es) {i : Fin j.fields.length}
    (hi : (j.fields.get i).name ∉ k.fieldNames) :
    Values.get (j.laid es) i = (j.fields.get i).default := by
  have hunnamed : ∀ e ∈ es, (j.fields.get i).isNamedBy e = false := by
    intro e he
    have hkey : e.1 ∈ k.fieldNames.map Node.text := by
      have hkeys : es.map Prod.fst = k.fieldNames.map Node.text := Values.keys_of_writes hes
      rw [← hkeys]
      exact List.mem_map_of_mem he
    obtain ⟨name, hname, hkey⟩ := List.mem_map.mp hkey
    rw [Bool.eq_false_iff, ne_eq, Field.isNamedBy_iff, ← hkey]
    intro h
    have hsame : name = (j.fields.get i).name := Option.some_inj.mp h
    exact hi (hsame ▸ hname)
  rw [Kind.laid, Values.get_laidOver, Field.given_eq_nil hunnamed]
  exact Values.get_defaults j.fields i

/-- A required field that is not written is missing, or one before it. -/
theorem exists_missing_of_writes (hes : Values.Writes w es) (hjk : j ≠ k)
    (hshared : k.fieldsOutside j = []) : ∃ f ∈ j.fields, f.required = true ∧
      f.name ∉ k.fieldNames ∧ Values.missing? (j.laid es) = some f.name := by
  obtain ⟨⟨f, hf, hrequired⟩, hothers⟩ := Kind.required_of_shared hjk hshared
  obtain ⟨i, rfl⟩ := List.get_of_mem hf
  have hlacks : Values.lacks (j.laid es) i = true := by
    have hdefault := get_laid_of_writes hes (hothers _ hf hrequired)
    rw [Values.lacks, hrequired, hdefault, j.isMissing_default_of_required _ hf hrequired]
    rfl
  have hmissing : Values.missing? (j.laid es) ≠ none := fun hnone => by
    rw [(Values.missing?_eq_none_iff _).mp hnone i] at hlacks
    cases hlacks
  obtain ⟨name, hname⟩ := Option.ne_none_iff_exists'.mp hmissing
  obtain ⟨first, hfirst, -, rfl⟩ := (Values.missing?_eq_some_iff _).mp hname
  have hneeded : (j.fields.get first).required = true := (Bool.and_eq_true_iff.mp hfirst).1
  have hmem : j.fields.get first ∈ j.fields := List.get_mem _ first
  exact ⟨_, hmem, hneeded, hothers _ hmem hneeded, hname⟩

end

/-- **A block under the wrong key is refused.** A valid block of one kind that is written and read as
another kind is an error, and no value is mistyped. Its fields that the other kind does not have are
named, in their order; if there are none, a required field that it cannot hold is missing. -/
theorem decode_of_writes_other [TextMap.Walk] {j k : Kind} (hjk : j ≠ k) {b w : Block k} (h : b.validate = .ok w)
    {n : Node} (hn : w.Writes n) :
    (k.fieldsOutside j ≠ [] → decode j n = .error (.unrecognizedFields j (k.fieldsOutside j))) ∧
    (k.fieldsOutside j = [] → ∃ f ∈ j.fields, f.required = true ∧ f.name ∉ k.fieldNames ∧
      decode j n = .error (.missingField j f.name)) := by
  obtain ⟨-, hrejected, -⟩ := validate_eq_ok_iff.mp (validate_of_validate h)
  obtain ⟨es, rfl, hes⟩ := hn
  have htyped : WellTyped j es := wellTyped_iff.mpr (Kind.mistake?_of_writes hes hrejected)
  have hkeys : Entries.keyNames (es.filter j.isUnknown) = k.fieldsOutside j :=
    Kind.keyNames_unknown_of_writes hes
  constructor
  · intro houtside
    have hunknown : es.filter j.isUnknown ≠ [] := fun hnil => by
      rw [hnil] at hkeys
      exact houtside hkeys.symm
    rw [decode_of_wellTyped htyped, if_neg hunknown, hkeys]
  · intro hshared
    have hknown : es.filter j.isUnknown = [] := by
      rw [hshared] at hkeys
      exact List.map_eq_nil_iff.mp hkeys
    obtain ⟨f, hf, hrequired, hname, hmissing⟩ := exists_missing_of_writes hes hjk hshared
    refine ⟨f, hf, hrequired, hname, ?_⟩
    rw [decode_of_binds ⟨htyped, hknown⟩, validate, hmissing]

section
attribute [local instance] TextMap.Walk.ascending

/-- A request to a URL under the key of messages to a channel has no channel. -/
theorem decode_of_writes_other_webhook :
    let w : Block .webhook := .cons "http://a" .nil
    w.validate = .ok w ∧ ∃ f ∈ Kind.slack.fields, f.required = true ∧
      decode .slack w.toNode = .error (.missingField .slack f.name) := by
  intro w
  have hw : w.validate = .ok w := rfl
  obtain ⟨-, hshared⟩ := decode_of_writes_other (j := .slack) (by decide) hw w.writes_toNode
  obtain ⟨f, hf, hrequired, -, hmissing⟩ := hshared (by decide)
  exact ⟨hw, f, hf, hrequired, hmissing⟩

end

end Block
end AlertReceivers
