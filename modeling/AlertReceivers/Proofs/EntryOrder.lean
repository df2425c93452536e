/-
# The order of entries

The entries of a block may stand in any order, as long as no two of them name the same field
(`Kind.NamesOnce`). Only what a mistake lists in document order may differ. Of two entries for one
field, which takes a tag on a key, the later one counts.

Key definitions: `Kind.NamesOnce`, `SameUpToOrder`.
Key theorems: `Field.given_eq_of_perm`, `Values.laidOver_eq_of_perm`, `Block.decode_perm`.
-/
import AlertReceivers.Proofs.Verdict

namespace AlertReceivers

/-- No two entries name the same field of a kind. -/
def Kind.NamesOnce (k : Kind) (es : Entries) : Prop :=
  ∀ f ∈ k.fields, (es.filter f.isNamedBy).length ≤ 1

instance (k : Kind) (es : Entries) : Decidable (k.NamesOnce es) :=
  inferInstanceAs (Decidable (∀ f ∈ k.fields, (es.filter f.isNamedBy).length ≤ 1))

/-- Two results that differ in nothing but what depends on the order of entries. -/
inductive SameUpToOrder {k : Kind} :
    Except BlockError (Block k) → Except BlockError (Block k) → Prop where
  /-- The results are the same. -/
  | same (r : Except BlockError (Block k)) : SameUpToOrder r r
  /-- Both are mistakes of type, of whatever fields. -/
  | mistyped (field field' expected expected' reason reason' : String) :
    SameUpToOrder (.error (.invalidType k field expected reason))
      (.error (.invalidType k field' expected' reason'))
  /-- Both name the same unknown keys. -/
  | unknown {keys keys' : List String} (h : keys.Perm keys') :
    SameUpToOrder (.error (.unrecognizedFields k keys)) (.error (.unrecognizedFields k keys'))

/-! ### Entries in another order -/

theorem eq_of_perm_of_length_le_one {α : Type} {xs ys : List α} (hperm : xs.Perm ys)
    (h : xs.length ≤ 1) : xs = ys := by
  rcases xs with _ | ⟨x, _ | ⟨x', xs⟩⟩
  · exact hperm.nil_eq
  · exact (List.perm_singleton.mp hperm.symm).symm
  · simp at h

section
variable {k : Kind} {es es' : Entries}

theorem Kind.findSome?_mistake?_eq_none_iff_of_perm (hperm : es.Perm es') :
    es.findSome? k.mistake? = none ↔ es'.findSome? k.mistake? = none := by
  simp only [List.findSome?_eq_none_iff, hperm.mem_iff]

theorem Field.given_eq_of_perm (hperm : es.Perm es') (f : Field)
    (honce : (es.filter f.isNamedBy).length ≤ 1) : f.given es = f.given es' := by
  have hnamed : es.filter f.isNamedBy = es'.filter f.isNamedBy :=
    eq_of_perm_of_length_le_one (hperm.filter _) honce
  rw [f.given_eq_filterMap, f.given_eq_filterMap, hnamed]

theorem Values.laidOver_eq_of_perm {fs : List Field} (b : Values fs) (hperm : es.Perm es')
    (honce : ∀ f ∈ fs, (es.filter f.isNamedBy).length ≤ 1) : b.laidOver es = b.laidOver es' := by
  apply Values.ext_get
  intro i
  have hgiven := (fs.get i).given_eq_of_perm hperm (honce _ (List.get_mem fs i))
  rw [get_laidOver, get_laidOver, hgiven]

end

/-! ### Decoding -/

theorem Kind.exists_eq_invalidType_of_findSome? {k : Kind} {es : Entries} {mistake : BlockError}
    (h : es.findSome? k.mistake? = some mistake) :
    ∃ field expected reason, mistake = .invalidType k field expected reason := by
  obtain ⟨_, e, _, -, he, -⟩ := List.findSome?_eq_some_iff.mp h
  obtain ⟨f, m, -, -, rfl⟩ := mistake?_eq_some_iff.mp he
  exact ⟨_, _, _, rfl⟩

namespace Block

/-- **The order of entries makes no difference.** If no two entries of a mapping name the same
field, the mapping is decoded with the same result in any order of its entries: it is accepted with
the same block, or refused with the same mistake, but for which value of another type is named and
for the order in which the unknown keys are. -/
theorem decode_perm [TextMap.Walk] {k : Kind} {es es' : Entries} (hperm : es.Perm es') (honce : k.NamesOnce es) :
    SameUpToOrder (decode k (.map es)) (decode k (.map es')) := by
  have hnone := Kind.findSome?_mistake?_eq_none_iff_of_perm (k := k) hperm
  rw [decode_map, decode_map]
  cases hes : es.findSome? k.mistake? with
  | some mistake =>
    have hsome : es'.findSome? k.mistake? ≠ none := fun h => by
      rw [hnone.mpr h] at hes
      cases hes
    obtain ⟨mistake', hes'⟩ := Option.ne_none_iff_exists'.mp hsome
    obtain ⟨_, _, _, rfl⟩ := Kind.exists_eq_invalidType_of_findSome? hes
    obtain ⟨_, _, _, rfl⟩ := Kind.exists_eq_invalidType_of_findSome? hes'
    rw [hes']
    exact .mistyped ..
  | none =>
    have hunknown : (es.filter k.isUnknown).Perm (es'.filter k.isUnknown) := hperm.filter _
    have hlaid : k.laid es = k.laid es' := Values.laidOver_eq_of_perm (defaults k) hperm honce
    rw [hnone.mp hes]
    by_cases hknown : es.filter k.isUnknown = []
    · have hknown' : es'.filter k.isUnknown = [] := by
        rw [hknown] at hunknown
        exact hunknown.nil_eq.symm
      simp only [if_pos hknown, if_pos hknown', hlaid]
      exact .same _
    · have hknown' : es'.filter k.isUnknown ≠ [] := fun h => by
        rw [h] at hunknown
        exact hknown hunknown.eq_nil
      simp only [if_neg hknown, if_neg hknown']
      exact .unknown (hunknown.map _)

section
attribute [local instance] TextMap.Walk.ascending

/-- Unknown keys are all named in a block that is written backwards, though the value under one
field cannot be validated. -/
theorem decode_perm_backwards :
    let es : Entries := [(.text "icon", .null), (.tagged "t" (.text "channel"), .text ""),
      (.int 1, .text "x")]
    Kind.slack.NamesOnce es ∧ SameUpToOrder (decode .slack (.map es)) (decode .slack (.map es.reverse)) ∧
      decode .slack (.map es.reverse) = .error (.unrecognizedFields .slack ["1", "icon"]) := by
  intro es
  have honce : Kind.slack.NamesOnce es := by decide
  exact ⟨honce, decode_perm (List.reverse_perm es).symm honce, by rfl⟩

/-- Of two entries for one field the later one counts. -/
example :
    let first : Node × Node := (.text "url", .text "http://a")
    let second : Node × Node := (.tagged "t" (.text "url"), .text "http://b")
    decode .webhook (.map [first, second]) ≠ decode .webhook (.map [second, first]) := by
  decide

end

end Block
end AlertReceivers
