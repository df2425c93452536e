/-
# What a call sets

A call that sets a field in place finds no field of the name, or refuses the value, or takes it.
Only in the last case the block changes, and there in the one field. A word for a format that has
been put into its slot is dropped if the call fails.

Key theorems: `FieldType.assign_eq`, `Block.assign_eq_set?`, `Block.assign_cases`,
`Block.assign_frames`.
-/
import AlertReceivers.Block.Assignment
import AlertReceivers.Proofs.Null

namespace AlertReceivers

/-! ### Fields -/

namespace FieldType

theorem fill_eq (t : FieldType) (slot : t.Given) (n : Node) :
    t.fill slot n = match t.given? n with
      | .ok g => (.ok (), g.getD slot)
      | .error m => (.error m, slot) := by
  unfold fill given?
  by_cases hn : n.isNull = true
  · simp [hn]
  · rw [if_neg hn, if_neg hn]
    cases t.read n <;> rfl

theorem assign_eq : ∀ (t : FieldType) (v : t.Value) (n : Node),
    t.assign v n = match t.given? n with
      | .ok g => (.ok (), t.take v g)
      | .error m => (.error m, v)
  | format, s, n => by
    have hfill := format.fill_eq s.format.name n
    simp only [assign, hfill]
    cases format.given? n <;> rfl
  | text, v, n => text.fill_eq v n
  | secret, v, n => secret.fill_eq v n
  | integer, v, n => integer.fill_eq v n
  | boolean, v, n => boolean.fill_eq v n
  | tags, v, n => tags.fill_eq v n
  | table, v, n => table.fill_eq v n

end FieldType

/-! ### Blocks -/

/-- To set a field in place is to lay the value over it; the values stay where this gives none. -/
theorem Values.assign_eq_set? (k : Kind) : ∀ {fs : List Field} (b : Values fs) (name : String)
    (n : Node), b.assign k name n = match b.set? k name n with
      | none => (.ok false, b)
      | some (.ok c) => (.ok true, c)
      | some (.error mistake) => (.error mistake, b)
  | _, .nil, _, _ => rfl
  | f :: _, .cons v rest, name, n => by
    unfold assign set?
    by_cases hname : f.name = name
    · rw [if_pos hname, if_pos hname, FieldType.assign_eq, FieldType.overlay]
      cases f.type.given? n <;> rfl
    · rw [if_neg hname, if_neg hname, assign_eq_set? k rest]
      rcases rest.set? k name n with _ | _ | _ <;> rfl

namespace Block

section
variable {k : Kind} {b : Block k} {f : Field} {n : Node} {g : Option f.type.Given} {m : Mismatch}

theorem assign_eq_set? (b : Block k) (name : String) (n : Node) :
    b.assign name n = match b.set? name n with
      | none => (.ok false, b)
      | some (.ok c) => (.ok true, c)
      | some (.error mistake) => (.error mistake, b) := by
  have hvalues := Values.assign_eq_set? k b name n
  unfold assign set?
  rw [hvalues]
  rcases Values.set? k b name n with _ | _ | _ <;> rfl

theorem assign_eq_of_mem (hf : f ∈ k.fields) (b : Block k) (n : Node) :
    b.assign f.name n = match f.mistake? k (.text f.name, n) with
      | some mistake => (.error mistake, b)
      | none => (.ok true, Values.laidOver b [(.text f.name, n)]) := by
  rw [assign_eq_set?, set?_of_mem hf]
  cases f.mistake? k (.text f.name, n) <;> rfl

theorem assign_of_unknown {name : String} (h : name ∉ k.fieldNames) :
    b.assign name n = (.ok false, b) := by
  rw [assign_eq_set?, set?_of_unknown h]

theorem assign_of_error (hf : f ∈ k.fields) (h : f.type.given? n = .error m) :
    b.assign f.name n = (.error (f.mistake k m), b) := by
  rw [assign_eq_of_mem hf, Field.mistake?, h]

theorem assign_of_given (hf : f ∈ k.fields) (h : f.type.given? n = .ok g) :
    b.assign f.name n = (.ok true, Values.laidOver b [(.text f.name, n)]) := by
  rw [assign_eq_of_mem hf, Field.mistake?, h]

end

section
variable {k : Kind} {name : String} {i : Fin k.fields.length}

/-- **The cases of a call.** There is no field of the name, or its value is refused, or taken. -/
theorem assign_cases (k : Kind) (name : String) (n : Node) :
    name ∉ k.fieldNames ∨ ∃ f ∈ k.fields, f.name = name ∧
      ((∃ m, f.type.given? n = .error m) ∨ ∃ g, f.type.given? n = .ok g) := by
  by_cases hname : name ∈ k.fieldNames
  · obtain ⟨f, hf, hfname⟩ := List.mem_map.mp hname
    refine .inr ⟨f, hf, hfname, ?_⟩
    cases f.type.given? n with
    | error m => exact .inl ⟨m, rfl⟩
    | ok g => exact .inr ⟨g, rfl⟩
  · exact .inl hname

/-- What a call comes to does not depend on the block. -/
theorem fst_assign_eq (b c : Block k) (name : String) (n : Node) :
    (b.assign name n).1 = (c.assign name n).1 := by
  rcases assign_cases k name n with hname | ⟨f, hf, rfl, ⟨m, hm⟩ | ⟨g, hg⟩⟩
  · rw [assign_of_unknown hname, assign_of_unknown hname]
  · rw [assign_of_error hf hm, assign_of_error hf hm]
  · rw [assign_of_given hf hg, assign_of_given hf hg]

theorem snd_assign_of_ne (b : Block k) (n : Node) (h : (b.assign name n).1 ≠ .ok true) :
    (b.assign name n).2 = b := by
  rcases assign_cases k name n with hname | ⟨f, hf, rfl, ⟨m, hm⟩ | ⟨g, hg⟩⟩
  · rw [assign_of_unknown hname]
  · rw [assign_of_error hf hm]
  · rw [assign_of_given hf hg] at h
    exact absurd rfl h

theorem exists_given?_of_assign {b : Block k} {n : Node} (h : (b.assign name n).1 = .ok true)
    (hi : (k.fields.get i).name = name) : ∃ g, (k.fields.get i).type.given? n = .ok g := by
  subst hi
  cases hgiven : (k.fields.get i).type.given? n with
  | ok g => exact ⟨g, rfl⟩
  | error m =>
    rw [assign_of_error (List.get_mem _ i) hgiven] at h
    cases h

theorem get_assign_of_eq (b : Block k) (n : Node) (hi : (k.fields.get i).name = name) :
    Values.get (b.assign name n).2 i =
      ((k.fields.get i).type.assign (Values.get b i) n).2 := by
  subst hi
  have hf : k.fields.get i ∈ k.fields := List.get_mem _ i
  have hnamed : (k.fields.get i).isNamedBy (.text (k.fields.get i).name, n) = true :=
    Field.isNamedBy_iff.mpr rfl
  rw [FieldType.assign_eq]
  cases hgiven : (k.fields.get i).type.given? n with
  | error m => rw [assign_of_error hf hgiven]
  | ok g =>
    have htaken : (k.fields.get i).given [(.text (k.fields.get i).name, n)] = [g] :=
      Field.given_cons_of_named hnamed hgiven []
    rw [assign_of_given hf hgiven, Values.get_laidOver, htaken]
    rfl

theorem get_assign_of_ne (b : Block k) (n : Node) (hi : (k.fields.get i).name ≠ name) :
    Values.get (b.assign name n).2 i = Values.get b i := by
  rcases assign_cases k name n with hname | ⟨f, hf, rfl, ⟨m, hm⟩ | ⟨g, hg⟩⟩
  · rw [assign_of_unknown hname]
  · rw [assign_of_error hf hm]
  · have hnamed : (k.fields.get i).isNamedBy (.text f.name, n) = false := by
      rw [Bool.eq_false_iff, ne_eq, Field.isNamedBy_iff]
      exact fun h => hi (Option.some_inj.mp h).symm
    rw [assign_of_given hf hg, Values.get_laidOver, Field.given_singleton_of_unnamed hnamed]
    rfl

end

theorem setOrKeep_eq_assign {k : Kind} (b : Block k) (call : String × Node) :
    b.setOrKeep call = (b.assign call.1 call.2).2 := by
  rw [assign_eq_set?]
  unfold setOrKeep
  rcases b.set? call.1 call.2 with _ | _ | _ <;> rfl

/-- **A call sets one field, or nothing.** It says that there is no field exactly if the kind has
none of the name. If it refuses the value, the mistake is one of type: it names the kind, the field
and what the field needs. Unless it takes the value, the block is left as it is. If it takes the
value, the other fields stay as they are, and the field takes what the value gives it. So the field
depends on nothing but what it was: it is the same in two blocks afterwards if it was before. The
word that was rejected for a format belongs to its field here. -/
theorem assign_frames {k : Kind} (b : Block k) (name : String) (n : Node) :
    ((b.assign name n).1 = .ok false ↔ name ∉ k.fieldNames) ∧
    ((b.assign name n).1 = .ok false → (b.assign name n).2 = b) ∧
    (∀ mistake, (b.assign name n).1 = .error mistake → (b.assign name n).2 = b ∧
      ∃ f ∈ k.fields, f.name = name ∧ ∃ m, n.isNull = false ∧ f.type.read n = .error m ∧
        mistake = .invalidType k name f.type.expected m.message) ∧
    ((b.assign name n).1 = .ok true →
      (∀ i, (k.fields.get i).name ≠ name →
        Values.get (b.assign name n).2 i = Values.get b i) ∧
      (∀ i, (k.fields.get i).name = name → ∃ g, (k.fields.get i).type.given? n = .ok g ∧
        Values.get (b.assign name n).2 i = (k.fields.get i).type.take (Values.get b i) g) ∧
      ∀ c : Block k, (c.assign name n).1 = .ok true ∧
        ∀ i, (k.fields.get i).name = name → Values.get c i = Values.get b i →
          Values.get (c.assign name n).2 i = Values.get (b.assign name n).2 i) := by
  have hkept : (b.assign name n).1 ≠ .ok true → (b.assign name n).2 = b := b.snd_assign_of_ne n
  refine ⟨?_, fun h => hkept (by simp [h]), fun mistake h => ⟨hkept (by simp [h]), ?_⟩, fun h => ?_⟩
  · rcases assign_cases k name n with hname | ⟨f, hf, rfl, ⟨m, hm⟩ | ⟨g, hg⟩⟩
    · simp [assign_of_unknown hname, hname]
    · have hname : f.name ∈ k.fieldNames := List.mem_map_of_mem hf
      simp [assign_of_error hf hm, hname]
    · have hname : f.name ∈ k.fieldNames := List.mem_map_of_mem hf
      simp [assign_of_given hf hg, hname]
  · rcases assign_cases k name n with hname | ⟨f, hf, rfl, ⟨m, hm⟩ | ⟨g, hg⟩⟩
    · rw [assign_of_unknown hname] at h
      cases h
    · rw [assign_of_error hf hm] at h
      obtain ⟨hgiven, hread⟩ := FieldType.given?_eq_error_iff.mp hm
      exact ⟨f, hf, rfl, m, hgiven, hread, (Except.error.inj h).symm⟩
    · rw [assign_of_given hf hg] at h
      cases h
  · refine ⟨fun i hi => get_assign_of_ne b n hi, fun i hi => ?_, fun c => ⟨?_, fun i hi hsame => ?_⟩⟩
    · obtain ⟨g, hg⟩ := exists_given?_of_assign h hi
      refine ⟨g, hg, ?_⟩
      rw [get_assign_of_eq b n hi, FieldType.assign_eq, hg]
    · rw [fst_assign_eq c b, h]
    · rw [get_assign_of_eq c n hi, get_assign_of_eq b n hi, hsame]

end Block
end AlertReceivers
