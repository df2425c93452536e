/-
# What a binding leaves

A binding goes through the entries of a mapping, but what it leaves can be said without its steps.
An entry makes a mistake, or none, whatever block it is laid over (`Kind.mistake?`). If no entry
makes one, every field takes what the entries that name it give (`Values.laidOver`).

Key definitions: `Field.isNamedBy`, `Kind.field?`, `Kind.mistake?`, `Values.laidOver`.
Key theorems: `Values.get_laidOver`, `Block.setEntry?_eq`, `Block.bindEntries_eq`.
-/
import AlertReceivers.Block.Binding
import Mathlib.Data.List.Nodup

namespace AlertReceivers

/-! ### Entries and fields -/

/-- Whether the key of an entry is the name of a field, under any tags. -/
def Field.isNamedBy (f : Field) (e : Node × Node) : Bool := e.1.asText? == some f.name

/-- The field of a kind that an entry names. -/
def Kind.field? (k : Kind) (e : Node × Node) : Option Field := k.fields.find? fun f => f.isNamedBy e

/-- The mistake of an entry that names a field. -/
def Field.mistake? (k : Kind) (f : Field) (e : Node × Node) : Option BlockError :=
  match f.type.given? e.2 with
  | .ok _ => none
  | .error m => some (f.mistake k m)

/-- The mistake of an entry of a block. -/
def Kind.mistake? (k : Kind) (e : Node × Node) : Option BlockError :=
  (k.field? e).bind fun f => f.mistake? k e

/-- What the entries that name a field give for it, in the order of the document. -/
def Field.given (f : Field) (es : Entries) : List (Option f.type.Given) :=
  es.filterMap fun e => if f.isNamedBy e then (f.type.given? e.2).toOption else none

theorem Field.given_eq_filterMap (f : Field) (es : Entries) :
    f.given es = (es.filter f.isNamedBy).filterMap fun e => (f.type.given? e.2).toOption := by
  unfold given
  rw [List.filterMap_filter]

theorem Field.isNamedBy_iff {f : Field} {e : Node × Node} :
    f.isNamedBy e = true ↔ e.1.asText? = some f.name := by
  simp [isNamedBy]

theorem Field.given_eq_nil {f : Field} {es : Entries} (h : ∀ e ∈ es, f.isNamedBy e = false) :
    f.given es = [] := by
  rw [given, List.filterMap_eq_nil_iff]
  intro e he
  simp [h e he]

theorem Field.given_singleton_of_unnamed {f : Field} {e : Node × Node} (h : f.isNamedBy e = false) :
    f.given [e] = [] :=
  given_eq_nil fun e' he' => by rwa [List.mem_singleton.mp he']

theorem Field.given_cons_of_named {f : Field} {e : Node × Node} {g : Option f.type.Given}
    (h : f.isNamedBy e = true) (hg : f.type.given? e.2 = .ok g) (es : Entries) :
    f.given (e :: es) = g :: f.given es := by
  simp [given, h, hg, Except.toOption]

theorem Field.name_eq_of_isNamedBy {f g : Field} {e : Node × Node} (hf : f.isNamedBy e = true)
    (hg : g.isNamedBy e = true) : f.name = g.name := by
  have h := (isNamedBy_iff.mp hf).symm.trans (isNamedBy_iff.mp hg)
  exact Option.some_inj.mp h

theorem Kind.eq_of_isNamedBy {k : Kind} {f g : Field} {e : Node × Node} (hf : f ∈ k.fields)
    (hg : g ∈ k.fields) (hfe : f.isNamedBy e = true) (hge : g.isNamedBy e = true) : f = g :=
  List.inj_on_of_nodup_map k.fieldNames_nodup hf hg (Field.name_eq_of_isNamedBy hfe hge)

/-- A search finds a member if no other one has what is searched for. -/
theorem find?_eq_some_iff_of_unique {α : Type} {p : α → Bool} {l : List α} {a : α}
    (h : ∀ a ∈ l, ∀ b ∈ l, p a = true → p b = true → a = b) :
    l.find? p = some a ↔ a ∈ l ∧ p a = true := by
  constructor
  · exact fun ha => ⟨List.mem_of_find?_eq_some ha, List.find?_some ha⟩
  · rintro ⟨ha, hpa⟩
    obtain ⟨b, hb⟩ : ∃ b, l.find? p = some b := by
      rw [← Option.isSome_iff_exists, List.find?_isSome]
      exact ⟨a, ha, hpa⟩
    rw [hb, h b (List.mem_of_find?_eq_some hb) a ha (List.find?_some hb) hpa]

theorem Kind.field?_eq_none_iff {k : Kind} {e : Node × Node} :
    k.field? e = none ↔ ∀ f ∈ k.fields, f.isNamedBy e = false := by
  simp [field?]

theorem Kind.field?_eq_some_iff {k : Kind} {e : Node × Node} {f : Field} :
    k.field? e = some f ↔ f ∈ k.fields ∧ e.1.asText? = some f.name := by
  rw [← Field.isNamedBy_iff]
  exact find?_eq_some_iff_of_unique fun f hf g hg => Kind.eq_of_isNamedBy hf hg

/-- A value of another type is a mistake unless it is null. -/
theorem FieldType.given?_eq_error_iff {t : FieldType} {n : Node} {m : Mismatch} :
    t.given? n = .error m ↔ n.isNull = false ∧ t.read n = .error m := by
  unfold given?
  by_cases hn : n.isNull = true
  · simp [hn]
  · rw [if_neg hn]
    cases t.read n <;> simp [Except.map, hn]

theorem FieldType.exists_eq_some_of_given? (t : FieldType) {n : Node} {g : Option t.Given}
    (hn : n.isNull = false) (h : t.given? n = .ok g) : ∃ x, g = some x := by
  unfold given? at h
  rw [hn] at h
  cases hread : t.read n with
  | error m =>
    rw [hread] at h
    cases h
  | ok x =>
    rw [hread] at h
    exact ⟨x, (Except.ok.inj h).symm⟩

theorem Kind.mistake?_eq_some_iff {k : Kind} {e : Node × Node} {mistake : BlockError} :
    k.mistake? e = some mistake ↔ ∃ f m, k.field? e = some f ∧ f.type.given? e.2 = .error m ∧
      mistake = .invalidType k f.name f.type.expected m.message := by
  unfold mistake? Field.mistake?
  rw [Option.bind_eq_some_iff]
  constructor
  · rintro ⟨f, hf, h⟩
    split at h
    · cases h
    · rename_i m hm
      exact ⟨f, m, hf, hm, (Option.some_inj.mp h).symm⟩
  · rintro ⟨f, m, hf, hm, rfl⟩
    exact ⟨f, hf, by rw [hm]; rfl⟩

theorem Kind.exists_given?_of_mistake? {k : Kind} {f : Field} {e : Node × Node} (hf : f ∈ k.fields)
    (hnamed : f.isNamedBy e = true) (h : k.mistake? e = none) :
    ∃ g, f.type.given? e.2 = .ok g := by
  have hfield : k.field? e = some f := field?_eq_some_iff.mpr ⟨hf, Field.isNamedBy_iff.mp hnamed⟩
  rw [mistake?, hfield, Option.bind_some, Field.mistake?] at h
  cases hg : f.type.given? e.2 with
  | ok g => exact ⟨g, rfl⟩
  | error m =>
    rw [hg] at h
    cases h

/-! ### Laying entries over values -/

/-- The value of a field after several things have been given for it. -/
def FieldType.takeAll (t : FieldType) (v : t.Value) (gs : List (Option t.Given)) : t.Value :=
  gs.foldl t.take v

/-- The values after every field has taken what the entries that name it give. -/
def Values.laidOver : {fs : List Field} → Values fs → Entries → Values fs
  | _, .nil, _ => .nil
  | f :: _, .cons v rest, es => .cons (f.type.takeAll v (f.given es)) (rest.laidOver es)

namespace Values

@[simp] theorem laidOver_nil : ∀ {fs : List Field} (b : Values fs), b.laidOver [] = b
  | _, .nil => rfl
  | f :: _, .cons v rest => by
    rw [laidOver, laidOver_nil rest]
    rfl

theorem laidOver_append : ∀ {fs : List Field} (b : Values fs) (xs ys : Entries),
    b.laidOver (xs ++ ys) = (b.laidOver xs).laidOver ys
  | _, .nil, _, _ => rfl
  | f :: _, .cons v rest, xs, ys => by
    have hgiven : f.given (xs ++ ys) = f.given xs ++ f.given ys := List.filterMap_append
    have htake : f.type.takeAll v (f.given (xs ++ ys)) =
        f.type.takeAll (f.type.takeAll v (f.given xs)) (f.given ys) := by
      rw [hgiven]
      exact List.foldl_append
    rw [laidOver, laidOver, laidOver, htake, laidOver_append rest xs ys]

/-- At its position a field has taken what the entries that name it give. -/
theorem get_laidOver : ∀ {fs : List Field} (b : Values fs) (es : Entries) (i : Fin fs.length),
    (b.laidOver es).get i = (fs.get i).type.takeAll (b.get i) ((fs.get i).given es)
  | _ :: _, .cons _ _, _, ⟨0, _⟩ => rfl
  | _ :: _, .cons _ rest, es, ⟨i + 1, h⟩ => get_laidOver rest es ⟨i, Nat.lt_of_succ_lt_succ h⟩

theorem laidOver_of_unnamed : ∀ {fs : List Field} (b : Values fs) {es : Entries},
    (∀ f ∈ fs, ∀ e ∈ es, f.isNamedBy e = false) → b.laidOver es = b
  | _, .nil, _, _ => rfl
  | f :: fs, .cons v rest, es, h => by
    have hgiven : f.given es = [] := Field.given_eq_nil (h f List.mem_cons_self)
    have hrest := laidOver_of_unnamed rest fun g hg => h g (List.mem_cons_of_mem f hg)
    rw [laidOver, hrest, hgiven]
    rfl

theorem laidOver_of_other {fs : List Field} (b : Values fs) {f : Field} {e : Node × Node}
    (hf : f.isNamedBy e = true) (hfs : f.name ∉ fs.map Field.name) : b.laidOver [e] = b := by
  refine laidOver_of_unnamed b fun g hg e' he' => ?_
  rw [List.mem_singleton.mp he']
  refine Bool.eq_false_iff.mpr fun hge => hfs ?_
  rw [← Field.name_eq_of_isNamedBy hge hf]
  exact List.mem_map_of_mem hg

/-- Laying an entry over a list of fields changes the field that it names, or makes
the mistake that it makes by itself. -/
theorem set?_eq (k : Kind) : ∀ {fs : List Field} (b : Values fs) {e : Node × Node} {name : String},
    (fs.map Field.name).Nodup → e.1.asText? = some name →
    b.set? k name e.2 = (fs.find? fun f => f.isNamedBy e).map fun f =>
      match f.mistake? k e with
      | some mistake => .error mistake
      | none => .ok (b.laidOver [e])
  | _, .nil, _, _, _, _ => rfl
  | f :: fs, .cons v rest, e, name, hfs, he => by
    have hfs := List.nodup_cons.mp hfs
    rw [set?]
    by_cases hname : f.name = name
    · have hf : f.isNamedBy e = true := by rw [Field.isNamedBy_iff, he, hname]
      have hrest : rest.laidOver [e] = rest := laidOver_of_other rest hf hfs.1
      rw [if_pos hname, List.find?_cons, hf, FieldType.overlay]
      simp only [Option.map_some]
      unfold Field.mistake?
      cases hg : f.type.given? e.2 with
      | error m => rfl
      | ok g =>
        have hgiven : f.given [e] = [g] := Field.given_cons_of_named hf hg []
        rw [laidOver, hrest, hgiven]
        rfl
    · have hf : f.isNamedBy e = false := by
        rw [Bool.eq_false_iff, ne_eq, Field.isNamedBy_iff, he]
        exact fun h => hname (Option.some_inj.mp h).symm
      have hgiven : f.given [e] = [] := Field.given_singleton_of_unnamed hf
      rw [if_neg hname, set?_eq k rest hfs.2 he, List.find?_cons, hf]
      cases fs.find? fun f => f.isNamedBy e with
      | none => rfl
      | some g =>
        cases hm : g.mistake? k e with
        | some mistake => simp [hm, Except.map]
        | none => simp [hm, Except.map, laidOver, hgiven, FieldType.takeAll]

end Values

/-! ### Binding -/

namespace Block

theorem setEntry?_eq {k : Kind} (b : Block k) (e : Node × Node) :
    b.setEntry? e = (k.field? e).map fun f =>
      match f.mistake? k e with
      | some mistake => .error mistake
      | none => .ok (Values.laidOver b [e]) := by
  unfold setEntry?
  split
  · rename_i name he
    exact Values.set?_eq k b k.fieldNames_nodup he
  · rename_i he
    have hfield : k.field? e = none := by
      rw [Kind.field?_eq_none_iff]
      intro f _
      simp [Field.isNamedBy, he]
    rw [hfield]
    rfl

/-- A node is laid over the field of a name as the entry of this name is. -/
theorem set?_of_mem {k : Kind} {f : Field} (hf : f ∈ k.fields) (b : Block k) (n : Node) :
    b.set? f.name n = some (match f.mistake? k (.text f.name, n) with
      | some mistake => .error mistake
      | none => .ok (Values.laidOver b [(.text f.name, n)])) := by
  have hfield : k.field? (.text f.name, n) = some f := Kind.field?_eq_some_iff.mpr ⟨hf, rfl⟩
  have hset : b.set? f.name n = _ := b.setEntry?_eq (.text f.name, n)
  rw [hset, hfield, Option.map_some]

theorem set?_of_unknown {k : Kind} {name : String} (h : name ∉ k.fieldNames) (b : Block k) (n : Node) :
    b.set? name n = none := by
  have hfield : k.field? (.text name, n) = none := by
    rw [Kind.field?_eq_none_iff]
    intro f hf
    rw [Bool.eq_false_iff, ne_eq, Field.isNamedBy_iff]
    intro hkey
    have hname : name = f.name := Option.some_inj.mp hkey
    exact h (hname ▸ List.mem_map_of_mem hf)
  have hset : b.set? name n = _ := b.setEntry?_eq (.text name, n)
  rw [hset, hfield, Option.map_none]

/-- **A binding field by field.** The first entry with a mistake ends a binding.
Otherwise every field has taken what the entries that name it give, and the entries
that name no field are left over. -/
theorem bindEntries_eq {k : Kind} : ∀ (es : Entries) (b : Block k),
    b.bindEntries es = match es.findSome? k.mistake? with
      | some mistake => .error mistake
      | none => .ok ⟨Values.laidOver b es, es.filter fun e => (k.field? e).isNone⟩
  | [], b => by
    rw [bindEntries]
    simp
  | e :: es, b => by
    rw [bindEntries, setEntry?_eq, List.findSome?_cons, Kind.mistake?]
    cases hfield : k.field? e with
    | none =>
      have hlaid : Values.laidOver b (e :: es) = Values.laidOver b es := by
        have he : Values.laidOver b [e] = b := by
          refine Values.laidOver_of_unnamed b fun f hf e' he' => ?_
          rw [List.mem_singleton.mp he']
          exact Kind.field?_eq_none_iff.mp hfield f hf
        rw [← List.singleton_append, Values.laidOver_append, he]
      rw [bindEntries_eq es b]
      simp only [Option.map_none, Option.bind_none]
      cases es.findSome? k.mistake? with
      | some mistake => rfl
      | none => simp [Except.map, hlaid, hfield]
    | some f =>
      simp only [Option.map_some, Option.bind_some]
      cases hm : f.mistake? k e with
      | some mistake => rfl
      | none =>
        simp only
        rw [bindEntries_eq es]
        cases es.findSome? k.mistake? with
        | some mistake => rfl
        | none => simp [hfield, ← Values.laidOver_append]

theorem bind_map_eq_ok_iff {k : Kind} {b : Block k} {es : Entries} {r : Bound k} :
    b.bind (.map es) = .ok r ↔ es.findSome? k.mistake? = none ∧
      r = ⟨Values.laidOver b es, es.filter fun e => (k.field? e).isNone⟩ := by
  rw [bind, bindEntries_eq]
  cases es.findSome? k.mistake? <;> simp [eq_comm]

end Block
end AlertReceivers
