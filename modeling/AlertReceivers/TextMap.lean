/-
# Maps from text to text

A map lists its entries with the names in ascending order of code points, each
name once, so two maps are equal exactly when they hold the same texts under the
same names (`TextMap.ext_get?`). This is not the order in which a program meets
them: a hash table is gone through in whatever order (`TextMap.Walk`).

Key definitions: `TextMap`, `TextMap.get?`, `TextMap.insert`, `TextMap.ofList`, `TextMap.Walk`.
Key theorems: `TextMap.get?_insert`, `TextMap.ext_get?`, `TextMap.ofList_of_perm`.
-/

namespace AlertReceivers

/-- A map from text to text, in ascending order of its names. -/
structure TextMap where
  toList : List (String × String)
  ascending : toList.Pairwise fun a b => a.1 < b.1
deriving DecidableEq

namespace TextMap

/-! ### Entries in order -/

/-- Puts an entry into a list in ascending order; an entry with the same name is replaced. -/
def insertEntry (name value : String) : List (String × String) → List (String × String)
  | [] => [(name, value)]
  | e :: es =>
    if name < e.1 then (name, value) :: e :: es
    else if name = e.1 then (name, value) :: es
    else e :: insertEntry name value es

theorem mem_insertEntry (name value : String) : ∀ (es : List (String × String)) {x},
    x ∈ insertEntry name value es → x = (name, value) ∨ x ∈ es
  | [], x, h => by simpa [insertEntry] using h
  | e :: es, x, h => by
    unfold insertEntry at h
    split at h
    · simpa using h
    · split at h
      · rcases List.mem_cons.mp h with h | h
        · exact .inl h
        · exact .inr (List.mem_cons_of_mem _ h)
      · rcases List.mem_cons.mp h with rfl | h
        · exact .inr (List.mem_cons_self ..)
        · rcases mem_insertEntry name value es h with h | h
          · exact .inl h
          · exact .inr (List.mem_cons_of_mem _ h)

theorem ascending_insertEntry (name value : String) : ∀ (es : List (String × String)),
    (es.Pairwise fun a b => a.1 < b.1) → (insertEntry name value es).Pairwise fun a b => a.1 < b.1
  | [], _ => by simp [insertEntry]
  | e :: es, h => by
    have h' := List.pairwise_cons.mp h
    unfold insertEntry
    split
    · rename_i hlt
      refine List.pairwise_cons.mpr ⟨fun x hx => ?_, h⟩
      rcases List.mem_cons.mp hx with rfl | hx
      · exact hlt
      · exact String.lt_trans hlt (h'.1 x hx)
    · split
      · rename_i heq
        exact List.pairwise_cons.mpr ⟨fun x hx => heq ▸ h'.1 x hx, h'.2⟩
      · rename_i hlt heq
        refine List.pairwise_cons.mpr ⟨fun x hx => ?_, ascending_insertEntry name value es h'.2⟩
        rcases mem_insertEntry name value es hx with rfl | hx
        · have hle := String.not_lt.mp hlt
          by_cases hgt : e.1 < name
          · exact hgt
          · exact absurd (String.le_antisymm (String.not_lt.mp hgt) hle) heq
        · exact h'.1 x hx

/-! ### Maps -/

/-- The map without entries. -/
def empty : TextMap := ⟨[], .nil⟩

instance : Inhabited TextMap := ⟨empty⟩

/-- The text under a name. -/
def get? (m : TextMap) (name : String) : Option String := m.toList.lookup name

/-- Puts a text under a name. -/
def insert (m : TextMap) (name value : String) : TextMap :=
  ⟨insertEntry name value m.toList, ascending_insertEntry name value _ m.ascending⟩

/-- The map that results from putting in the entries one after the other. -/
def ofList (es : List (String × String)) : TextMap :=
  es.foldl (fun m e => m.insert e.1 e.2) empty

/-- The names of a map, in ascending order. -/
def names (m : TextMap) : List String := m.toList.map (·.1)

/-- Puts a text under a name unless there is one. -/
def insertIfNew (m : TextMap) (name value : String) : TextMap :=
  if (m.get? name).isSome then m else m.insert name value

/-! ### Looking up -/

theorem lookup_cons_eq (e : String × String) (es : List (String × String)) (x : String) :
    (e :: es).lookup x = if x = e.1 then some e.2 else es.lookup x := by
  rw [List.lookup_cons]
  by_cases h : x = e.1
  · simp [h]
  · have : (x == e.1) = false := by simpa using h
    simp [h, this]

theorem lookup_insertEntry (name value x : String) : ∀ (es : List (String × String)),
    (insertEntry name value es).lookup x = if x = name then some value else es.lookup x
  | [] => by simp [insertEntry]
  | e :: es => by
    unfold insertEntry
    split
    · rw [lookup_cons_eq]
    · split
      · rename_i heq
        rw [lookup_cons_eq, lookup_cons_eq, ← heq]
        by_cases h : x = name <;> simp [h]
      · rename_i heq
        rw [lookup_cons_eq, lookup_cons_eq, lookup_insertEntry name value x es]
        by_cases h : x = name
        · subst h
          simp [heq]
        · simp [h]

/-- After an insertion the name has the new text, and every other name what it had. -/
@[simp] theorem get?_insert (m : TextMap) (name value x : String) :
    (m.insert name value).get? x = if x = name then some value else m.get? x :=
  lookup_insertEntry name value x m.toList

theorem get?_insert_eq_none_iff {m : TextMap} {name value x : String} :
    (m.insert name value).get? x = none ↔ x ≠ name ∧ m.get? x = none := by
  rw [get?_insert]
  by_cases h : x = name <;> simp [h]

@[simp] theorem get?_empty (x : String) : empty.get? x = none := rfl

theorem get?_insertIfNew (m : TextMap) (name value x : String) :
    (m.insertIfNew name value).get? x =
      if x = name ∧ m.get? name = none then some value else m.get? x := by
  unfold insertIfNew
  split
  · rename_i h
    have : ¬ (x = name ∧ m.get? name = none) := by
      rintro ⟨-, h'⟩
      simp [h'] at h
    simp [this]
  · rename_i h
    have h : m.get? name = none := by simpa using h
    simp [h]

/-- A look-up finds the entries of a list that has no name twice. -/
theorem lookup_eq_some_iff : ∀ {es : List (String × String)} {name value : String},
    (es.map (·.1)).Nodup → (es.lookup name = some value ↔ (name, value) ∈ es)
  | [], _, _, _ => by simp
  | e :: es, name, value, h => by
    rw [List.map_cons, List.nodup_cons] at h
    rw [lookup_cons_eq, List.mem_cons]
    by_cases hn : name = e.1
    · subst hn
      rw [if_pos rfl, Option.some_inj]
      constructor
      · rintro rfl
        exact .inl rfl
      · rintro (hv | hv)
        · exact congrArg Prod.snd hv.symm
        · exact (h.1 (List.mem_map.mpr ⟨_, hv, rfl⟩)).elim
    · have hne : (name, value) ≠ e := fun he => hn (he ▸ rfl)
      rw [if_neg hn, lookup_eq_some_iff h.2]
      simp [hne]

/-- No name occurs twice in a map. -/
theorem nodup_names (m : TextMap) : (m.toList.map (·.1)).Nodup := by
  rw [List.Nodup, List.pairwise_map]
  refine m.ascending.imp fun {a b} h he => ?_
  rw [he] at h
  exact String.lt_irrefl _ h

/-- The entries of a map are what it holds. -/
theorem mem_toList_iff {m : TextMap} {name value : String} :
    (name, value) ∈ m.toList ↔ m.get? name = some value :=
  (lookup_eq_some_iff m.nodup_names).symm

theorem eq_of_ascending : ∀ {xs ys : List (String × String)},
    (xs.Pairwise fun a b => a.1 < b.1) → (ys.Pairwise fun a b => a.1 < b.1) →
    (∀ e, e ∈ xs ↔ e ∈ ys) → xs = ys
  | [], [], _, _, _ => rfl
  | [], y :: ys, _, _, h => by simpa using (h y).mpr (List.mem_cons_self ..)
  | x :: xs, [], _, _, h => by simpa using (h x).mp (List.mem_cons_self ..)
  | x :: xs, y :: ys, hx, hy, h => by
    have hx' := List.pairwise_cons.mp hx
    have hy' := List.pairwise_cons.mp hy
    have hxy : x = y := by
      rcases List.mem_cons.mp ((h x).mp (List.mem_cons_self ..)) with he | hm
      · exact he
      · rcases List.mem_cons.mp ((h y).mpr (List.mem_cons_self ..)) with he | hm'
        · exact he.symm
        · exact (String.lt_asymm (hy'.1 _ hm) (hx'.1 _ hm')).elim
    subst hxy
    have htail : ∀ e, e ∈ xs ↔ e ∈ ys := fun e => by
      constructor
      · intro he
        rcases List.mem_cons.mp ((h e).mp (List.mem_cons_of_mem _ he)) with rfl | hm
        · exact (String.lt_irrefl _ (hx'.1 _ he)).elim
        · exact hm
      · intro he
        rcases List.mem_cons.mp ((h e).mpr (List.mem_cons_of_mem _ he)) with rfl | hm
        · exact (String.lt_irrefl _ (hy'.1 _ he)).elim
        · exact hm
    rw [eq_of_ascending hx'.2 hy'.2 htail]

/-- Maps that hold the same are equal. -/
theorem ext_get? {m n : TextMap} (h : ∀ x, m.get? x = n.get? x) : m = n := by
  have : m.toList = n.toList := eq_of_ascending m.ascending n.ascending fun e => by
    rw [show e = (e.1, e.2) from rfl, mem_toList_iff, mem_toList_iff, h]
  cases m
  cases n
  simp_all

/-! ### Building a map -/

theorem get?_foldl : ∀ (es : List (String × String)) (m : TextMap) (x : String),
    (es.foldl (fun m e => m.insert e.1 e.2) m).get? x = (es.reverse.lookup x).or (m.get? x)
  | [], m, x => by simp
  | e :: es, m, x => by
    rw [List.foldl_cons, get?_foldl es, List.reverse_cons, List.lookup_append, get?_insert,
      lookup_cons_eq, Option.or_assoc]
    by_cases h : x = e.1 <;> simp [h]

/-- The last of equal names wins. -/
theorem get?_ofList (es : List (String × String)) (x : String) :
    (ofList es).get? x = es.reverse.lookup x := by
  rw [ofList, get?_foldl, get?_empty, Option.or_none]

/-- A map is rebuilt from its entries, in whatever order they come. -/
theorem ofList_of_perm {es : List (String × String)} {m : TextMap} (h : es.Perm m.toList) :
    ofList es = m := by
  have hnodup : (es.reverse.map (·.1)).Nodup :=
    ((es.reverse_perm.trans h).map (·.1)).nodup_iff.mpr m.nodup_names
  refine ext_get? fun x => Option.ext fun value => ?_
  rw [get?_ofList, lookup_eq_some_iff hnodup, List.mem_reverse, h.mem_iff, mem_toList_iff]

/-! ### Going through a map -/

/-- How maps are gone through, to normalize headers or to spell entries out. Of a hash
table nothing is known but that every entry comes up once. -/
class Walk where
  entries (m : TextMap) : List (String × String)
  perm (m : TextMap) : (entries m).Perm m.toList

namespace Walk

/-- The walk from the first name to the last. -/
@[reducible] def ascending : Walk := ⟨toList, fun _ => .refl _⟩

/-- The walk from the last name to the first. -/
@[reducible] def descending : Walk := ⟨fun m => m.toList.reverse, fun m => m.toList.reverse_perm⟩

end Walk

end TextMap
end AlertReceivers
