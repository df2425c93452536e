/-
# Which entry a table keeps

Of the entries of a table that have one name, one is kept, and it should be the last. Keys come
together in two steps: numbers and booleans are taken as their text while the mapping is built again,
and tags are removed while the table is filled. In both of them the later value wins. But in the first
one a key that is there keeps its place, so the second one meets the keys in the order in which they
came up. Of `1: a`, `!t "1": b` and `"1": c` the table keeps `b` (`Overtaken`).

Key definitions: `Overtaken`, `Entries.named`, `Entries.Prevails`, `Block.details?`.
Key theorems: `Entries.getLast?_keys_ofList_iff`, `Entries.exists_prevails`, `get?_of_prevails`,
`Block.get?_details_of_decode`.
-/
import AlertReceivers.Proofs.Layering
import AlertReceivers.Proofs.Seed
import AlertReceivers.Proofs.Table

namespace AlertReceivers

/-! ### Members that come up later -/

/-- Another member of a list comes up behind a member, and it was not there before. -/
def Overtaken {α : Type} (xs : List α) (a : α) : Prop :=
  ∃ before b after, xs = before ++ b :: after ∧ a ∈ before ∧ b ∉ before

namespace Overtaken

variable {α : Type} {xs : List α} {a b : α}

theorem mem (h : Overtaken xs a) : a ∈ xs := by
  obtain ⟨before, b, after, rfl, ha, -⟩ := h
  exact List.mem_append_left _ ha

/-- With one member more, a member is overtaken by this one, or it was before. -/
theorem concat_iff : Overtaken (xs ++ [b]) a ↔ Overtaken xs a ∨ a ∈ xs ∧ b ∉ xs := by
  constructor
  · rintro ⟨before, c, after, hsplit, ha, hc⟩
    cases after using List.reverseRecOn with
    | nil =>
      obtain ⟨rfl, hbc⟩ := List.append_inj' hsplit rfl
      cases hbc
      exact .inr ⟨ha, hc⟩
    | append_singleton after d =>
      have hsplit : xs ++ [b] = (before ++ c :: after) ++ [d] := by
        rw [hsplit, List.append_assoc, List.cons_append]
      obtain ⟨rfl, -⟩ := List.append_inj' hsplit rfl
      exact .inl ⟨before, c, after, rfl, ha, hc⟩
  · rintro (⟨before, c, after, rfl, ha, hc⟩ | ⟨ha, hb⟩)
    · exact ⟨before, c, after ++ [b], by rw [List.append_assoc, List.cons_append], ha, hc⟩
    · exact ⟨xs, b, [], rfl, ha, hb⟩

end Overtaken

/-! ### Keys that are texts -/

/-- Keys that are texts, under any tags, are the same only if they are equal. -/
theorem Node.same_iff_eq_of_asText? : ∀ {m n : Node} {s : String}, n.asText? = some s →
    (m.same n = true ↔ m = n)
  | m, .text t, _, _ => same_text_iff
  | .tagged t m, .tagged u n, s, h => by
    have hmn := same_iff_eq_of_asText? (m := m) (n := n) (s := s) h
    simp [same, hmn]
  | .null, .tagged _ _, _, _ | .bool _, .tagged _ _, _, _ | .int _, .tagged _ _, _, _
  | .float _, .tagged _ _, _, _ | .text _, .tagged _ _, _, _ | .seq _, .tagged _ _, _, _
  | .map _, .tagged _ _, _, _ => by simp [same]

theorem Node.same_eq_of_same {m n key : Node} {s : String} (hkey : key.asText? = some s)
    (h : m.same n = true) : m.same key = n.same key := by
  rw [Bool.eq_iff_iff, same_iff_eq_of_asText? hkey, same_iff_eq_of_asText? hkey]
  constructor
  · rintro rfl
    have hn : n.asText? = some s := (asText?_eq_of_same h).symm.trans hkey
    exact ((same_iff_eq_of_asText? hn).mp h).symm
  · rintro rfl
    exact (same_iff_eq_of_asText? hkey).mp h

namespace Entries

/-- A choice by keys is made before a mapping is built as well as after it. -/
theorem filter_ofList {p : Node × Node → Bool}
    (hp : ∀ e e' : Node × Node, e.1.same e'.1 = true → p e = p e') (es : Entries) :
    (ofList es).filter p = ofList (es.filter p) :=
  filter_update hp es []

/-- All keys have one text. -/
def Naming (name : String) (es : Entries) : Prop := ∀ e ∈ es, e.1.asText? = some name

theorem ofList_concat (es : Entries) (e : Node × Node) :
    ofList (es ++ [e]) = insert (ofList es) e.1 e.2 := by
  unfold ofList
  rw [List.foldl_append]
  rfl

section
variable {name : String}

theorem Naming.of_concat {es : Entries} {e : Node × Node} (h : Naming name (es ++ [e])) :
    Naming name es ∧ e.1.asText? = some name :=
  ⟨fun x hx => h x (List.mem_append_left _ hx),
    h e (List.mem_append_right es (List.mem_singleton.mpr rfl))⟩

theorem any_same_iff {es : Entries} {key : Node} (hkey : key.asText? = some name) :
    (es.any fun e => e.1.same key) = true ↔ key ∈ es.map Prod.fst := by
  rw [List.any_eq_true, List.mem_map]
  refine exists_congr fun e => and_congr_right fun _ => ?_
  exact Node.same_iff_eq_of_asText? hkey

theorem mem_keys_ofList_iff {es : Entries} (h : Naming name es) :
    ∀ key, key ∈ (ofList es).map Prod.fst ↔ key ∈ es.map Prod.fst := by
  induction es using List.reverseRecOn with
  | nil => exact fun key => Iff.rfl
  | append_singleton es e ih =>
    intro key
    obtain ⟨hes, he⟩ := h.of_concat
    have ih := ih hes
    rw [ofList_concat, keys_insert, List.map_append, List.mem_append, List.mem_append, ih key]
    split
    · -- the key was there, so it is none but those before
      rename_i hold
      have hmem : e.1 ∈ es.map Prod.fst := (ih e.1).mp ((any_same_iff he).mp hold)
      constructor
      · rintro (h | h)
        · exact .inl h
        · exact absurd h List.not_mem_nil
      · rintro (h | h)
        · exact .inl h
        · exact .inl (List.mem_singleton.mp h ▸ hmem)
    · rfl

theorem keys_ofList_concat {es : Entries} {e : Node × Node} (h : Naming name (es ++ [e])) :
    (e.1 ∈ es.map Prod.fst → (ofList (es ++ [e])).map Prod.fst = (ofList es).map Prod.fst) ∧
    (e.1 ∉ es.map Prod.fst →
      (ofList (es ++ [e])).map Prod.fst = (ofList es).map Prod.fst ++ [e.1]) := by
  obtain ⟨hes, he⟩ := h.of_concat
  rw [ofList_concat, keys_insert, ← mem_keys_ofList_iff hes e.1, ← any_same_iff he]
  constructor
  · intro hold
    rw [if_pos hold, List.append_nil]
  · intro hnew
    rw [if_neg hnew]

/-- The key that is last in a mapping that was built is the one that no other key overtakes. -/
theorem getLast?_keys_ofList_iff {es : Entries} (h : Naming name es) :
    ∀ key ∈ es.map Prod.fst, ((ofList es).map Prod.fst).getLast? = some key ↔
      ¬ Overtaken (es.map Prod.fst) key := by
  induction es using List.reverseRecOn with
  | nil => exact fun key hkey => absurd hkey List.not_mem_nil
  | append_singleton es e ih =>
    intro key hkey
    obtain ⟨hes, -⟩ := h.of_concat
    obtain ⟨hold, hnew⟩ := keys_ofList_concat h
    rw [List.map_append, List.map_singleton, Overtaken.concat_iff]
    rw [List.map_append, List.map_singleton, List.mem_append, List.mem_singleton] at hkey
    by_cases he : e.1 ∈ es.map Prod.fst
    · have hkey : key ∈ es.map Prod.fst := hkey.elim id fun h => h ▸ he
      rw [hold he, ih hes key hkey]
      simp [he]
    · rw [hnew he, List.getLast?_concat, Option.some_inj]
      constructor
      · rintro rfl
        rintro (h | h)
        · exact he h.mem
        · exact he h.1
      · intro hnot
        refine (hkey.resolve_left fun hmem => hnot (.inr ⟨hmem, he⟩)).symm

theorem ofList_of_forall_eq {es : Entries} {key : Node} (hkey : key.asText? = some name)
    (h : ∀ e ∈ es, e.1 = key) : ofList es = (es.getLast?.map fun e => (key, e.2)).toList := by
  induction es using List.reverseRecOn with
  | nil => rfl
  | append_singleton es e ih =>
    have he : e.1 = key := h e (List.mem_append_right es (List.mem_singleton.mpr rfl))
    have hsame : key.same key = true := (Node.same_iff_eq_of_asText? hkey).mpr rfl
    rw [ofList_concat, ih fun x hx => h x (List.mem_append_left [e] hx), List.getLast?_concat, he]
    cases es.getLast? with
    | none => rfl
    | some x =>
      show insert [(key, x.2)] key e.2 = [(key, e.2)]
      rw [insert, if_pos hsame]

end

/-! ### Entries under a name -/

/-- The entries of a mapping that have a name. -/
def named (es : Entries) (name : String) : Entries := es.filter fun e => e.1.wording? == some name

/-- The keys for a name, numbers and booleans taken as their text, in the order of the entries. -/
def keysFor (es : Entries) (name : String) : List Node := (es.named name).map fun e => e.1.spelled

/-- An entry prevails under its name: no other key for the name overtakes its key, and no later entry
has the key. -/
structure Prevails (es : Entries) (name : String) (e : Node × Node) : Prop where
  named : e.1.wording? = some name
  latest : ¬ Overtaken (es.keysFor name) e.1.spelled
  last : (es.filter fun x => x.1.spelled.same e.1.spelled).getLast? = some e

section
variable {es : Entries} {name : String} {e : Node × Node}

theorem mem_named_iff : e ∈ es.named name ↔ e ∈ es ∧ e.1.wording? = some name := by
  rw [named, List.mem_filter, beq_iff_eq]

theorem naming_named : Naming name (es.named name).spelled := by
  intro x hx
  obtain ⟨e, he, rfl⟩ := List.mem_map.mp hx
  exact (mem_named_iff.mp he).2

theorem map_fst_spelled_named : (es.named name).spelled.map Prod.fst = es.keysFor name := by
  unfold spelled keysFor
  rw [List.map_map]
  rfl

theorem spelled_mem_keysFor (he : e ∈ es) (hname : e.1.wording? = some name) :
    e.1.spelled ∈ es.keysFor name :=
  List.mem_map_of_mem (mem_named_iff.mpr ⟨he, hname⟩)

theorem mem_keys_named_iff (key : Node) :
    key ∈ (ofList (es.named name).spelled).map Prod.fst ↔ key ∈ es.keysFor name := by
  rw [mem_keys_ofList_iff naming_named, map_fst_spelled_named]

theorem getLast?_keys_named_iff {key : Node} (hkey : key ∈ es.keysFor name) :
    ((ofList (es.named name).spelled).map Prod.fst).getLast? = some key ↔
      ¬ Overtaken (es.keysFor name) key := by
  rw [← map_fst_spelled_named] at hkey ⊢
  exact getLast?_keys_ofList_iff naming_named key hkey

theorem Prevails.mem (h : es.Prevails name e) : e ∈ es :=
  (List.mem_filter.mp (List.mem_of_getLast? h.last)).1

theorem filter_same_named (hname : e.1.wording? = some name) :
    (es.named name).filter (fun x => x.1.spelled.same e.1.spelled) =
      es.filter fun x => x.1.spelled.same e.1.spelled := by
  unfold named
  rw [List.filter_filter]
  refine List.filter_congr fun x _ => ?_
  cases hsame : x.1.spelled.same e.1.spelled with
  | false => rfl
  | true =>
    have hx : x.1.wording? = some name := (Node.asText?_eq_of_same hsame).trans hname
    simp [hx]

/-- In the mapping that is built of the entries for a name, the entry that prevails is last. -/
theorem Prevails.getLast?_ofList (h : es.Prevails name e) :
    (ofList (es.named name).spelled).getLast? = some (e.1.spelled, e.2.spelled) := by
  let l : Entries := (es.named name).spelled
  have hkey : ((ofList l).map Prod.fst).getLast? = some e.1.spelled :=
    (getLast?_keys_named_iff (spelled_mem_keysFor h.mem h.named)).mpr h.latest
  rw [List.getLast?_map, Option.map_eq_some_iff] at hkey
  obtain ⟨x, hx, hxkey⟩ := hkey
  -- the mapping holds the key once, with the value of the last entry that has it
  have hvalue : (ofList l).filter (fun x => x.1.same e.1.spelled) =
      [(e.1.spelled, e.2.spelled)] := by
    have hchosen : l.filter (fun x => x.1.same e.1.spelled) =
        spelled (es.filter fun x => x.1.spelled.same e.1.spelled) := by
      rw [← filter_same_named h.named]
      exact List.filter_map
    have hkeys : ∀ x ∈ l.filter (fun x => x.1.same e.1.spelled), x.1 = e.1.spelled := fun x hx =>
      (Node.same_iff_eq_of_asText? h.named).mp (List.mem_filter.mp hx).2
    have hlast : (l.filter fun x => x.1.same e.1.spelled).getLast? = some (e.1.spelled, e.2.spelled) := by
      rw [hchosen, spelled, List.getLast?_map, h.last]
      rfl
    rw [filter_ofList (fun _ _ => Node.same_eq_of_same h.named), ofList_of_forall_eq h.named hkeys, hlast]
    rfl
  have hxmem : x ∈ (ofList l).filter fun x => x.1.same e.1.spelled := by
    rw [List.mem_filter, hxkey]
    exact ⟨List.mem_of_getLast? hx, (Node.same_iff_eq_of_asText? h.named).mpr rfl⟩
  rw [hvalue, List.mem_singleton] at hxmem
  rw [hx, hxmem]

/-- Of the entries for a name, one prevails. -/
theorem exists_prevails (h : ∃ e ∈ es, e.1.wording? = some name) : ∃ e, es.Prevails name e := by
  obtain ⟨e, he, hname⟩ := h
  -- the last key of the mapping that is built is not overtaken, and some entry is the last to have it
  have hne : (ofList (es.named name).spelled).map Prod.fst ≠ [] :=
    List.ne_nil_of_mem ((mem_keys_named_iff _).mpr (spelled_mem_keysFor he hname))
  obtain ⟨key, hkey⟩ : ∃ key, ((ofList (es.named name).spelled).map Prod.fst).getLast? = some key :=
    ⟨_, List.getLast?_eq_some_getLast hne⟩
  have hput : key ∈ es.keysFor name := (mem_keys_named_iff key).mp (List.mem_of_getLast? hkey)
  have hlatest : ¬ Overtaken (es.keysFor name) key := (getLast?_keys_named_iff hput).mp hkey
  obtain ⟨x, hx, rfl⟩ := List.mem_map.mp hput
  obtain ⟨hx, hxname⟩ := mem_named_iff.mp hx
  have hchosen : x ∈ es.filter fun y => y.1.spelled.same x.1.spelled :=
    List.mem_filter.mpr ⟨hx, (Node.same_iff_eq_of_asText? hxname).mpr rfl⟩
  obtain ⟨last, hlast⟩ : ∃ last, (es.filter fun y => y.1.spelled.same x.1.spelled).getLast? = some last :=
    ⟨_, List.getLast?_eq_some_getLast (List.ne_nil_of_mem hchosen)⟩
  have hsame : last.1.spelled = x.1.spelled :=
    (Node.same_iff_eq_of_asText? hxname).mp (List.mem_filter.mp (List.mem_of_getLast? hlast)).2
  refine ⟨last, ?_, ?_, ?_⟩
  · unfold Node.wording?
    rw [hsame]
    exact hxname
  · rwa [hsame]
  · rwa [hsame]

/-- The last entry for a name prevails if no other key for the name overtakes its key. -/
theorem prevails_of_last (hlast : (es.named name).getLast? = some e)
    (hlatest : ¬ Overtaken (es.keysFor name) e.1.spelled) : es.Prevails name e := by
  obtain ⟨-, hname⟩ := mem_named_iff.mp (List.mem_of_getLast? hlast)
  refine ⟨hname, hlatest, ?_⟩
  obtain ⟨before, hsplit⟩ := List.getLast?_eq_some_iff.mp hlast
  have hself : e.1.spelled.same e.1.spelled = true := (Node.same_iff_eq_of_asText? hname).mpr rfl
  rw [← filter_same_named hname, hsplit, List.filter_append, List.filter_singleton, hself]
  exact List.getLast?_concat

end

end Entries

/-! ### Tables -/

theorem lookup_of_tells {name : String} : ∀ {es : Entries} {ps : List (String × String)},
    List.Forall₂ Entries.Tells es ps →
    ps.lookup name = (es.find? fun e => e.1.asText? == some name).bind fun e => e.2.asText?
  | _, _, .nil => rfl
  | e :: es, p :: ps, .cons ⟨hname, hvalue⟩ hs => by
    rw [TextMap.lookup_cons_eq, List.find?_cons, hname]
    by_cases h : name = p.1
    · subst h
      simp [hvalue]
    · have hne : (some p.1 == some name) = false := by
        simpa using fun hp => h hp.symm
      rw [if_neg h, hne, lookup_of_tells hs]

/-- A table that is filled from entries holds under a name what the last of them tells that has it. -/
theorem TextMap.get?_ofList_of_tells {es : Entries} {ps : List (String × String)}
    (h : List.Forall₂ Entries.Tells es ps) (name : String) : (ofList ps).get? name =
      (es.filter fun e => e.1.asText? == some name).getLast?.bind fun e => e.2.asText? := by
  rw [get?_ofList, lookup_of_tells (List.forall₂_reverse_iff.mpr h), List.getLast?_filter]

theorem get?_of_prevails {es : Entries} {m : TextMap} (h : FieldType.table.read (.map es) = .ok m)
    {name : String} {e : Node × Node} (he : es.Prevails name e) :
    ∃ value, e.2.wording? = some value ∧ m.get? name = some value := by
  obtain ⟨ps, hall, rfl⟩ := FieldType.read_table_eq_ok_iff.mp h
  have hnamed : (Entries.ofList es.spelled).filter (fun x => x.1.asText? == some name) =
      Entries.ofList (es.named name).spelled := by
    rw [Entries.filter_ofList fun x y hxy => by rw [Node.asText?_eq_of_same hxy]]
    refine congrArg Entries.ofList ?_
    exact List.filter_map
  have hlast := he.getLast?_ofList
  rw [← hnamed] at hlast
  have hmem := (List.mem_filter.mp (List.mem_of_getLast? hlast)).1
  obtain ⟨p, -, -, hvalue⟩ := exists_mem_of_forall₂_left hall _ hmem
  refine ⟨p.2, hvalue, ?_⟩
  rw [TextMap.get?_ofList_of_tells hall, hlast]
  exact hvalue

/-! ### Details -/

namespace Block

/-- The details of an incident or an alert. -/
def details? : {k : Kind} → Block k → Option TextMap
  | .pagerduty, .cons _ (.cons _ (.cons _ (.cons _ (.cons _ (.cons details .nil))))) => some details
  | .opsgenie, .cons _ (.cons _ (.cons _ (.cons _ (.cons details .nil)))) => some details
  | _, _ => none

theorem read_details_laid {k : Kind} (hk : k = .pagerduty ∨ k = .opsgenie) {es given : Entries}
    {key : Node} (honly : es.filter (fun e => e.1.asText? == some "details") = [(key, .map given)])
    (htyped : WellTyped k es) : ∃ details, FieldType.table.read (.map given) = .ok details ∧
      (k.laid es).details? = some details := by
  rcases hk with rfl | rfl
  · have hread : FieldType.table.overlay TextMap.empty (.map given) =
        .ok (Values.get (Kind.pagerduty.laid es) ⟨5, by decide⟩) :=
      overlay_of_only (k := .pagerduty) (i := ⟨5, by decide⟩) (by decide) honly rfl htyped TextMap.empty
    exact ⟨_, FieldType.read_table_of_overlay hread, rfl⟩
  · have hread : FieldType.table.overlay TextMap.empty (.map given) =
        .ok (Values.get (Kind.opsgenie.laid es) ⟨4, by decide⟩) :=
      overlay_of_only (k := .opsgenie) (i := ⟨4, by decide⟩) (by decide) honly rfl htyped TextMap.empty
    exact ⟨_, FieldType.read_table_of_overlay hread, rfl⟩

/-- **Which details are kept.** If an incident or an alert is accepted and one entry of it names the
details, the names of the details are those that the table of this entry has. Under each of them
stands the text of an entry that prevails, and one does. The last entry that has the name is this
one, unless its key was there before and another key for the name came up in between. -/
theorem get?_details_of_decode [TextMap.Walk] {k : Kind} (hk : k = .pagerduty ∨ k = .opsgenie) {es given : Entries}
    {key : Node} {b : Block k}
    (honly : es.filter (fun e => e.1.asText? == some "details") = [(key, .map given)])
    (h : decode k (.map es) = .ok b) : ∃ details, b.details? = some details ∧ ∀ name,
      ((∃ value, details.get? name = some value) ↔ ∃ e ∈ given, e.1.wording? = some name) ∧
      (∀ e, (given.named name).getLast? = some e → ¬ Overtaken (given.keysFor name) e.1.spelled →
        ∃ value, e.2.wording? = some value ∧ details.get? name = some value) ∧
      (∀ e, given.Prevails name e →
        ∃ value, e.2.wording? = some value ∧ details.get? name = some value) ∧
      ((∃ e ∈ given, e.1.wording? = some name) → ∃ e, given.Prevails name e) := by
  obtain ⟨hbinds, hvalidate⟩ := decode_map_eq_ok_iff.mp h
  obtain ⟨details, hread, hdetails⟩ := read_details_laid hk honly hbinds.typed
  have hmail : k ≠ .email := by rcases hk with rfl | rfl <;> decide
  obtain ⟨-, -, hderive⟩ := validate_eq_ok_iff.mp hvalidate
  rw [derive_of_ne hmail] at hderive
  cases hderive
  have htable := tabulates_of_read hread
  refine ⟨details, hdetails, fun name => ⟨⟨?_, ?_⟩, fun e hlast hlatest => ?_,
    fun e he => get?_of_prevails hread he, Entries.exists_prevails⟩⟩
  · rintro ⟨value, hget⟩
    obtain ⟨e, he, hname, -⟩ := htable.given name value hget
    exact ⟨e, he, hname⟩
  · rintro ⟨e, he, hname⟩
    obtain ⟨name', value, hname', hget⟩ := htable.named e he
    rw [hname] at hname'
    cases hname'
    exact ⟨value, hget⟩
  · exact get?_of_prevails hread (Entries.prevails_of_last hlast hlatest)

section
attribute [local instance] TextMap.Walk.ascending

/-- With its tagged key in front, a name of an alert has the text of its last entry. -/
theorem get?_details_of_decode_tag_first :
    let given : Entries := [(.tagged "t" (.text "1"), .text "a"), (.int 1, .text "b"), (.text "1", .bool true)]
    ∃ b : Block .opsgenie, decode .opsgenie (.map [(.text "api_key", .text "k"),
      (.text "details", .map given)]) = .ok b ∧
      ∃ details, b.details? = some details ∧ details.get? "1" = some "true" := by
  intro given
  obtain ⟨b, hb⟩ : ∃ b, decode .opsgenie (.map [(.text "api_key", .text "k"),
      (.text "details", .map given)]) = .ok b := ⟨_, rfl⟩
  have hlatest : ¬ Overtaken (given.keysFor "1") (.text "1") := by
    have hkeys : given.keysFor "1" = [.tagged "t" (.text "1"), .text "1"] ++ [.text "1"] := by rfl
    have hfirst : [.tagged "t" (.text "1"), .text "1"] = [Node.tagged "t" (.text "1")] ++ [.text "1"] := rfl
    rw [hkeys, Overtaken.concat_iff, hfirst, Overtaken.concat_iff]
    rintro ((h | h) | h)
    · simpa using h.mem
    · simpa using h.1
    · simpa using h.2
  obtain ⟨details, hdetails, hkept⟩ := @get?_details_of_decode _ _ (.inr rfl) _ given (.text "details") b rfl hb
  obtain ⟨value, hvalue, hget⟩ := (hkept "1").2.1 (.text "1", .bool true) rfl hlatest
  cases hvalue
  exact ⟨b, hb, details, hdetails, hget⟩

/-- Of three entries for a name of an incident the second one is kept if its key alone has a tag. -/
theorem exists_details_overtaken :
    let given : Entries := [(.int 1, .text "a"), (.tagged "t" (.text "1"), .text "b"), (.text "1", .text "c")]
    given.Distinct ∧
    ∃ b : Block .pagerduty, decode .pagerduty (.map [(.text "service_key", .text "k"),
      (.text "details", .map given)]) = .ok b ∧
      ∃ details e, b.details? = some details ∧ (given.named "1").getLast? = some e ∧
        e.2.wording? = some "c" ∧ details.get? "1" = some "b" := by
  intro given
  have hdistinct : given.Distinct := by simp [given, Entries.Distinct, Node.same]
  exact ⟨hdistinct, _, rfl, _, (.text "1", .text "c"), rfl, rfl, rfl, by decide +kernel⟩

end

end Block
end AlertReceivers
