/-
# What a document may be

A document is accepted exactly if it is built as it should be at every level (`Node.IsDocument`,
`Node.IsDefinition`, `ListsBlocks`). What it comes to is said entry by entry (`Adds`, `Defines`).
Each operation of a load has an equivalence of this kind, from the blocks up to the document.

A mapping that is read from a text has no key twice, but nothing here depends on that: of several
values under `receivers` all must be right, and the last one counts.

Key definitions: `documentNames`, `ListsBlocks`, `Node.IsDefinition`, `IsSection`,
`Node.IsDocument`, `Node.definitions`, `Decodes`, `Adds`, `Defines`.
Key theorems: `Load.blocks_eq_ok_iff`, `Load.receivers_eq_ok_iff`, `Load.sections_eq_ok_iff`,
`Config.ofNode_eq_ok_iff`, `Config.ofNode_accepts`.
-/
import AlertReceivers.Config.Document
import AlertReceivers.Proofs.Binding
import AlertReceivers.Proofs.KeyName
import AlertReceivers.Proofs.Outcome
import Mathlib.Data.List.Forall2
import Mathlib.Data.Option.Basic

namespace AlertReceivers

/-! ### The form of a document -/

/-- The keys that a document or a definition may hold. -/
def documentNames : List String :=
  "receivers" :: foreignSections ++ "name" :: Kind.all.map Kind.blockKey

/-- An entry lists blocks of a kind, all of which can be decoded. -/
def ListsBlocks [TextMap.Walk] (k : Kind) (e : Node × Node) : Prop :=
  e.1 = .text k.blockKey ∧ ∃ items, e.2.items? = some items ∧ ∀ n ∈ items, ∃ b, Block.decode k n = .ok b

namespace Node

/-- The text under `name` in a mapping. -/
def definedName? : Node → Option String
  | .map es =>
    match Entries.value? es "name" with
    | some (.text name) => some name
    | _ => none
  | _ => none

/-- A node defines a receiver: it is a mapping with a name that is not empty, and apart from
names it only lists blocks. -/
def IsDefinition [TextMap.Walk] (n : Node) : Prop :=
  (∃ name, n.definedName? = some name ∧ name ≠ "") ∧
    ∃ es, n = .map es ∧ ∀ e ∈ es, e.1 = .text "name" ∨ ∃ k, ListsBlocks k e

/-- A node lists definitions of receivers with different names. -/
def ListsReceivers [TextMap.Walk] (n : Node) : Prop :=
  ∃ items, n.items? = some items ∧ (∀ d ∈ items, d.IsDefinition) ∧ (items.map definedName?).Nodup

end Node

/-- An entry holds receivers or is a section of other components. -/
def IsSection [TextMap.Walk] (e : Node × Node) : Prop :=
  e.1 = .text "receivers" ∧ e.2.ListsReceivers ∨ ∃ s ∈ foreignSections, e.1 = .text s

/-- The value under `receivers`, the last one if there are several. -/
def Entries.receivers? (es : Entries) : Option Node := value? es.reverse "receivers"

namespace Node

/-- A node is a document: a mapping of sections. -/
def IsDocument [TextMap.Walk] (n : Node) : Prop := ∃ es, n = .map es ∧ ∀ e ∈ es, IsSection e

/-- The definitions in a document. -/
def definitions : Node → List Node
  | .map es => ((Entries.receivers? es).bind items?).getD []
  | _ => []

end Node

/-! ### What a document comes to -/

/-- A node is decoded to an integration. -/
def Decodes [TextMap.Walk] (k : Kind) (n : Node) (i : Integration) : Prop :=
  ∃ b, Block.decode k n = .ok b ∧ i = ⟨k, b⟩

/-- What an entry adds to the integrations of a receiver. -/
inductive Adds [TextMap.Walk] (e : Node × Node) : List Integration → Prop where
  /-- The name adds nothing. -/
  | name (key : e.1 = .text "name") : Adds e []
  /-- A list adds its blocks in their order. -/
  | blocks {k : Kind} {items : List Node} {is : List Integration} (key : e.1 = .text k.blockKey)
    (listed : e.2.items? = some items) (all : List.Forall₂ (Decodes k) items is) : Adds e is

/-- A node defines a receiver, whose integrations are those of all entries in their order. -/
structure Defines [TextMap.Walk] (n : Node) (r : Receiver) : Prop where
  isNamed : n.definedName? = some r.name
  ne_empty : r.name ≠ ""
  isFilled : ∃ es parts, n = .map es ∧ List.Forall₂ Adds es parts ∧ r.integrations = parts.flatten

/-! ### Results one by one -/

theorem exists_forall₂_iff {α β : Type} {R : α → β → Prop} : ∀ {xs : List α},
    (∃ ys, List.Forall₂ R xs ys) ↔ ∀ x ∈ xs, ∃ y, R x y
  | [] => by simp
  | x :: xs => by
    rw [List.forall_mem_cons, ← exists_forall₂_iff]
    constructor
    · rintro ⟨_, h⟩
      cases h with
      | cons hx hxs => exact ⟨⟨_, hx⟩, _, hxs⟩
    · rintro ⟨⟨y, hy⟩, ys, hys⟩
      exact ⟨y :: ys, .cons hy hys⟩

theorem exists_decodes_iff [TextMap.Walk] {k : Kind} {ns : List Node} :
    (∃ is, List.Forall₂ (Decodes k) ns is) ↔ ∀ n ∈ ns, ∃ b, Block.decode k n = .ok b := by
  rw [exists_forall₂_iff]
  refine forall₂_congr fun n _ => ?_
  constructor
  · rintro ⟨i, b, hb, -⟩
    exact ⟨b, hb⟩
  · rintro ⟨b, hb⟩
    exact ⟨⟨k, b⟩, b, hb, rfl⟩

/-! ### Receivers -/

theorem isKeyword_of_mem_documentNames : ∀ {s : String}, s ∈ documentNames → isKeyword s = true := by
  decide +kernel

theorem blockKey_mem_documentNames (k : Kind) : k.blockKey ∈ documentNames :=
  List.mem_append_right _ (List.mem_cons_of_mem _ (List.mem_map_of_mem k.mem_all))

theorem keyName_eq_name_iff {n : Node} : keyName n = "name" ↔ n = .text "name" :=
  keyName_eq_iff (isKeyword_of_mem_documentNames (by decide))

theorem blockKey_ne_name (k : Kind) : k.blockKey ≠ "name" := by cases k <;> decide

/-- A key that is named by a block key is the block key. -/
theorem ofBlockKey?_keyName_eq_some_iff {n : Node} {k : Kind} :
    Kind.ofBlockKey? (keyName n) = some k ↔ n = .text k.blockKey := by
  rw [Kind.ofBlockKey?_eq_some_iff, eq_comm,
    keyName_eq_iff (isKeyword_of_mem_documentNames (blockKey_mem_documentNames k))]

namespace Load

theorem blocks_eq_ok_iff [TextMap.Walk] {name : String} {k : Kind} : ∀ {index : Nat} {ns : List Node}
    {is : List Integration},
    (blocks name k index ns).outcome = .ok is ↔ List.Forall₂ (Decodes k) ns is
  | _, [], is => by
    rw [blocks, outcome_pure, Except.ok.injEq, List.forall₂_nil_left_iff, eq_comm]
  | index, n :: ns, is => by
    rw [blocks, List.forall₂_cons_left_iff]
    cases hn : Block.decode k n with
    | error mistake => simp [Decodes, hn]
    | ok b =>
      simp only [outcome_bind, outcome_report, outcome_pure, Except.bind_eq_ok_iff, Except.ok.injEq]
      constructor
      · rintro ⟨_, -, rest, hrest, rfl⟩
        exact ⟨_, rest, ⟨b, hn, rfl⟩, blocks_eq_ok_iff.mp hrest, rfl⟩
      · rintro ⟨_, rest, ⟨b', hb', rfl⟩, hrest, rfl⟩
        rw [hn] at hb'
        cases hb'
        exact ⟨(), trivial, rest, blocks_eq_ok_iff.mpr hrest, rfl⟩

theorem blockList_eq_ok_iff [TextMap.Walk] {name : String} {key n : Node} {is : List Integration} :
    (blockList name (keyName key) n).outcome = .ok is ↔
      ∃ k items, key = .text k.blockKey ∧ n.items? = some items ∧
        List.Forall₂ (Decodes k) items is := by
  simp only [← ofBlockKey?_keyName_eq_some_iff]
  unfold blockList
  cases Kind.ofBlockKey? (keyName key) with
  | none => simp [refuse]
  | some k =>
    cases n.items? with
    | none => simp [refuse]
    | some items => simp [blocks_eq_ok_iff]

theorem entries_eq_ok_iff [TextMap.Walk] {name : String} : ∀ {es : Entries} {is : List Integration},
    (entries name es).outcome = .ok is ↔
      ∃ parts, List.Forall₂ Adds es parts ∧ is = parts.flatten
  | [], is => by simp [entries, eq_comm]
  | (key, n) :: es, is => by
    rw [entries]
    by_cases hkey : key = .text "name"
    · rw [if_pos (keyName_eq_name_iff.mpr hkey), entries_eq_ok_iff]
      constructor
      · rintro ⟨parts, hparts, rfl⟩
        exact ⟨[] :: parts, .cons (.name hkey) hparts, rfl⟩
      · rintro ⟨_, hall, rfl⟩
        obtain _ | ⟨hhere, hparts⟩ := hall
        cases hhere with
        | name _ => exact ⟨_, hparts, rfl⟩
        | @blocks k _ _ hblock _ _ =>
          exact absurd (Node.text.inj (hblock.symm.trans hkey)) (blockKey_ne_name k)
    · rw [if_neg (mt keyName_eq_name_iff.mp hkey)]
      simp only [outcome_bind, outcome_pure, Except.bind_eq_ok_iff, Except.ok.injEq]
      constructor
      · rintro ⟨here, hhere, rest, hrest, rfl⟩
        obtain ⟨k, items, hblock, hitems, hall⟩ := blockList_eq_ok_iff.mp hhere
        obtain ⟨parts, hparts, rfl⟩ := entries_eq_ok_iff.mp hrest
        exact ⟨here :: parts, .cons (.blocks hblock hitems hall) hparts, rfl⟩
      · rintro ⟨_, hall, rfl⟩
        obtain _ | ⟨hhere, hparts⟩ := hall
        cases hhere with
        | name hname => exact absurd hname hkey
        | blocks hblock hitems hall =>
          exact ⟨_, blockList_eq_ok_iff.mpr ⟨_, _, hblock, hitems, hall⟩, _,
            entries_eq_ok_iff.mpr ⟨_, hparts, rfl⟩, rfl⟩

theorem nameIn_eq_ok_iff {es : Entries} {name : String} :
    nameIn es = .ok name ↔ (Node.map es).definedName? = some name ∧ name ≠ "" := by
  unfold nameIn Node.definedName?
  simp only
  cases Entries.value? es "name" with
  | none => simp
  | some n =>
    cases n with
    | text s =>
      simp only [Option.some_inj]
      constructor
      · intro h
        split at h
        · cases h
        · rename_i hne
          cases h
          exact ⟨rfl, hne⟩
      · rintro ⟨rfl, hne⟩
        rw [if_neg hne]
    | _ => simp

theorem receiver_eq_ok_iff [TextMap.Walk] {n : Node} {r : Receiver} :
    (receiver n).outcome = .ok r ↔ Defines n r := by
  constructor
  · intro h
    unfold receiver at h
    split at h
    · rename_i es
      split at h
      · cases h
      · rename_i name hname
        simp only [outcome_bind, outcome_pure, Except.bind_eq_ok_iff, Except.ok.injEq] at h
        obtain ⟨is, his, rfl⟩ := h
        obtain ⟨hdefined, hne⟩ := nameIn_eq_ok_iff.mp hname
        obtain ⟨parts, hparts, rfl⟩ := entries_eq_ok_iff.mp his
        exact ⟨hdefined, hne, es, parts, rfl, hparts, rfl⟩
    · cases h
  · rintro ⟨hdefined, hne, es, parts, rfl, hparts, his⟩
    rw [receiver, nameIn_eq_ok_iff.mpr ⟨hdefined, hne⟩]
    simp only [outcome_bind, outcome_pure, Except.bind_eq_ok_iff, Except.ok.injEq]
    exact ⟨_, entries_eq_ok_iff.mpr ⟨parts, hparts, rfl⟩, his ▸ rfl⟩

/-- A definition is decoded, its name is compared with those before it, and then come the others. -/
theorem outcome_receivers_cons [TextMap.Walk] (seen : List String) (n : Node) (ns : List Node) :
    (receivers seen (n :: ns)).outcome = (do
      let r ← (receiver n).outcome
      if r.name ∈ seen then .error (.validation (.repeatedName r.name))
      else
        let rest ← (receivers (r.name :: seen) ns).outcome
        return r :: rest) := by
  rw [receivers, outcome_bind]
  refine bind_congr fun r => ?_
  split
  · rfl
  · rw [outcome_bind]
    rfl

theorem receivers_cons_eq_ok_iff [TextMap.Walk] {seen : List String} {n : Node} {ns : List Node}
    {rs : List Receiver} : (receivers seen (n :: ns)).outcome = .ok rs ↔
      ∃ r rest, (receiver n).outcome = .ok r ∧ r.name ∉ seen ∧
        (receivers (r.name :: seen) ns).outcome = .ok rest ∧ rs = r :: rest := by
  rw [outcome_receivers_cons, Except.bind_eq_ok_iff]
  constructor
  · rintro ⟨r, hr, h⟩
    split at h
    · cases h
    · rename_i hnew
      obtain ⟨rest, hrest, hrs⟩ := Except.bind_eq_ok_iff.mp h
      exact ⟨r, rest, hr, hnew, hrest, (Except.ok.inj hrs).symm⟩
  · rintro ⟨r, rest, hr, hnew, hrest, rfl⟩
    refine ⟨r, hr, ?_⟩
    rw [if_neg hnew, hrest]
    rfl

theorem receivers_eq_ok_iff [TextMap.Walk] : ∀ {seen : List String} {ns : List Node} {rs : List Receiver},
    (receivers seen ns).outcome = .ok rs ↔
      List.Forall₂ Defines ns rs ∧ (rs.map Receiver.name).Nodup ∧ ∀ r ∈ rs, r.name ∉ seen
  | seen, [], rs => by
    rw [receivers, outcome_pure, Except.ok.injEq, List.forall₂_nil_left_iff]
    constructor
    · rintro rfl
      exact ⟨rfl, List.nodup_nil, fun _ h => absurd h List.not_mem_nil⟩
    · rintro ⟨rfl, -⟩
      rfl
  | seen, n :: ns, rs => by
    rw [receivers_cons_eq_ok_iff]
    constructor
    · rintro ⟨r, rest, hr, hnew, hrest, rfl⟩
      obtain ⟨hall, hnodup, hseen⟩ := receivers_eq_ok_iff.mp hrest
      refine ⟨.cons (receiver_eq_ok_iff.mp hr) hall, ?_, ?_⟩
      · refine List.nodup_cons.mpr ⟨fun hmem => ?_, hnodup⟩
        obtain ⟨r', hr', hname⟩ := List.mem_map.mp hmem
        exact hseen r' hr' (hname ▸ List.mem_cons_self)
      · refine List.forall_mem_cons.mpr ⟨hnew, fun r' hr' hmem => ?_⟩
        exact hseen r' hr' (List.mem_cons_of_mem _ hmem)
    · rintro ⟨hall, hnodup, hseen⟩
      cases hall with
      | @cons _ r _ rest hr hrest =>
        obtain ⟨hfirst, hnodup⟩ := List.nodup_cons.mp hnodup
        obtain ⟨hnew, hseen⟩ := List.forall_mem_cons.mp hseen
        refine ⟨r, rest, receiver_eq_ok_iff.mpr hr, hnew,
          receivers_eq_ok_iff.mpr ⟨hrest, hnodup, fun r' hr' hmem => ?_⟩, rfl⟩
        rcases List.mem_cons.mp hmem with hname | hmem
        · exact hfirst (hname ▸ List.mem_map_of_mem hr')
        · exact hseen r' hr' hmem

end Load

/-! ### The form of a definition and its receiver -/

theorem exists_adds_iff [TextMap.Walk] {e : Node × Node} :
    (∃ is, Adds e is) ↔ e.1 = .text "name" ∨ ∃ k, ListsBlocks k e := by
  constructor
  · rintro ⟨is, h⟩
    cases h with
    | name hkey => exact .inl hkey
    | @blocks k items _ hkey hitems hall =>
      exact .inr ⟨k, hkey, items, hitems, exists_decodes_iff.mp ⟨is, hall⟩⟩
  · rintro (hkey | ⟨k, hkey, items, hitems, hall⟩)
    · exact ⟨[], .name hkey⟩
    · obtain ⟨is, his⟩ := exists_decodes_iff.mpr hall
      exact ⟨is, .blocks hkey hitems his⟩

theorem Adds.exists_decode [TextMap.Walk] {e : Node × Node} {is : List Integration} (h : Adds e is)
    {i : Integration} (hi : i ∈ is) : e.1 = .text i.kind.blockKey ∧
      ∃ items, e.2.items? = some items ∧ ∃ m ∈ items, Block.decode i.kind m = .ok i.block := by
  cases h with
  | name _ => cases hi
  | blocks key listed all =>
    obtain ⟨m, hm, b, hb, rfl⟩ := exists_mem_of_forall₂_right all i hi
    exact ⟨key, _, listed, m, hm, hb⟩

theorem Defines.exists_decode [TextMap.Walk] {n : Node} {r : Receiver} (h : Defines n r) {i : Integration}
    (hi : i ∈ r.integrations) : ∃ es, n = .map es ∧ ∃ e ∈ es, e.1 = .text i.kind.blockKey ∧
      ∃ items, e.2.items? = some items ∧ ∃ m ∈ items, Block.decode i.kind m = .ok i.block := by
  obtain ⟨es, parts, rfl, hparts, his⟩ := h.isFilled
  rw [his] at hi
  obtain ⟨part, hpart, hi⟩ := List.mem_flatten.mp hi
  obtain ⟨e, he, hadds⟩ := exists_mem_of_forall₂_right hparts part hpart
  exact ⟨es, rfl, e, he, hadds.exists_decode hi⟩

/-- Definitions are what defines a receiver. -/
theorem exists_defines_iff [TextMap.Walk] {n : Node} : (∃ r, Defines n r) ↔ n.IsDefinition := by
  constructor
  · rintro ⟨r, hname, hne, es, parts, rfl, hparts, -⟩
    refine ⟨⟨r.name, hname, hne⟩, es, rfl, fun e he => exists_adds_iff.mp ?_⟩
    exact exists_forall₂_iff.mp ⟨parts, hparts⟩ e he
  · rintro ⟨⟨name, hname, hne⟩, es, rfl, hes⟩
    obtain ⟨parts, hparts⟩ := exists_forall₂_iff.mpr fun e he => exists_adds_iff.mpr (hes e he)
    exact ⟨⟨name, parts.flatten⟩, hname, hne, es, parts, rfl, hparts, rfl⟩

theorem map_name_of_defines [TextMap.Walk] : ∀ {ns : List Node} {rs : List Receiver}, List.Forall₂ Defines ns rs →
    ns.map Node.definedName? = (rs.map Receiver.name).map some
  | _, _, .nil => rfl
  | _, _, .cons h hs => by
    rw [List.map_cons, List.map_cons, List.map_cons, h.isNamed, map_name_of_defines hs]

theorem nodup_names_iff [TextMap.Walk] {ns : List Node} {rs : List Receiver} (h : List.Forall₂ Defines ns rs) :
    (ns.map Node.definedName?).Nodup ↔ (rs.map Receiver.name).Nodup := by
  rw [map_name_of_defines h, List.nodup_map_iff (Option.some_injective _)]

/-! ### Documents -/

namespace Entries

theorem value?_cons_self (name : String) (n : Node) (es : Entries) :
    value? ((.text name, n) :: es) name = some n :=
  if_pos rfl

theorem value?_cons_of_ne {key : Node} {name : String} (h : key ≠ .text name) (n : Node)
    (es : Entries) : value? ((key, n) :: es) name = value? es name := by
  cases key with
  | text s => exact if_neg fun hs => h (congrArg Node.text hs)
  | _ => rfl

theorem value?_append : ∀ (xs ys : Entries) (name : String),
    value? (xs ++ ys) name = (value? xs name).or (value? ys name)
  | [], _, _ => rfl
  | (key, n) :: xs, ys, name => by
    rw [List.cons_append]
    by_cases hkey : key = .text name
    · rw [hkey, value?_cons_self, value?_cons_self, Option.some_or]
    · rw [value?_cons_of_ne hkey, value?_cons_of_ne hkey, value?_append xs ys name]

theorem mem_of_value? : ∀ {es : Entries} {name : String} {n : Node},
    value? es name = some n → (.text name, n) ∈ es
  | (key, m) :: es, name, n, h => by
    by_cases hkey : key = .text name
    · rw [hkey, value?_cons_self] at h
      rw [hkey, Option.some_inj.mp h]
      exact List.mem_cons_self
    · rw [value?_cons_of_ne hkey] at h
      exact List.mem_cons_of_mem _ (mem_of_value? h)

theorem receivers?_cons_self (n : Node) (es : Entries) :
    receivers? ((.text "receivers", n) :: es) = (receivers? es).or (some n) := by
  rw [receivers?, List.reverse_cons, value?_append, value?_cons_self, receivers?]

theorem receivers?_cons_of_ne {key : Node} (h : key ≠ .text "receivers") (n : Node) (es : Entries) :
    receivers? ((key, n) :: es) = receivers? es := by
  rw [receivers?, List.reverse_cons, value?_append, value?_cons_of_ne h, value?, Option.or_none,
    receivers?]

end Entries

namespace Load

theorem exists_receivers_iff [TextMap.Walk] {n : Node} :
    (∃ items rs, n.items? = some items ∧ (receivers [] items).outcome = .ok rs) ↔
      n.ListsReceivers := by
  constructor
  · rintro ⟨items, rs, hitems, hrs⟩
    obtain ⟨hall, hnodup, -⟩ := receivers_eq_ok_iff.mp hrs
    refine ⟨items, hitems, fun d hd => exists_defines_iff.mp ?_, (nodup_names_iff hall).mpr hnodup⟩
    exact exists_forall₂_iff.mp ⟨rs, hall⟩ d hd
  · rintro ⟨items, hitems, hall, hnodup⟩
    obtain ⟨rs, hrs⟩ := exists_forall₂_iff.mpr fun d hd => exists_defines_iff.mpr (hall d hd)
    refine ⟨items, rs, hitems, receivers_eq_ok_iff.mpr ⟨hrs, (nodup_names_iff hrs).mp hnodup, ?_⟩⟩
    exact fun _ _ => List.not_mem_nil

theorem keyName_eq_receivers_iff {n : Node} : keyName n = "receivers" ↔ n = .text "receivers" :=
  keyName_eq_iff (isKeyword_of_mem_documentNames (by decide))

theorem keyName_mem_foreignSections_iff {n : Node} :
    keyName n ∈ foreignSections ↔ ∃ s ∈ foreignSections, n = .text s := by
  have hword : ∀ s ∈ foreignSections, isKeyword s = true := fun s hs =>
    isKeyword_of_mem_documentNames (List.mem_cons_of_mem _ (List.mem_append_left _ hs))
  constructor
  · exact fun h => ⟨_, h, (keyName_eq_iff (hword _ h)).mp rfl⟩
  · rintro ⟨s, hs, rfl⟩
    exact hs

theorem isSection_receivers_iff [TextMap.Walk] {n : Node} : IsSection (.text "receivers", n) ↔ n.ListsReceivers := by
  constructor
  · rintro (⟨-, h⟩ | ⟨s, hs, hkey⟩)
    · exact h
    · rw [← Node.text.inj hkey] at hs
      exact absurd hs (by decide)
  · exact fun h => .inl ⟨rfl, h⟩

/-- The receivers among sections are listed as they should be. -/
theorem listsReceivers_of_receivers? [TextMap.Walk] {es : Entries} {n : Node} (hes : ∀ e ∈ es, IsSection e)
    (h : es.receivers? = some n) : n.ListsReceivers := by
  have hmem : (Node.text "receivers", n) ∈ es := List.mem_reverse.mp (Entries.mem_of_value? h)
  exact isSection_receivers_iff.mp (hes _ hmem)

/-- A list of receivers replaces the receivers so far. -/
theorem outcome_sections_cons_receivers [TextMap.Walk] {n : Node} {items : List Node} (hn : n.items? = some items)
    (rs : List Receiver) (es : Entries) :
    (sections rs ((.text "receivers", n) :: es)).outcome = (do
      let rs ← (receivers [] items).outcome
      (sections rs es).outcome) := by
  have hkey : keyName (.text "receivers") = "receivers" := keyName_eq_receivers_iff.mpr rfl
  rw [sections, if_pos hkey, hn]
  simp only [outcome_bind]

/-- The sections of a document are decoded if each of them may stand there, and the last
receivers are the result. -/
theorem sections_eq_ok_iff [TextMap.Walk] : ∀ {rs : List Receiver} {es : Entries} {out : List Receiver},
    (sections rs es).outcome = .ok out ↔ (∀ e ∈ es, IsSection e) ∧
      match es.receivers? with
      | none => out = rs
      | some n => ∃ items, n.items? = some items ∧ (receivers [] items).outcome = .ok out
  | rs, [], out => by
    simp [sections, Entries.receivers?, Entries.value?, eq_comm]
  | rs, (key, n) :: es, out => by
    rw [sections, List.forall_mem_cons]
    by_cases hkey : key = .text "receivers"
    · subst hkey
      rw [if_pos (keyName_eq_receivers_iff.mpr rfl), isSection_receivers_iff,
        Entries.receivers?_cons_self, ← exists_receivers_iff]
      cases hitems : n.items? with
      | none => simp [refuse]
      | some items =>
        simp only [outcome_bind, Except.bind_eq_ok_iff, sections_eq_ok_iff]
        constructor
        · rintro ⟨rs', hrs', hes, hout⟩
          refine ⟨⟨⟨items, rs', rfl, hrs'⟩, hes⟩, ?_⟩
          cases hlast : Entries.receivers? es with
          | none =>
            rw [hlast] at hout
            exact ⟨items, hitems, hout ▸ hrs'⟩
          | some m =>
            rw [hlast] at hout
            exact hout
        · rintro ⟨⟨⟨_, rs', ⟨⟩, hrs'⟩, hes⟩, hout⟩
          cases hlast : Entries.receivers? es with
          | none =>
            rw [hlast] at hout
            obtain ⟨items', hitems', hout⟩ := hout
            rw [hitems] at hitems'
            cases hitems'
            exact ⟨out, hout, hes, rfl⟩
          | some m =>
            rw [hlast] at hout
            exact ⟨rs', hrs', hes, hout⟩
    · rw [if_neg (mt keyName_eq_receivers_iff.mp hkey), Entries.receivers?_cons_of_ne hkey]
      by_cases hforeign : keyName key ∈ foreignSections
      · have hsection : IsSection (key, n) := .inr (keyName_mem_foreignSections_iff.mp hforeign)
        rw [if_pos hforeign, outcome_bind, outcome_report, and_iff_right hsection]
        exact sections_eq_ok_iff
      · have hsection : ¬ IsSection (key, n) := by
          rintro (⟨h, -⟩ | h)
          · exact hkey h
          · exact hforeign (keyName_mem_foreignSections_iff.mpr h)
        rw [if_neg hforeign]
        simp [refuse, hsection]

end Load

theorem Node.IsDocument.definitions [TextMap.Walk] {d : Node} (h : d.IsDocument) :
    (∀ n ∈ d.definitions, n.IsDefinition) ∧ (d.definitions.map definedName?).Nodup := by
  obtain ⟨es, rfl, hes⟩ := h
  rw [Node.definitions]
  cases hlast : Entries.receivers? es with
  | none => exact ⟨fun _ h => absurd h List.not_mem_nil, List.nodup_nil⟩
  | some n =>
    obtain ⟨items, hitems, hall, hnodup⟩ := Load.listsReceivers_of_receivers? hes hlast
    rw [Option.bind_some, hitems]
    exact ⟨hall, hnodup⟩

namespace Config

theorem ofNode_map [TextMap.Walk] (es : Entries) :
    ofNode (.map es) = Config.mk <$> (Load.sections [] es).outcome := by
  show (Load.document (.map es)).outcome = _
  rw [Load.document, Load.outcome_bind]
  cases (Load.sections [] es).outcome <;> rfl

/-- **What is accepted, and what it comes to.** -/
theorem ofNode_eq_ok_iff [TextMap.Walk] {d : Node} {c : Config} : ofNode d = .ok c ↔
    d.IsDocument ∧ List.Forall₂ Defines d.definitions c.receivers := by
  cases d with
  | map es =>
    have hform : (Node.map es).IsDocument ↔ ∀ e ∈ es, IsSection e := by
      constructor
      · rintro ⟨_, ⟨⟩, h⟩
        exact h
      · exact fun h => ⟨es, rfl, h⟩
    have hload : ofNode (.map es) = .ok c ↔ (Load.sections [] es).outcome = .ok c.receivers := by
      rw [ofNode_map, map_eq_pure_bind, Except.bind_eq_ok_iff]
      constructor
      · rintro ⟨rs, hrs, h⟩
        cases h
        exact hrs
      · exact fun h => ⟨_, h, rfl⟩
    rw [hload, Load.sections_eq_ok_iff, hform]
    refine and_congr_right fun hes => ?_
    have hnodup := (hform.mpr hes).definitions.2
    rw [Node.definitions] at hnodup ⊢
    cases hlast : Entries.receivers? es with
    | none => simp
    | some n =>
      obtain ⟨items, hitems, -⟩ := Load.listsReceivers_of_receivers? hes hlast
      rw [hlast, Option.bind_some, hitems, Option.getD_some] at hnodup
      simp only [Option.bind_some, hitems, Option.getD_some, Option.some_inj, exists_eq_left']
      rw [Load.receivers_eq_ok_iff]
      constructor
      · exact fun h => h.1
      · exact fun h => ⟨h, (nodup_names_iff h).mp hnodup, fun _ _ => List.not_mem_nil⟩
  | _ =>
    constructor
    · intro h
      cases h
    · rintro ⟨⟨es, hes, -⟩, -⟩
      cases hes

theorem nodup_names_of_ofNode [TextMap.Walk] {d : Node} {c : Config} (h : ofNode d = .ok c) :
    (c.receivers.map Receiver.name).Nodup := by
  obtain ⟨hform, hall⟩ := ofNode_eq_ok_iff.mp h
  exact (nodup_names_iff hall).mp hform.definitions.2

theorem receiver?_eq_some_iff {c : Config} (h : (c.receivers.map Receiver.name).Nodup)
    {name : String} {r : Receiver} :
    c.receiver? name = some r ↔ r ∈ c.receivers ∧ r.name = name := by
  rw [← beq_iff_eq (a := r.name)]
  refine find?_eq_some_iff_of_unique fun r hr r' hr' hname hname' => ?_
  exact List.inj_on_of_nodup_map h hr hr' ((beq_iff_eq.mp hname).trans (beq_iff_eq.mp hname').symm)

/-- **A document is accepted exactly if it has the form of one.** Its receivers are those of
its definitions, each with the blocks of all its lists. Their names differ, so a name finds the
receiver that has it. No key but a text is ever taken for one of the names that a document may hold. -/
theorem ofNode_accepts [TextMap.Walk] (d : Node) :
    ((∃ c, ofNode d = .ok c) ↔ d.IsDocument) ∧
      (∀ c, ofNode d = .ok c →
        List.Forall₂ Defines d.definitions c.receivers ∧
        (c.receivers.map Receiver.name).Nodup ∧
        (∀ name r, c.receiver? name = some r ↔ r ∈ c.receivers ∧ r.name = name) ∧
        ∀ name, c.receiver? name = none ↔ ∀ r ∈ c.receivers, r.name ≠ name) ∧
      ∀ key : Node, keyName key ∈ documentNames → key = .text (keyName key) := by
  refine ⟨?_, fun c h => ?_, fun key hkey => ?_⟩
  · constructor
    · rintro ⟨c, h⟩
      exact (ofNode_eq_ok_iff.mp h).1
    · intro h
      obtain ⟨rs, hrs⟩ := exists_forall₂_iff.mpr fun n hn =>
        exists_defines_iff.mpr (h.definitions.1 n hn)
      exact ⟨⟨rs⟩, ofNode_eq_ok_iff.mpr ⟨h, hrs⟩⟩
  · obtain ⟨-, hall⟩ := ofNode_eq_ok_iff.mp h
    have hnodup := nodup_names_of_ofNode h
    refine ⟨hall, hnodup, fun name r => receiver?_eq_some_iff hnodup, fun name => ?_⟩
    simp [receiver?]
  · exact (keyName_eq_iff (isKeyword_of_mem_documentNames hkey)).mp rfl

end Config
end AlertReceivers
