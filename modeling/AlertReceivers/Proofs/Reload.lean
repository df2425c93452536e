/-
# Written configurations

A configuration is written kind by kind, so what is read back is the one that is grouped
(`Config.grouped`). It is written in the same way. Whether the first reading changes something can be
seen in the document: the blocks of one list stand together, so a receiver is grouped exactly if the
lists of its definition that are not empty come in the order of kinds (`Node.listedKinds`).

Key definitions: `Receiver.IsValid`, `Config.IsValid`, `Receiver.Writes`, `Config.Writes`,
`Node.listedKinds`.
Key theorems: `Config.ofNode_of_writes`, `Defines.grouped_eq_self_iff`, `Config.ofNode_of_ofNode`.
-/
import AlertReceivers.Proofs.Document
import AlertReceivers.Proofs.Grouping
import AlertReceivers.Proofs.Written

namespace AlertReceivers

/-! ### Valid configurations -/

/-- A receiver has a name and valid blocks. -/
structure Receiver.IsValid [TextMap.Walk] (r : Receiver) : Prop where
  name_ne_empty : r.name ≠ ""
  blocks : ∀ i ∈ r.integrations, i.block.validate = .ok i.block

/-- All receivers are valid, and their names differ. -/
structure Config.IsValid [TextMap.Walk] (c : Config) : Prop where
  receivers : ∀ r ∈ c.receivers, r.IsValid
  distinct : (c.receivers.map Receiver.name).Nodup

theorem Defines.isValid [TextMap.Walk] {n : Node} {r : Receiver} (h : Defines n r) : r.IsValid := by
  refine ⟨h.ne_empty, fun i hi => ?_⟩
  obtain ⟨_, -, _, -, -, _, -, m, -, hdecode⟩ := h.exists_decode hi
  exact Block.validate_of_decode hdecode

theorem Config.isValid_of_ofNode [TextMap.Walk] {d : Node} {c : Config} (h : ofNode d = .ok c) : c.IsValid := by
  refine ⟨fun r hr => ?_, nodup_names_of_ofNode h⟩
  obtain ⟨n, -, hn⟩ := exists_mem_of_forall₂_right (ofNode_eq_ok_iff.mp h).2 r hr
  exact hn.isValid

/-! ### Written configurations -/

/-- Whether an entry is the list of the blocks of a kind as a document holds it. -/
def Receiver.WritesKind (r : Receiver) (k : Kind) (e : Node × Node) : Prop :=
  ∃ ns, e = (.text k.blockKey, .seq ns) ∧
    List.Forall₂ (fun i n => i.block.Writes n) (r.ofKind k) ns

/-- Whether a node is a receiver as a document holds it. -/
def Receiver.Writes (r : Receiver) (n : Node) : Prop :=
  ∃ es, n = .map ((.text "name", .text r.name) :: es) ∧ List.Forall₂ r.WritesKind r.kinds es

/-- Whether a node is a configuration as a document holds it. -/
def Config.Writes (c : Config) (n : Node) : Prop :=
  ∃ ns, n = .map [(.text "receivers", .seq ns)] ∧ List.Forall₂ Receiver.Writes c.receivers ns

theorem Receiver.writes_toNode (r : Receiver) : r.Writes r.toNode := by
  refine ⟨_, rfl, ?_⟩
  rw [List.forall₂_map_right_iff, List.forall₂_same]
  intro k _
  refine ⟨_, rfl, ?_⟩
  rw [List.forall₂_map_right_iff, List.forall₂_same]
  exact fun i _ => i.block.writes_toNode

theorem Config.writes_toNode (c : Config) : c.Writes c.toNode := by
  refine ⟨_, rfl, ?_⟩
  rw [List.forall₂_map_right_iff, List.forall₂_same]
  exact fun r _ => r.writes_toNode

theorem Receiver.writes_grouped_iff {r : Receiver} {n : Node} : r.grouped.Writes n ↔ r.Writes n := by
  have hkind : r.grouped.WritesKind = r.WritesKind := by
    funext k e
    rw [WritesKind, WritesKind, ofKind_grouped]
  rw [Writes, Writes, hkind, kinds_grouped, name_grouped]

theorem Config.writes_grouped_iff {c : Config} {n : Node} : c.grouped.Writes n ↔ c.Writes n := by
  simp only [Writes, grouped, List.forall₂_map_left_iff, Receiver.writes_grouped_iff]

/-! ### Reading back -/

theorem Receiver.WritesKind.adds [TextMap.Walk] {r : Receiver} {k : Kind} {e : Node × Node} (hr : r.IsValid)
    (h : r.WritesKind k e) : Adds e (r.ofKind k) := by
  obtain ⟨ns, rfl, hns⟩ := h
  have hblocks : ∀ i ∈ r.ofKind k, i.kind = k ∧ i.block.validate = .ok i.block := fun i hi =>
    ⟨(mem_ofKind.mp hi).2, hr.blocks i (mem_ofKind.mp hi).1⟩
  refine .blocks rfl rfl (List.Forall₂.flip ?_)
  refine ((List.forall₂_and_left _ _).mpr ⟨hblocks, hns⟩).imp ?_
  rintro ⟨_, b⟩ n ⟨⟨rfl, hb⟩, hn⟩
  exact ⟨b, Block.decode_of_writes hb hn, rfl⟩

/-- A written receiver defines the grouped one. -/
theorem Receiver.Writes.defines [TextMap.Walk] {r : Receiver} {n : Node} (hr : r.IsValid) (h : r.Writes n) :
    Defines n r.grouped := by
  obtain ⟨es, rfl, hes⟩ := h
  have hparts : List.Forall₂ Adds es (r.kinds.map r.ofKind) := by
    refine List.forall₂_map_right_iff.mpr (List.Forall₂.flip (hes.imp ?_))
    exact fun k e he => he.adds hr
  have hall : r.grouped.integrations = ([] :: r.kinds.map r.ofKind).flatten := by
    rw [List.flatten_cons, List.nil_append, ← List.flatMap_def, flatMap_kinds]
  exact ⟨rfl, hr.name_ne_empty, _, _, rfl, .cons (.name rfl) hparts, hall⟩

/-- **A written configuration is read back grouped.** -/
theorem Config.ofNode_of_writes [TextMap.Walk] {c : Config} {n : Node} (hc : c.IsValid) (h : c.Writes n) :
    ofNode n = .ok c.grouped := by
  obtain ⟨ns, rfl, hns⟩ := h
  have hdefines : List.Forall₂ Defines ns c.grouped.receivers := by
    refine List.forall₂_map_right_iff.mpr (List.Forall₂.flip ?_)
    refine ((List.forall₂_and_left _ _).mpr ⟨hc.receivers, hns⟩).imp ?_
    exact fun r n hr => hr.2.defines hr.1
  have hnames : (c.grouped.receivers.map Receiver.name).Nodup := by
    rw [grouped, List.map_map]
    exact hc.distinct
  have hlisted : (Node.seq ns).ListsReceivers :=
    Load.exists_receivers_iff.mp ⟨ns, c.grouped.receivers, rfl,
      Load.receivers_eq_ok_iff.mpr ⟨hdefines, hnames, fun _ _ => List.not_mem_nil⟩⟩
  refine ofNode_eq_ok_iff.mpr ⟨⟨_, rfl, fun e he => ?_⟩, hdefines⟩
  rw [List.mem_singleton.mp he]
  exact Load.isSection_receivers_iff.mpr hlisted

/-! ### The order of lists -/

/-- The kind whose blocks an entry lists, if it lists any. -/
def listedKind? : Node × Node → Option Kind
  | (.text key, .seq (_ :: _)) => Kind.ofBlockKey? key
  | _ => none

/-- The kinds whose blocks a definition lists, in the order of its entries. -/
def Node.listedKinds : Node → List Kind
  | .map es => es.filterMap listedKind?
  | _ => []

/-- The integrations that an entry adds are of the kind that it lists, and there are some if
it lists a kind. -/
theorem Adds.kind_of_mem [TextMap.Walk] {e : Node × Node} {is : List Integration} (h : Adds e is) :
    listedKind? e = none ∧ is = [] ∨
      ∃ k, listedKind? e = some k ∧ is ≠ [] ∧ ∀ i ∈ is, i.kind = k := by
  obtain ⟨key, n⟩ := e
  cases h with
  | name hkey =>
    rw [show key = .text "name" from hkey]
    refine .inl ⟨?_, rfl⟩
    unfold listedKind?
    split
    · rename_i heq
      cases heq
      decide
    · rfl
  | @blocks k items _ hkey hitems hall =>
    rw [show key = .text k.blockKey from hkey]
    have hitems : n.items? = some items := hitems
    cases hall with
    | nil =>
      refine .inl ⟨?_, rfl⟩
      unfold listedKind?
      split
      · rename_i heq
        cases heq
        cases hitems
      · rfl
    | @cons m i ns is hm hns =>
      have hn : n = .seq (m :: ns) := by
        cases n with
        | seq _ => exact congrArg Node.seq (Option.some_inj.mp hitems)
        | _ => cases hitems
      rw [hn]
      refine .inr ⟨k, Kind.ofBlockKey?_eq_some_iff.mpr rfl, List.cons_ne_nil _ _, fun j hj => ?_⟩
      obtain ⟨m', -, b, -, rfl⟩ := exists_mem_of_forall₂_right (.cons hm hns) j hj
      rfl

theorem exists_mem_flatten_iff [TextMap.Walk] {k : Kind} : ∀ {es : Entries} {parts : List (List Integration)},
    List.Forall₂ Adds es parts →
    ((∃ i ∈ parts.flatten, i.kind = k) ↔ k ∈ es.filterMap listedKind?)
  | [], _, .nil => by simp
  | e :: es, is :: parts, .cons he hes => by
    rw [List.flatten_cons]
    obtain ⟨hkind, rfl⟩ | ⟨k', hkind, hne, his⟩ := he.kind_of_mem
    · rw [List.filterMap_cons_none hkind, List.nil_append, exists_mem_flatten_iff hes]
    · rw [List.filterMap_cons_some hkind, List.mem_cons, ← exists_mem_flatten_iff hes]
      obtain ⟨i, hi⟩ := List.exists_mem_of_ne_nil is hne
      constructor
      · rintro ⟨j, hj, rfl⟩
        rcases List.mem_append.mp hj with hj | hj
        · exact .inl (his j hj)
        · exact .inr ⟨j, hj, rfl⟩
      · rintro (rfl | ⟨j, hj, hk⟩)
        · exact ⟨i, List.mem_append_left _ hi, his i hi⟩
        · exact ⟨j, List.mem_append_right _ hj, hk⟩

/-- The integrations that entries add come in the order of kinds exactly if the lists do. -/
theorem pairwise_flatten_iff [TextMap.Walk] : ∀ {es : Entries} {parts : List (List Integration)},
    List.Forall₂ Adds es parts →
    ((parts.flatten.Pairwise fun i j => i.kind.rank ≤ j.kind.rank) ↔
      (es.filterMap listedKind?).Pairwise fun j k => j.rank ≤ k.rank)
  | [], _, .nil => by simp
  | e :: es, is :: parts, .cons he hes => by
    rw [List.flatten_cons]
    obtain ⟨hkind, rfl⟩ | ⟨k, hkind, hne, his⟩ := he.kind_of_mem
    · rw [List.filterMap_cons_none hkind, List.nil_append, pairwise_flatten_iff hes]
    · rw [List.filterMap_cons_some hkind, List.pairwise_append, List.pairwise_cons,
        pairwise_flatten_iff hes]
      obtain ⟨i, hi⟩ := List.exists_mem_of_ne_nil is hne
      constructor
      · rintro ⟨-, hrest, hle⟩
        refine ⟨fun k' hk' => ?_, hrest⟩
        obtain ⟨j, hj, rfl⟩ := (exists_mem_flatten_iff hes).mpr hk'
        rw [← his i hi]
        exact hle i hi j hj
      · rintro ⟨hle, hrest⟩
        refine ⟨List.pairwise_of_forall_mem_list fun i hi j hj => Nat.le_of_eq ?_, hrest,
          fun i hi j hj => ?_⟩
        · rw [his i hi, his j hj]
        · rw [his i hi]
          exact hle _ ((exists_mem_flatten_iff hes).mp ⟨j, hj, rfl⟩)

theorem Defines.grouped_eq_self_iff [TextMap.Walk] {n : Node} {r : Receiver} (h : Defines n r) :
    r.grouped = r ↔ n.listedKinds.Pairwise fun j k => j.rank ≤ k.rank := by
  obtain ⟨es, parts, rfl, hparts, his⟩ := h.isFilled
  rw [Receiver.grouped_eq_self_iff, his]
  exact pairwise_flatten_iff hparts

theorem forall_grouped_eq_self_iff [TextMap.Walk] : ∀ {ns : List Node} {rs : List Receiver},
    List.Forall₂ Defines ns rs →
    ((∀ r ∈ rs, r.grouped = r) ↔
      ∀ n ∈ ns, n.listedKinds.Pairwise fun j k => j.rank ≤ k.rank)
  | _, _, .nil => by simp
  | _, _, .cons h hs => by
    rw [List.forall_mem_cons, List.forall_mem_cons, h.grouped_eq_self_iff,
      forall_grouped_eq_self_iff hs]

/-- **A written document is a normal form.** What is written of a loaded configuration, with the
entries of tables in any order, loads as the configuration grouped by kind: the same receivers
in the same order, each with the same integrations of every kind. That configuration is written
as the first one. It is the first one exactly if every definition lists its blocks in the order of kinds. -/
theorem Config.ofNode_of_ofNode [TextMap.Walk] {d : Node} {c : Config} (h : ofNode d = .ok c) :
    c.Writes c.toNode ∧ (∀ n, c.Writes n → ofNode n = .ok c.grouped) ∧
      List.Forall₂ (fun r r' => r'.name = r.name ∧ r'.integrations = Kind.all.flatMap r.ofKind ∧
        r'.integrations.Perm r.integrations ∧ ∀ k, r'.ofKind k = r.ofKind k)
        c.receivers c.grouped.receivers ∧
      c.grouped.toNode = c.toNode ∧ (∀ n, c.grouped.Writes n ↔ c.Writes n) ∧
      (c.grouped = c ↔
        ∀ n ∈ d.definitions, n.listedKinds.Pairwise fun j k => j.rank ≤ k.rank) := by
  refine ⟨c.writes_toNode, fun n hn => ofNode_of_writes (isValid_of_ofNode h) hn, ?_,
    c.toNode_grouped, fun _ => writes_grouped_iff, ?_⟩
  · rw [grouped, List.forall₂_map_right_iff, List.forall₂_same]
    exact fun r _ => ⟨rfl, rfl, r.perm_grouped, r.ofKind_grouped⟩
  · rw [grouped_eq_self_iff]
    exact forall_grouped_eq_self_iff (ofNode_eq_ok_iff.mp h).2

section
attribute [local instance] TextMap.Walk.ascending

/-- A definition that lists pushes before web hooks is read back with the web hooks first. -/
theorem Config.ofNode_of_ofNode_push :
    ∃ d c, ofNode d = .ok c ∧ ofNode c.toNode = .ok c.grouped ∧ c.grouped ≠ c := by
  let d : Node := .map [(.text "global", .null), (.text "receivers", .seq [.map [
    (.text "pushover_configs", .seq [.map [(.text "token", .text "t"), (.text "user_key", .text "u")]]),
    (.text "name", .text "on call"),
    (.text "webhook_configs", .seq [.map [(.text "url", .text "http://a")],
      .map [(.text "url", .text "http://b")]])]])]
  obtain ⟨c, h⟩ : ∃ c, ofNode d = .ok c := ⟨_, rfl⟩
  obtain ⟨hwrites, hread, -, -, -, hgrouped⟩ := ofNode_of_ofNode h
  have hpush : ¬ ∀ n ∈ d.definitions, n.listedKinds.Pairwise fun j k => j.rank ≤ k.rank := by
    decide +kernel
  exact ⟨d, c, h, hread _ hwrites, mt hgrouped.mp hpush⟩

end

end AlertReceivers
