/-
# Where a mistake is

A load goes through the sections, the definitions, the entries and the blocks in their order, so the
block that is reported is the first one that has a mistake. `Place` is what stands up to it in a
document, and `Rest` what follows it. The rest has no part in the error, but for the name of the
definition, which may stand behind its blocks.

Key definitions: `BlockError.IsOf`, `Place`, `Rest`, `Place.document`, `Place.IsReached`.
Key theorems: `Block.isOf_of_decode`, `Load.receivers_eq_receiver_error_iff`,
`Config.ofNode_eq_receiver_error_iff`, `Config.ofNode_locates`.
-/
import AlertReceivers.Proofs.Document
import AlertReceivers.Proofs.Verdict

namespace AlertReceivers

/-! ### Mistakes of a kind -/

namespace BlockError

/-- The kind that a mistake names. -/
def kind? : BlockError → Option Kind
  | missingField kind _ | invalidValue kind _ _ _ | unrecognizedFields kind _
  | invalidType kind _ _ _ | invalidBlock kind _ => some kind
  | duplicateHeader _ => none

/-- The field that a mistake names. -/
def field? : BlockError → Option String
  | missingField _ field | invalidValue _ field _ _ | invalidType _ field _ _ => some field
  | duplicateHeader _ | unrecognizedFields _ _ | invalidBlock _ _ => none

/-- A mistake that a block of a kind can have: it names this kind and a field of it, headers are
repeated in a mail only, and a word is rejected in a chat room only. -/
structure IsOf (e : BlockError) (k : Kind) : Prop where
  kind : ∀ j, e.kind? = some j → j = k
  field : ∀ name, e.field? = some name → name ∈ k.fieldNames
  mail : ∀ header, e = duplicateHeader header → k = .email
  chat : ∀ j field word allowed, e = invalidValue j field word allowed → k = .hipchat

end BlockError

theorem Block.isOf_of_decode [TextMap.Walk] {k : Kind} {n : Node} {e : BlockError} (h : decode k n = .error e) :
    e.IsOf k := by
  have hverdict := verdict_decode k n
  rw [h] at hverdict
  have hname : ∀ {f : Field}, f ∈ k.fields → f.name ∈ k.fieldNames := List.mem_map_of_mem
  constructor
  · intro j hj
    cases hverdict <;> cases hj <;> rfl
  · intro name hfield
    cases hverdict <;> cases hfield
    · rename_i hmistyped
      exact hname hmistyped.isField
    · exact hname (List.get_mem _ _)
    · decide
  · rintro header rfl
    cases hverdict
    rfl
  · rintro j field word allowed rfl
    cases hverdict
    rfl

/-! ### Places -/

/-- A block in a document, with what stands before it at every level. -/
structure Place where
  sections : Entries
  definitions : List Node
  entries : Entries
  kind : Kind
  blocks : List Node
  block : Node

/-- What follows a block in a document, at every level. -/
structure Rest where
  blocks : List Node
  entries : Entries
  definitions : List Node
  sections : Entries

namespace Place

/-- The definition with a block, given what follows the block. -/
def definition (p : Place) (r : Rest) : Node :=
  .map (p.entries ++
    (.text p.kind.blockKey, .seq (p.blocks ++ p.block :: r.blocks)) :: r.entries)

/-- The document with a block, given what follows the block. -/
def document (p : Place) (r : Rest) : Node :=
  .map (p.sections ++
    (.text "receivers", .seq (p.definitions ++ p.definition r :: r.definitions)) :: r.sections)

/-- Nothing that stands before a block has a fault. -/
structure IsReached [TextMap.Walk] (p : Place) : Prop where
  sections : ∀ e ∈ p.sections, IsSection e
  definitions : ∀ n ∈ p.definitions, n.IsDefinition
  names : (p.definitions.map Node.definedName?).Nodup
  entries : ∀ e ∈ p.entries, e.1 = .text "name" ∨ ∃ k, ListsBlocks k e
  blocks : ∀ n ∈ p.blocks, ∃ b, Block.decode p.kind n = .ok b

/-- If no key of a document occurs twice, only sections of other components stand before its
receivers. -/
theorem IsReached.foreign [TextMap.Walk] {p : Place} (h : p.IsReached) {r : Rest} {es : Entries}
    (hdocument : p.document r = .map es) (hdistinct : es.Distinct) :
    ∀ e ∈ p.sections, ∃ s ∈ foreignSections, e.1 = .text s := by
  intro e he
  rcases h.sections e he with ⟨hkey, -⟩ | hforeign
  · rw [← Node.map.inj hdocument] at hdistinct
    obtain ⟨-, -, hacross⟩ := List.pairwise_append.mp hdistinct
    have hne := hacross e he _ List.mem_cons_self
    rw [hkey] at hne
    cases hne
  · exact hforeign

end Place

/-! ### Errors at each level -/

theorem Node.eq_seq_of_items? {n : Node} {items : List Node} (h : n.items? = some items)
    (hne : items ≠ []) : n = .seq items := by
  cases n with
  | seq ns => rw [Option.some_inj.mp h]
  | null => exact absurd (Option.some_inj.mp h).symm hne
  | _ => cases h

namespace Load

section

variable {name name' : String} {k : Kind} {index : Nat} {source : BlockError} {error : ConfigError}
variable [TextMap.Walk]

theorem blocks_cons_eq_error_iff {n : Node} {ns : List Node} :
    (blocks name k index (n :: ns)).outcome = .error error ↔
      (∃ source, Block.decode k n = .error source ∧ error = .receiver name k index source) ∨
        (∃ b, Block.decode k n = .ok b) ∧ (blocks name k (index + 1) ns).outcome = .error error := by
  rw [blocks]
  cases Block.decode k n with
  | error source => simp [eq_comm]
  | ok b => simp [Except.bind_eq_error_iff]

/-- Blocks end with the first mistake in one of them, and its position. -/
theorem blocks_eq_error_iff : ∀ {index : Nat} {ns : List Node},
    (blocks name k index ns).outcome = .error error ↔
      ∃ (before : List Node) (n : Node) (after : List Node), ns = before ++ n :: after ∧
        (∀ m ∈ before, ∃ b, Block.decode k m = .ok b) ∧
        ∃ source, Block.decode k n = .error source ∧
          error = .receiver name k (index + before.length) source
  | index, [] => by simp [blocks]
  | index, n :: ns => by
    have hindex : ∀ before : List Node, index + 1 + before.length = index + (n :: before).length :=
      fun before => by rw [List.length_cons]; omega
    rw [blocks_cons_eq_error_iff, exists_first_cons_iff, blocks_eq_error_iff]
    simp only [hindex]
    rfl

theorem blockList_eq_receiver_error_iff {key n : Node} :
    (blockList name (keyName key) n).outcome = .error (.receiver name' k index source) ↔
      name' = name ∧ key = .text k.blockKey ∧
        ∃ (before : List Node) (block : Node) (after : List Node),
          n = .seq (before ++ block :: after) ∧ before.length = index ∧
          (∀ m ∈ before, ∃ b, Block.decode k m = .ok b) ∧ Block.decode k block = .error source := by
  rw [← ofBlockKey?_keyName_eq_some_iff]
  unfold blockList
  cases Kind.ofBlockKey? (keyName key) with
  | none => simp [refuse]
  | some j =>
    constructor
    · intro h
      cases hitems : n.items? with
      | none =>
        rw [hitems] at h
        cases h
      | some items =>
        rw [hitems] at h
        obtain ⟨before, block, after, rfl, hbefore, source', hblock, he⟩ := blocks_eq_error_iff.mp h
        cases he
        rw [Nat.zero_add]
        exact ⟨rfl, rfl, before, block, after, Node.eq_seq_of_items? hitems (by simp), rfl,
          hbefore, hblock⟩
    · rintro ⟨rfl, ⟨⟩, before, block, after, rfl, rfl, hbefore, hblock⟩
      refine blocks_eq_error_iff.mpr ⟨before, block, after, rfl, hbefore, source, hblock, ?_⟩
      rw [Nat.zero_add]

theorem exists_blockList_iff {key n : Node} :
    (∃ is, (blockList name (keyName key) n).outcome = .ok is) ↔ ∃ k, ListsBlocks k (key, n) := by
  constructor
  · rintro ⟨is, h⟩
    obtain ⟨k, items, hkey, hitems, hall⟩ := blockList_eq_ok_iff.mp h
    exact ⟨k, hkey, items, hitems, exists_decodes_iff.mp ⟨is, hall⟩⟩
  · rintro ⟨k, hkey, items, hitems, hall⟩
    obtain ⟨is, his⟩ := exists_decodes_iff.mpr hall
    exact ⟨is, blockList_eq_ok_iff.mpr ⟨k, items, hkey, hitems, his⟩⟩

theorem entries_cons_eq_receiver_error_iff {e : Node × Node} {es : Entries} :
    (entries name (e :: es)).outcome = .error (.receiver name' k index source) ↔
      (blockList name (keyName e.1) e.2).outcome = .error (.receiver name' k index source) ∨
        (e.1 = .text "name" ∨ ∃ k, ListsBlocks k e) ∧
          (entries name es).outcome = .error (.receiver name' k index source) := by
  obtain ⟨key, n⟩ := e
  rw [entries]
  by_cases hkey : key = .text "name"
  · have hlist : ¬ (blockList name (keyName key) n).outcome =
        .error (.receiver name' k index source) := by
      intro h
      obtain ⟨-, hblock, -⟩ := blockList_eq_receiver_error_iff.mp h
      exact blockKey_ne_name k (Node.text.inj (hblock.symm.trans hkey))
    rw [if_pos (keyName_eq_name_iff.mpr hkey), or_iff_right hlist, and_iff_right (.inl hkey)]
  · rw [if_neg (mt keyName_eq_name_iff.mp hkey), or_iff_right hkey, ← @exists_blockList_iff name,
      ← exists_and_right]
    simp [Except.bind_eq_error_iff]

theorem entries_eq_receiver_error_iff : ∀ {es : Entries},
    (entries name es).outcome = .error (.receiver name' k index source) ↔
      ∃ before e after, es = before ++ e :: after ∧
        (∀ x ∈ before, x.1 = .text "name" ∨ ∃ k, ListsBlocks k x) ∧
        (blockList name (keyName e.1) e.2).outcome = .error (.receiver name' k index source)
  | [] => by simp [entries]
  | e :: es => by
    rw [entries_cons_eq_receiver_error_iff, exists_first_cons_iff, entries_eq_receiver_error_iff]

theorem receiver_eq_receiver_error_iff {n : Node} :
    (receiver n).outcome = .error (.receiver name k index source) ↔
      n.definedName? = some name ∧ name ≠ "" ∧ ∃ es, n = .map es ∧
        (entries name es).outcome = .error (.receiver name k index source) := by
  constructor
  · intro h
    unfold receiver at h
    split at h
    · rename_i es
      split at h
      · cases h
      · rename_i found hfound
        simp only [outcome_bind, outcome_pure, Except.bind_eq_error_iff, reduceCtorEq, and_false,
          exists_false, or_false] at h
        obtain ⟨_, _, _, _, _, hlist⟩ := entries_eq_receiver_error_iff.mp h
        obtain ⟨rfl, -⟩ := blockList_eq_receiver_error_iff.mp hlist
        obtain ⟨hname, hne⟩ := nameIn_eq_ok_iff.mp hfound
        exact ⟨hname, hne, es, rfl, h⟩
    · cases h
  · rintro ⟨hname, hne, es, rfl, h⟩
    rw [receiver, nameIn_eq_ok_iff.mpr ⟨hname, hne⟩]
    simp only [outcome_bind, h, Except.bind_eq_error_iff, true_or]

theorem exists_receivers_cons_iff {seen : List String} {n : Node} {ns : List Node} :
    (∃ rs, (receivers seen (n :: ns)).outcome = .ok rs) ↔
      ∃ r, (receiver n).outcome = .ok r ∧ r.name ∉ seen ∧
        ∃ rs, (receivers (r.name :: seen) ns).outcome = .ok rs := by
  simp only [receivers_cons_eq_ok_iff]
  constructor
  · rintro ⟨_, r, rest, hr, hnew, hrest, -⟩
    exact ⟨r, hr, hnew, rest, hrest⟩
  · rintro ⟨r, hr, hnew, rest, hrest⟩
    exact ⟨r :: rest, r, rest, hr, hnew, hrest, rfl⟩

theorem receivers_cons_eq_receiver_error_iff {seen : List String} {n : Node} {ns : List Node} :
    (receivers seen (n :: ns)).outcome = .error (.receiver name k index source) ↔
      (receiver n).outcome = .error (.receiver name k index source) ∨
        ∃ r, (receiver n).outcome = .ok r ∧ r.name ∉ seen ∧
          (receivers (r.name :: seen) ns).outcome = .error (.receiver name k index source) := by
  rw [outcome_receivers_cons, Except.bind_eq_error_iff]
  refine or_congr_right (exists_congr fun r => and_congr_right fun _ => ?_)
  by_cases hseen : r.name ∈ seen
  · simp [hseen]
  · simp [hseen, Except.bind_eq_error_iff, pure, Except.pure]

/-- Definitions end with the first of them that has a mistake, if those before it are decoded. -/
theorem receivers_eq_receiver_error_iff : ∀ {seen : List String} {ns : List Node},
    (receivers seen ns).outcome = .error (.receiver name k index source) ↔
      ∃ before n after, ns = before ++ n :: after ∧
        (∃ rs, (receivers seen before).outcome = .ok rs) ∧
        (receiver n).outcome = .error (.receiver name k index source)
  | seen, [] => by simp [receivers]
  | seen, n :: ns => by
    rw [receivers_cons_eq_receiver_error_iff, exists_split_cons_iff]
    simp only [receivers_eq_receiver_error_iff, exists_receivers_cons_iff]
    constructor
    · rintro (h | ⟨r, hr, hnew, before, m, after, hns, hbefore, hm⟩)
      · exact .inl ⟨⟨[], rfl⟩, h⟩
      · exact .inr ⟨before, m, after, hns, ⟨r, hr, hnew, hbefore⟩, hm⟩
    · rintro (⟨-, h⟩ | ⟨before, m, after, hns, ⟨r, hr, hnew, hbefore⟩, hm⟩)
      · exact .inl h
      · exact .inr ⟨r, hr, hnew, before, m, after, hns, hbefore, hm⟩

/-- A section ends the load if it holds receivers with a mistake, or a later one does if it may
stand there. What receivers there are then depends on this section. -/
theorem exists_sections_cons_iff (rs : List Receiver) (e : Node × Node) (es : Entries) :
    ∃ rs', (sections rs (e :: es)).outcome = .error (.receiver name k index source) ↔
      (e.1 = .text "receivers" ∧ ∃ items, e.2.items? = some items ∧
        (receivers [] items).outcome = .error (.receiver name k index source)) ∨
      IsSection e ∧ (sections rs' es).outcome = .error (.receiver name k index source) := by
  obtain ⟨key, n⟩ := e
  rw [sections]
  by_cases hkey : key = .text "receivers"
  · subst hkey
    rw [if_pos (keyName_eq_receivers_iff.mpr rfl), isSection_receivers_iff, ← exists_receivers_iff]
    cases hitems : n.items? with
    | none => exact ⟨rs, by simp [refuse]⟩
    | some items =>
      simp only [outcome_bind, Except.bind_eq_error_iff]
      cases hrs : (receivers [] items).outcome with
      | error e => exact ⟨rs, by simp [hrs]⟩
      | ok rs' => exact ⟨rs', by simp [hrs]⟩
  · rw [if_neg (mt keyName_eq_receivers_iff.mp hkey)]
    refine ⟨rs, ?_⟩
    by_cases hforeign : keyName key ∈ foreignSections
    · have hsection : IsSection (key, n) := .inr (keyName_mem_foreignSections_iff.mp hforeign)
      rw [if_pos hforeign, outcome_bind, outcome_report, and_iff_right hsection]
      simp [hkey, Except.bind_eq_error_iff]
    · have hsection : ¬ IsSection (key, n) := by
        rintro (⟨h, -⟩ | h)
        · exact hkey h
        · exact hforeign (keyName_mem_foreignSections_iff.mpr h)
      rw [if_neg hforeign]
      simp [refuse, hsection, hkey]

theorem sections_eq_receiver_error_iff : ∀ {rs : List Receiver} {es : Entries},
    (sections rs es).outcome = .error (.receiver name k index source) ↔
      ∃ before e after, es = before ++ e :: after ∧ (∀ x ∈ before, IsSection x) ∧
        e.1 = .text "receivers" ∧ ∃ items, e.2.items? = some items ∧
          (receivers [] items).outcome = .error (.receiver name k index source)
  | rs, [] => by simp [sections]
  | rs, e :: es => by
    -- the error does not depend on the receivers so far, so the induction holds for all of them
    obtain ⟨rs', hcons⟩ := exists_sections_cons_iff rs e es
    rw [hcons, exists_first_cons_iff, sections_eq_receiver_error_iff]

end

end Load
/-! ### Errors in a document -/

namespace Config

theorem ofNode_map_eq_error_iff [TextMap.Walk] {es : Entries} {error : ConfigError} :
    ofNode (.map es) = .error error ↔ (Load.sections [] es).outcome = .error error := by
  rw [ofNode_map, map_eq_pure_bind, Except.bind_eq_error_iff, or_iff_left]
  rintro ⟨rs, -, h⟩
  cases h

/-- **An error with a position is an error at a place that is reached.** -/
theorem ofNode_eq_receiver_error_iff [TextMap.Walk] {d : Node} {name : String} {k : Kind} {index : Nat}
    {source : BlockError} : ofNode d = .error (.receiver name k index source) ↔
      ∃ (p : Place) (r : Rest), p.document r = d ∧ p.kind = k ∧ p.blocks.length = index ∧
        p.IsReached ∧ (p.definition r).definedName? = some name ∧ name ≠ "" ∧
        Block.decode p.kind p.block = .error source := by
  constructor
  · intro h
    cases d with
    | map es =>
      -- from the document down to the block, with what stands on both sides at each level
      obtain ⟨sections, ⟨_, value⟩, laterSections, rfl, hsections, rfl, items, hitems, hitem⟩ :=
        Load.sections_eq_receiver_error_iff.mp (ofNode_map_eq_error_iff.mp h)
      obtain ⟨definitions, n, laterDefinitions, rfl, ⟨rs, hrs⟩, hn⟩ :=
        Load.receivers_eq_receiver_error_iff.mp hitem
      obtain ⟨hname, hne, es, rfl, hes⟩ := Load.receiver_eq_receiver_error_iff.mp hn
      obtain ⟨entries, ⟨_, list⟩, laterEntries, rfl, hentries, hlist⟩ :=
        Load.entries_eq_receiver_error_iff.mp hes
      obtain ⟨-, rfl, blocks, block, laterBlocks, rfl, hindex, hblocks, hblock⟩ :=
        Load.blockList_eq_receiver_error_iff.mp hlist
      have hvalue : value = .seq _ := Node.eq_seq_of_items? hitems (by simp)
      have hlists : (Node.seq definitions).ListsReceivers :=
        Load.exists_receivers_iff.mp ⟨definitions, rs, rfl, hrs⟩
      obtain ⟨_, ⟨⟩, hdefinitions, hnames⟩ := hlists
      subst hvalue
      exact ⟨⟨sections, definitions, entries, k, blocks, block⟩,
        ⟨laterBlocks, laterEntries, laterDefinitions, laterSections⟩, rfl, rfl, hindex,
        ⟨hsections, hdefinitions, hnames, hentries, hblocks⟩, hname, hne, hblock⟩
    | _ => cases h
  · rintro ⟨p, r, rfl, rfl, rfl, hreached, hname, hne, hblock⟩
    have hlist : (Load.blockList name (keyName (.text p.kind.blockKey))
        (.seq (p.blocks ++ p.block :: r.blocks))).outcome =
          .error (.receiver name p.kind p.blocks.length source) :=
      Load.blockList_eq_receiver_error_iff.mpr
        ⟨rfl, rfl, p.blocks, p.block, r.blocks, rfl, rfl, hreached.blocks, hblock⟩
    have hdefinition : (Load.receiver (p.definition r)).outcome =
        .error (.receiver name p.kind p.blocks.length source) :=
      Load.receiver_eq_receiver_error_iff.mpr ⟨hname, hne, _, rfl,
        Load.entries_eq_receiver_error_iff.mpr ⟨p.entries, _, r.entries, rfl, hreached.entries, hlist⟩⟩
    have hlists : (Node.seq p.definitions).ListsReceivers :=
      ⟨p.definitions, rfl, hreached.definitions, hreached.names⟩
    obtain ⟨_, rs, ⟨⟩, hrs⟩ := Load.exists_receivers_iff.mpr hlists
    refine ofNode_map_eq_error_iff.mpr (Load.sections_eq_receiver_error_iff.mpr
      ⟨p.sections, _, r.sections, rfl, hreached.sections, rfl, _, rfl, ?_⟩)
    exact Load.receivers_eq_receiver_error_iff.mpr
      ⟨p.definitions, p.definition r, r.definitions, rfl, ⟨rs, hrs⟩, hdefinition⟩

/-- **Where an error is, and what it depends on.** An error with a position stands for a block that
has the mistake, at this position among the blocks of its kind in a definition with the reported
name. Nothing before it has a fault. The mistake is one that a block of the kind can have. Whatever
else follows the block, the error is the same as long as the definition keeps its name. -/
theorem ofNode_locates [TextMap.Walk] {d : Node} {name : String} {k : Kind} {index : Nat}
    {source : BlockError} (h : ofNode d = .error (.receiver name k index source)) :
    source.IsOf k ∧ ∃ (p : Place) (r : Rest), p.document r = d ∧ p.kind = k ∧
      p.blocks.length = index ∧ (p.definition r).definedName? = some name ∧
      Block.decode p.kind p.block = .error source ∧ p.IsReached ∧
      (∀ es, d = .map es → Entries.Distinct es → ∀ e ∈ p.sections, ∃ s ∈ foreignSections, e.1 = .text s) ∧
      ∀ r' : Rest, (p.definition r').definedName? = some name →
        ofNode (p.document r') = .error (.receiver name k index source) := by
  obtain ⟨p, r, hd, hk, hindex, hreached, hname, hne, hblock⟩ := ofNode_eq_receiver_error_iff.mp h
  refine ⟨hk ▸ Block.isOf_of_decode hblock, p, r, hd, hk, hindex, hname, hblock, hreached, ?_, ?_⟩
  · intro es hes hdistinct
    exact hreached.foreign (hd.trans hes) hdistinct
  · intro r' hname'
    exact ofNode_eq_receiver_error_iff.mpr
      ⟨p, r', rfl, hk, hindex, hreached, hname', hne, hblock⟩

section
attribute [local instance] TextMap.Walk.ascending

/-- The second request to a URL of a receiver has no URL, and the name of the receiver follows.
Whatever is added behind the request, the error is the same. -/
theorem ofNode_locates_webhook :
    let first : Node := .map [(.text "url", .text "http://a")]
    let d (blocks definitions : List Node) (sections : Entries) : Node :=
      .map ([(.text "global", .null), (.text "receivers", .seq (.map [
        (.text "webhook_configs", .seq (first :: .map [] :: blocks)), (.text "name", .text "ops")] ::
          definitions))] ++ sections)
    let mistake : BlockError := .missingField .webhook "url"
    ofNode (d [] [] []) = .error (.receiver "ops" .webhook 1 mistake) ∧ mistake.IsOf .webhook ∧
      (∃ (p : Place) (r : Rest), p.document r = d [] [] [] ∧ p.blocks = [first] ∧
        Block.decode .webhook p.block = .error mistake ∧ p.IsReached) ∧
      ofNode (d [.null] [.text "ops"] [(.int 1, .null)]) =
        .error (.receiver "ops" .webhook 1 mistake) := by
  intro first d mistake
  have hd : ofNode (d [] [] []) = .error (.receiver "ops" .webhook 1 mistake) := by rfl
  obtain ⟨hof, p, r, hdocument, hkind, hlength, -, hdecode, hreached, -, hrest⟩ := ofNode_locates hd
  obtain ⟨sections, definitions, entries, kind, blocks, block⟩ := p
  -- one place of the document fits
  obtain rfl : kind = .webhook := hkind
  obtain ⟨rfl, rfl, rfl, rfl, rfl⟩ : sections = [(.text "global", .null)] ∧ definitions = [] ∧
      entries = [] ∧ blocks = [first] ∧ block = .map [] := by
    have hsections := Node.map.inj hdocument
    rcases sections with _ | ⟨s, _ | ⟨s', sections⟩⟩ <;> simp at hsections
    obtain ⟨rfl, hreceivers, -⟩ := hsections
    rcases definitions with _ | ⟨n, definitions⟩ <;> simp [Place.definition] at hreceivers
    obtain ⟨hentries, -⟩ := hreceivers
    rcases entries with _ | ⟨e, _ | ⟨e', entries⟩⟩ <;> simp [Kind.blockKey] at hentries
    obtain ⟨b, rfl⟩ := List.length_eq_one_iff.mp hlength
    obtain ⟨⟨rfl, rfl, -⟩, -⟩ : (b = first ∧ block = .map [] ∧ r.blocks = []) ∧ _ := by
      simpa using hentries
    exact ⟨rfl, rfl, rfl, rfl, rfl⟩
  refine ⟨hd, hof, ⟨_, r, hdocument, rfl, hdecode, hreached⟩, ?_⟩
  exact hrest ⟨[.null], [(.text "name", .text "ops")], [.text "ops"], [(.int 1, .null)]⟩ rfl

end

end Config
end AlertReceivers
