/-
# Entries that count for nothing

A document holds sections of other components, and it may hold empty lists of receivers or of
blocks. Such an entry may be put in or taken out anywhere. A load goes through a list entry by entry,
and an idle entry changes nothing that is passed on from one part of the list to the other. Only for
an empty list of receivers this takes a reason: it replaces the receivers so far, and there are none
as long as no other list stands before it.

Key definitions: `Node.ListsNothing`, `Node.AddsIdle`, `Node.IdleEdit`.
Key theorems: `Load.outcome_sections_append`, `Load.outcome_entries_append`,
`Config.ofNode_eq_of_addsIdle`, `Config.ofNode_eq_of_idleEdits`.
-/
import AlertReceivers.Proofs.Composition
import Mathlib.Logic.Relation

namespace AlertReceivers

/-! ### Edits -/

namespace Node

/-- A value lists nothing: it is null or an empty list. -/
def ListsNothing (n : Node) : Prop := n = .null ∨ n = .seq []

/-- An entry that counts for nothing is put into a document. -/
inductive AddsIdle : Node → Node → Prop where
  /-- It is a section of other components, with any value. -/
  | foreign {xs ys : Entries} {s : String} {n : Node} (key : s ∈ foreignSections) :
    AddsIdle (.map (xs ++ ys)) (.map (xs ++ (.text s, n) :: ys))
  /-- It lists no receivers, and no receivers stand before it. -/
  | receivers {xs ys : Entries} {n : Node} (empty : n.ListsNothing)
    (first : ∀ e ∈ xs, e.1 ≠ .text "receivers") :
    AddsIdle (.map (xs ++ ys)) (.map (xs ++ (.text "receivers", n) :: ys))
  /-- It lists no blocks in a definition of a receiver. -/
  | blocks {xs ys before after : Entries} {ds ds' : List Node} {k : Kind} {n : Node}
    (empty : n.ListsNothing) :
    AddsIdle
      (.map (xs ++ (.text "receivers", .seq (ds ++ .map (before ++ after) :: ds')) :: ys))
      (.map (xs ++ (.text "receivers",
        .seq (ds ++ .map (before ++ (.text k.blockKey, n) :: after) :: ds')) :: ys))

/-- A document is edited without a difference. -/
inductive IdleEdit : Node → Node → Prop where
  /-- An entry that counts for nothing is put in. -/
  | insert {d d' : Node} (h : AddsIdle d d') : IdleEdit d d'
  /-- An entry that counts for nothing is taken out. -/
  | remove {d d' : Node} (h : AddsIdle d d') : IdleEdit d' d
  /-- A section of other components takes another place, or another value, or both. -/
  | change {xs ys xs' ys' : Entries} {s : String} {n n' : Node} (key : s ∈ foreignSections)
    (others : xs ++ ys = xs' ++ ys') :
    IdleEdit (.map (xs ++ (.text s, n) :: ys)) (.map (xs' ++ (.text s, n') :: ys'))

theorem ListsNothing.items? {n : Node} (h : n.ListsNothing) : n.items? = some [] := by
  rcases h with rfl | rfl <;> rfl

end Node

/-! ### Lists in two parts -/

namespace Load

/-- A block key hides no name. -/
theorem nameIn_append_blocks (before after : Entries) (k : Kind) (n : Node) :
    nameIn (before ++ (.text k.blockKey, n) :: after) = nameIn (before ++ after) := by
  have hkey : Node.text k.blockKey ≠ .text "name" := fun h => blockKey_ne_name k (Node.text.inj h)
  unfold nameIn
  rw [Entries.value?_append, Entries.value?_append, Entries.value?_cons_of_ne hkey]

variable [TextMap.Walk]

/-- The sections of a document in two parts: the second part goes on with the receivers of the
first. -/
theorem outcome_sections_append : ∀ (rs : List Receiver) (xs ys : Entries),
    (sections rs (xs ++ ys)).outcome = (do
      let rs ← (sections rs xs).outcome
      (sections rs ys).outcome)
  | _, [], _ => rfl
  | rs, (key, n) :: xs, ys => by
    rw [List.cons_append, sections, sections]
    by_cases hkey : keyName key = "receivers"
    · rw [if_pos hkey, if_pos hkey]
      cases n.items? with
      | none => rfl
      | some items =>
        simp only [outcome_bind, bind_assoc]
        exact bind_congr fun rs' => outcome_sections_append rs' xs ys
    · rw [if_neg hkey, if_neg hkey]
      by_cases hforeign : keyName key ∈ foreignSections
      · rw [if_pos hforeign, if_pos hforeign]
        exact outcome_sections_append rs xs ys
      · rw [if_neg hforeign, if_neg hforeign]
        rfl

theorem outcome_entries_cons (name : String) (key n : Node) (es : Entries) :
    (entries name ((key, n) :: es)).outcome =
      if keyName key = "name" then (entries name es).outcome
      else do
        let here ← (blockList name (keyName key) n).outcome
        let rest ← (entries name es).outcome
        return here ++ rest := by
  rw [entries]
  split
  · rfl
  · rw [outcome_bind]
    refine bind_congr fun here => ?_
    rw [outcome_bind]
    rfl

/-- The entries of a definition in two parts: the integrations of both, if there are any. -/
theorem outcome_entries_append (name : String) : ∀ xs ys : Entries,
    (entries name (xs ++ ys)).outcome = (do
      let here ← (entries name xs).outcome
      let rest ← (entries name ys).outcome
      return here ++ rest)
  | [], ys => by
    show _ = (entries name ys).outcome >>= fun rest => pure rest
    rw [bind_pure, List.nil_append]
  | (key, n) :: xs, ys => by
    have hrest := outcome_entries_append name xs ys
    rw [List.cons_append, outcome_entries_cons, outcome_entries_cons, hrest]
    split
    · rfl
    · simp only [bind_assoc, pure_bind, List.append_assoc]

theorem outcome_sections_foreign {s : String} (hs : s ∈ foreignSections) (rs : List Receiver)
    (n : Node) (es : Entries) :
    (sections rs ((.text s, n) :: es)).outcome = (sections rs es).outcome := by
  have hforeign : keyName (.text s) ∈ foreignSections := hs
  have hkey : keyName (.text s) ≠ "receivers" := by
    intro h
    rw [h] at hforeign
    exact absurd hforeign (by decide)
  rw [sections, if_neg hkey, if_pos hforeign, outcome_bind]
  rfl

theorem outcome_sections_receivers {n : Node} (hn : n.ListsNothing) (rs : List Receiver)
    (es : Entries) :
    (sections rs ((.text "receivers", n) :: es)).outcome = (sections [] es).outcome := by
  rw [outcome_sections_cons_receivers hn.items?]
  rfl

/-- There are no receivers before the first list of them. -/
theorem eq_nil_of_sections {es : Entries} (hes : ∀ e ∈ es, e.1 ≠ .text "receivers")
    {rs : List Receiver} (h : (sections [] es).outcome = .ok rs) : rs = [] := by
  have hnone : es.receivers? = none := by
    rw [Option.eq_none_iff_forall_ne_some]
    intro n hn
    have hmem : (Node.text "receivers", n) ∈ es := List.mem_reverse.mp (Entries.mem_of_value? hn)
    exact hes _ hmem rfl
  have hrs := (sections_eq_ok_iff.mp h).2
  rw [hnone] at hrs
  exact hrs

theorem outcome_entries_blocks {n : Node} (hn : n.ListsNothing) (name : String) (k : Kind)
    (es : Entries) :
    (entries name ((.text k.blockKey, n) :: es)).outcome = (entries name es).outcome := by
  have hkey : keyName (.text k.blockKey) ≠ "name" := blockKey_ne_name k
  have hkind : Kind.ofBlockKey? (keyName (.text k.blockKey)) = some k :=
    ofBlockKey?_keyName_eq_some_iff.mpr rfl
  have hlist : blockList name (keyName (.text k.blockKey)) n = pure [] := by
    rw [blockList, hkind, hn.items?]
    rfl
  rw [outcome_entries_cons, if_neg hkey, hlist]
  exact bind_pure (entries name es).outcome

/-- A definition is decoded alike with an empty list of blocks. -/
theorem outcome_receiver_blocks {n : Node} (hn : n.ListsNothing) (before after : Entries)
    (k : Kind) : (receiver (.map (before ++ (.text k.blockKey, n) :: after))).outcome =
      (receiver (.map (before ++ after))).outcome := by
  have hentries : ∀ name, (entries name (before ++ (.text k.blockKey, n) :: after)).outcome =
      (entries name (before ++ after)).outcome := fun name => by
    rw [outcome_entries_append, outcome_entries_append, outcome_entries_blocks hn]
  rw [receiver, receiver, nameIn_append_blocks]
  cases nameIn (before ++ after) with
  | error fault => rfl
  | ok name => simp only [outcome_bind, hentries]

theorem outcome_receivers_congr {n n' : Node} (h : (receiver n').outcome = (receiver n).outcome)
    (seen : List String) (ds ds' : List Node) :
    (receivers seen (ds ++ n' :: ds')).outcome = (receivers seen (ds ++ n :: ds')).outcome := by
  rw [outcome_receivers_append, outcome_receivers_append]
  simp only [outcome_receivers_cons, h]

theorem outcome_sections_congr {items items' : List Node}
    (h : (receivers [] items').outcome = (receivers [] items).outcome) (rs : List Receiver)
    (es : Entries) : (sections rs ((.text "receivers", .seq items') :: es)).outcome =
      (sections rs ((.text "receivers", .seq items) :: es)).outcome := by
  have hitems (ns : List Node) : (Node.seq ns).items? = some ns := rfl
  rw [outcome_sections_cons_receivers (hitems _), outcome_sections_cons_receivers (hitems _), h]

end Load

/-! ### Documents that are edited -/

namespace Config

theorem ofNode_eq_of_addsIdle [TextMap.Walk] {d d' : Node} (h : d.AddsIdle d') : ofNode d' = ofNode d := by
  cases h with
  | foreign key =>
    rw [ofNode_map, ofNode_map, Load.outcome_sections_append, Load.outcome_sections_append]
    simp only [Load.outcome_sections_foreign key]
  | @receivers xs ys n empty first =>
    rw [ofNode_map, ofNode_map, Load.outcome_sections_append, Load.outcome_sections_append]
    simp only [Load.outcome_sections_receivers empty]
    cases hxs : (Load.sections [] xs).outcome with
    | error e => rfl
    | ok rs =>
      rw [Load.eq_nil_of_sections first hxs]
      rfl
  | @blocks xs ys before after ds ds' k n empty =>
    have hdefinition := Load.outcome_receiver_blocks empty before after k
    have hreceivers := Load.outcome_receivers_congr hdefinition [] ds ds'
    have hsections := fun rs => Load.outcome_sections_congr hreceivers rs ys
    rw [ofNode_map, ofNode_map, Load.outcome_sections_append, Load.outcome_sections_append]
    simp only [hsections]

theorem ofNode_eq_of_idleEdit [TextMap.Walk] {d d' : Node} (h : d.IdleEdit d') : ofNode d' = ofNode d := by
  cases h with
  | insert h => exact ofNode_eq_of_addsIdle h
  | remove h => exact (ofNode_eq_of_addsIdle h).symm
  | @change xs ys xs' ys' s n n' key others =>
    -- the section is taken out at the one place and put in at the other
    have hout : ofNode (.map (xs ++ (.text s, n) :: ys)) = ofNode (.map (xs ++ ys)) :=
      ofNode_eq_of_addsIdle (.foreign key)
    have hin : ofNode (.map (xs' ++ (.text s, n') :: ys')) = ofNode (.map (xs' ++ ys')) :=
      ofNode_eq_of_addsIdle (.foreign key)
    rw [hout, hin, others]

/-- **What counts for nothing has no influence.** A document comes to the same configuration, or to
the same error, after any number of edits: sections of other components may be put in, taken out,
moved or given any value, at any place; and a list of receivers or of blocks that has nothing in it
may be put in or taken out. -/
theorem ofNode_eq_of_idleEdits [TextMap.Walk] {d d' : Node} (h : Relation.ReflTransGen Node.IdleEdit d d') :
    ofNode d' = ofNode d := by
  induction h with
  | refl => rfl
  | tail _ hedit ih => exact (ofNode_eq_of_idleEdit hedit).trans ih

section
attribute [local instance] TextMap.Walk.ascending

/-- A request without a URL is still the first one of its receiver if lists with nothing in them
stand before it, and if a section moves in front of the receivers and is filled. -/
theorem ofNode_eq_of_idleEdits_webhook :
    let requests : Node × Node := (.text "webhook_configs", .seq [.map []])
    let d : Node := .map [
      (.text "receivers", .seq [.map [(.text "name", .text "ops"), requests]]),
      (.text "route", .null)]
    let d' : Node := .map [
      (.text "route", .map [(.text "receiver", .text "ops")]),
      (.text "receivers", .seq [.map [(.text "name", .text "ops"),
        (.text "slack_configs", .null), requests]])]
    Relation.ReflTransGen Node.IdleEdit d d' ∧
      ofNode d' = .error (.receiver "ops" .webhook 0 (.missingField .webhook "url")) := by
  intro requests d d'
  let name : Node × Node := (.text "name", .text "ops")
  let listed : Node × Node :=
    (.text "receivers", .seq [.map [name, (.text "slack_configs", .null), requests]])
  have hblocks : d.IdleEdit (.map [listed, (.text "route", .null)]) :=
    .insert (@Node.AddsIdle.blocks [] [(.text "route", .null)] [name] [requests] [] [] .slack .null
      (.inl rfl))
  have hroute : Node.IdleEdit (.map [listed, (.text "route", .null)]) d' :=
    @Node.IdleEdit.change [listed] [] [] [listed] "route" _ _ (by decide) rfl
  have hedits : Relation.ReflTransGen Node.IdleEdit d d' := .head hblocks (.single hroute)
  have hd : ofNode d = .error (.receiver "ops" .webhook 0 (.missingField .webhook "url")) := by rfl
  exact ⟨hedits, (ofNode_eq_of_idleEdits hedits).trans hd⟩

end

end Config
end AlertReceivers
