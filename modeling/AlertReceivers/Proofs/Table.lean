/-
# What a table is read from

Entries whose keys have one text come to one name. This can happen while the mapping is built again,
with numbers and booleans as their text, and while the table is filled, without tags. Every entry
gives its name to the table, and every value of the table is the text of an entry with its name
(`Tabulates`).

Key definitions: `Entries.Tells`, `Tabulates`.
Key theorems: `Node.readEntries_eq_ok_iff`, `FieldType.read_table_eq_ok_iff`, `tabulates_of_read`,
`Tabulates.get?_of_nodup`.
-/
import AlertReceivers.Proofs.Outcome
import AlertReceivers.Proofs.Wording
import Mathlib.Data.List.Forall2
import Mathlib.Data.List.Nodup

namespace AlertReceivers

/-! ### Keys that are put into a mapping -/

namespace Entries

/-- What is in a mapping after an insertion was there before, or has the text of the key and the
value that are put in. -/
theorem mem_insert : ∀ (es : Entries) (k v : Node) {x : Node × Node}, x ∈ insert es k v →
    x ∈ es ∨ (x.1.asText? = k.asText? ∧ x.2 = v)
  | [], k, v, x, h => by
    unfold insert at h
    rw [List.mem_singleton.mp h]
    exact .inr ⟨rfl, rfl⟩
  | e :: es, k, v, x, h => by
    unfold insert at h
    split at h
    · rename_i hsame
      rcases List.mem_cons.mp h with rfl | h
      · exact .inr ⟨Node.asText?_eq_of_same hsame, rfl⟩
      · exact .inl (List.mem_cons_of_mem e h)
    · rcases List.mem_cons.mp h with rfl | h
      · exact .inl List.mem_cons_self
      · rcases mem_insert es k v h with h | h
        · exact .inl (List.mem_cons_of_mem e h)
        · exact .inr h

theorem exists_mem_insert_self : ∀ (es : Entries) (k v : Node),
    ∃ x ∈ insert es k v, x.1.asText? = k.asText?
  | [], k, v => ⟨(k, v), List.mem_singleton.mpr rfl, rfl⟩
  | e :: es, k, v => by
    unfold insert
    split
    · rename_i hsame
      exact ⟨_, List.mem_cons_self, Node.asText?_eq_of_same hsame⟩
    · obtain ⟨x, hx, htext⟩ := exists_mem_insert_self es k v
      exact ⟨x, List.mem_cons_of_mem e hx, htext⟩

theorem exists_mem_insert_of_mem : ∀ (es : Entries) (k v : Node) {y : Node × Node}, y ∈ es →
    ∃ x ∈ insert es k v, x.1 = y.1
  | e :: es, k, v, y, h => by
    unfold insert
    split
    · rcases List.mem_cons.mp h with rfl | h
      · exact ⟨_, List.mem_cons_self, rfl⟩
      · exact ⟨y, List.mem_cons_of_mem _ h, rfl⟩
    · rcases List.mem_cons.mp h with rfl | h
      · exact ⟨_, List.mem_cons_self, rfl⟩
      · obtain ⟨x, hx, hkey⟩ := exists_mem_insert_of_mem es k v h
        exact ⟨x, List.mem_cons_of_mem _ hx, hkey⟩

theorem mem_foldl_insert : ∀ (es acc : Entries) {x : Node × Node},
    x ∈ es.foldl (fun acc e => insert acc e.1 e.2) acc →
    x ∈ acc ∨ ∃ e ∈ es, x.1.asText? = e.1.asText? ∧ x.2 = e.2
  | [], _, _, h => .inl h
  | e :: es, acc, x, h => by
    rcases mem_foldl_insert es (insert acc e.1 e.2) h with h | ⟨e', he', h⟩
    · rcases mem_insert acc e.1 e.2 h with h | h
      · exact .inl h
      · exact .inr ⟨e, List.mem_cons_self, h⟩
    · exact .inr ⟨e', List.mem_cons_of_mem e he', h⟩

theorem exists_mem_foldl_insert : ∀ (es acc : Entries) {y : Node × Node}, y ∈ acc ∨ y ∈ es →
    ∃ x ∈ es.foldl (fun acc e => insert acc e.1 e.2) acc, x.1.asText? = y.1.asText?
  | [], _, y, h => ⟨y, h.resolve_right List.not_mem_nil, rfl⟩
  | e :: es, acc, y, h => by
    -- the key is in the mapping after the first insertion, or it is put in later
    have hnext : ∃ z, (z ∈ insert acc e.1 e.2 ∨ z ∈ es) ∧ z.1.asText? = y.1.asText? := by
      rcases h with h | h
      · obtain ⟨z, hz, hkey⟩ := exists_mem_insert_of_mem acc e.1 e.2 h
        exact ⟨z, .inl hz, by rw [hkey]⟩
      · rcases List.mem_cons.mp h with rfl | h
        · obtain ⟨z, hz, htext⟩ := exists_mem_insert_self acc y.1 y.2
          exact ⟨z, .inl hz, htext⟩
        · exact ⟨y, .inr h, rfl⟩
    obtain ⟨z, hz, hzy⟩ := hnext
    obtain ⟨x, hx, hxz⟩ := exists_mem_foldl_insert es (insert acc e.1 e.2) hz
    exact ⟨x, hx, hxz.trans hzy⟩

end Entries

/-! ### Reading entries -/

/-- An entry tells a name and a text. -/
def Entries.Tells (e : Node × Node) (p : String × String) : Prop :=
  e.1.asText? = some p.1 ∧ e.2.asText? = some p.2

theorem Node.readEntries_eq_ok_iff : ∀ {es : Entries} {ps : List (String × String)},
    readEntries es = .ok ps ↔ List.Forall₂ Entries.Tells es ps
  | [], ps => by
    rw [readEntries, List.forall₂_nil_left_iff, Except.ok.injEq, eq_comm]
  | (k, v) :: es, ps => by
    have hstep : readEntries ((k, v) :: es) = k.readText >>= fun name => v.readText >>= fun s =>
        readEntries es >>= fun rest => .ok ((name, s) :: rest) := by
      rw [readEntries]
      rfl
    rw [hstep, List.forall₂_cons_left_iff]
    constructor
    · intro h
      obtain ⟨name, hname, h⟩ := Except.bind_eq_ok_iff.mp h
      obtain ⟨s, hs, h⟩ := Except.bind_eq_ok_iff.mp h
      obtain ⟨rest, hrest, h⟩ := Except.bind_eq_ok_iff.mp h
      refine ⟨(name, s), rest, ⟨readText_eq_ok_iff.mp hname, readText_eq_ok_iff.mp hs⟩,
        readEntries_eq_ok_iff.mp hrest, (Except.ok.inj h).symm⟩
    · rintro ⟨⟨name, s⟩, rest, ⟨hname, hs⟩, hrest, rfl⟩
      rw [readText_eq_ok_iff.mpr hname, readText_eq_ok_iff.mpr hs, readEntries_eq_ok_iff.mpr hrest]
      rfl

/-! ### Tables -/

/-- A table is filled from entries: every entry gives it its name, and every value of it comes from
an entry with the name. -/
structure Tabulates (es : Entries) (m : TextMap) : Prop where
  named : ∀ e ∈ es, ∃ name value, e.1.wording? = some name ∧ m.get? name = some value
  given : ∀ name value, m.get? name = some value →
    ∃ e ∈ es, e.1.wording? = some name ∧ e.2.wording? = some value

/-- What is found in a table that was filled from entries is one of them. -/
theorem TextMap.mem_of_get?_ofList {ps : List (String × String)} {name value : String}
    (h : (ofList ps).get? name = some value) : (name, value) ∈ ps := by
  rw [get?_ofList] at h
  obtain ⟨before, after, hsplit, -⟩ := List.lookup_eq_some_iff.mp h
  rw [← List.mem_reverse, hsplit]
  exact List.mem_append_right before List.mem_cons_self

theorem TextMap.exists_get?_ofList {ps : List (String × String)} {p : String × String} (h : p ∈ ps) :
    ∃ value, (ofList ps).get? p.1 = some value := by
  rw [get?_ofList]
  cases hp : ps.reverse.lookup p.1 with
  | some value => exact ⟨value, rfl⟩
  | none =>
    have hne := List.lookup_eq_none_iff.mp hp p (List.mem_reverse.mpr h)
    simp at hne

/-- A table is read from a mapping that is built of its entries, numbers and booleans taken as their
text. -/
theorem FieldType.read_table_eq_ok_iff {es : Entries} {m : TextMap} :
    table.read (.map es) = .ok m ↔
      ∃ ps, List.Forall₂ Entries.Tells (Entries.ofList es.spelled) ps ∧ m = .ofList ps := by
  have hread : table.read (.map es) =
      (Node.readEntries (Entries.ofList es.spelled)).map TextMap.ofList := rfl
  rw [hread]
  constructor
  · intro h
    cases hps : Node.readEntries (Entries.ofList es.spelled) with
    | error mismatch =>
      rw [hps] at h
      cases h
    | ok ps =>
      rw [hps] at h
      exact ⟨ps, Node.readEntries_eq_ok_iff.mp hps, (Except.ok.inj h).symm⟩
  · rintro ⟨ps, hps, rfl⟩
    rw [Node.readEntries_eq_ok_iff.mpr hps]
    rfl

theorem FieldType.read_table_of_overlay {es : Entries} {v m : TextMap}
    (h : table.overlay v (.map es) = .ok m) : table.read (.map es) = .ok m := by
  have hoverlay : table.overlay v (.map es) = ((table.read (.map es)).map some).map (table.take v) := rfl
  rw [hoverlay] at h
  cases hread : table.read (.map es) with
  | error mismatch =>
    rw [hread] at h
    cases h
  | ok g =>
    rw [hread] at h
    exact h

theorem tabulates_of_read {es : Entries} {m : TextMap}
    (h : FieldType.table.read (.map es) = .ok m) : Tabulates es m := by
  obtain ⟨ps, hall, rfl⟩ := FieldType.read_table_eq_ok_iff.mp h
  constructor
  · intro e he
    have hmem : (e.1.spelled, e.2.spelled) ∈ es.spelled := List.mem_map_of_mem he
    obtain ⟨x, hx, hkey⟩ := Entries.exists_mem_foldl_insert _ [] (.inr hmem)
    obtain ⟨p, hp, hname, -⟩ := exists_mem_of_forall₂_left hall x hx
    obtain ⟨value, hvalue⟩ := TextMap.exists_get?_ofList hp
    exact ⟨p.1, value, hkey.symm.trans hname, hvalue⟩
  · intro name value hget
    obtain ⟨x, hx, hname, hvalue⟩ := exists_mem_of_forall₂_right hall _ (TextMap.mem_of_get?_ofList hget)
    obtain ⟨y, hy, hkey, hsame⟩ :=
      (Entries.mem_foldl_insert _ [] hx).resolve_left List.not_mem_nil
    obtain ⟨e, he, rfl⟩ := List.mem_map.mp hy
    rw [hsame] at hvalue
    exact ⟨e, he, hkey.symm.trans hname, hvalue⟩

/-- An entry whose name no other one has gives the table its value. -/
theorem Tabulates.get?_of_nodup {es : Entries} {m : TextMap} (h : Tabulates es m)
    (hnodup : (es.map fun e => e.1.wording?).Nodup) {e : Node × Node} (he : e ∈ es) :
    ∃ name value, e.1.wording? = some name ∧ e.2.wording? = some value ∧
      m.get? name = some value := by
  obtain ⟨name, value, hname, hget⟩ := h.named e he
  obtain ⟨e', he', hname', hvalue⟩ := h.given name value hget
  have heq : e' = e := List.inj_on_of_nodup_map hnodup he' he (hname'.trans hname.symm)
  exact ⟨name, value, hname, heq ▸ hvalue, hget⟩

end AlertReceivers
