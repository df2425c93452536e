/-
# Numbers and booleans in quotes

Where a field needs texts, a number or a boolean without a tag is taken as its text, so quotes around
it make no difference. In a table two keys may become one by the quotes; reading the table would have
come to this as well, since a mapping that was built of quoted entries stays as it is when they are
put in once more. Where a field needs an integer or a boolean, a text is refused, whatever it spells.

Key definitions: `FieldType.inQuotes`, `Kind.inQuotes`.
Key theorems: `Entries.ofList_spelled_ofList_spelled`, `Block.decode_map_eq_of_given?`,
`Block.decode_inQuotes`.
-/
import AlertReceivers.Proofs.EntryOrder
import AlertReceivers.Proofs.Wording
import AlertReceivers.Proofs.Written

namespace AlertReceivers

/-! ### Quotes -/

/-- What is given for a field of a type, with its numbers and booleans in quotes where texts are
needed: by itself, as an item of a list, or as a key or a value of a table, which is built again. -/
def FieldType.inQuotes : FieldType → Node → Node
  | text, n | secret, n | format, n => n.spelled
  | tags, .seq items => .seq (items.map Node.spelled)
  | table, .map es => .map (Entries.ofList (Entries.spelled es))
  | integer, n | boolean, n | tags, n | table, n => n

/-- An entry of a block, with the numbers and booleans in quotes that its field takes as texts. -/
def Kind.inQuotes (k : Kind) (e : Node × Node) : Node × Node :=
  match k.field? e with
  | some f => (e.1, f.type.inQuotes e.2)
  | none => e

/-! ### Quotes around quotes -/

namespace Entries

theorem forall_mem_insert {p : Node → Prop} {k v : Node} (hk : p k) (hv : p v) : ∀ {es : Entries},
    (∀ e ∈ es, p e.1 ∧ p e.2) → ∀ e ∈ insert es k v, p e.1 ∧ p e.2
  | [], _, e, he => by
    rw [List.mem_singleton.mp he]
    exact ⟨hk, hv⟩
  | x :: es, h, e, he => by
    obtain ⟨hx, hes⟩ := List.forall_mem_cons.mp h
    unfold insert at he
    split at he
    · rcases List.mem_cons.mp he with rfl | he
      · exact ⟨hx.1, hv⟩
      · exact hes e he
    · rcases List.mem_cons.mp he with rfl | he
      · exact hx
      · exact forall_mem_insert hk hv hes e he

theorem forall_mem_foldl_insert {p : Node → Prop} : ∀ {es acc : Entries},
    (∀ e ∈ es, p e.1 ∧ p e.2) → (∀ e ∈ acc, p e.1 ∧ p e.2) →
    ∀ e ∈ es.foldl (fun acc e => insert acc e.1 e.2) acc, p e.1 ∧ p e.2
  | [], _, _, hacc => hacc
  | _ :: es, _, hes, hacc => by
    obtain ⟨hx, hes⟩ := List.forall_mem_cons.mp hes
    exact @forall_mem_foldl_insert p es _ hes (forall_mem_insert hx.1 hx.2 hacc)

/-- A mapping that was built of quoted entries stays as it is when they are quoted and put in again. -/
theorem ofList_spelled_ofList_spelled (es : Entries) :
    ofList (spelled (ofList es.spelled)) = ofList es.spelled := by
  have hspelled : ∀ e ∈ ofList es.spelled, e.1.spelled = e.1 ∧ e.2.spelled = e.2 := by
    refine forall_mem_foldl_insert (p := fun n => n.spelled = n) (fun e he => ?_) (by simp)
    obtain ⟨e', -, rfl⟩ := List.mem_map.mp he
    exact ⟨e'.1.spelled_spelled, e'.2.spelled_spelled⟩
  have hmap : spelled (ofList es.spelled) = ofList es.spelled := by
    refine (List.map_congr_left fun e he => ?_).trans (List.map_id _)
    obtain ⟨hkey, hvalue⟩ := hspelled e he
    exact Prod.ext hkey hvalue
  rw [hmap]
  exact ofList_of_distinct (distinct_ofList _)

end Entries

namespace FieldType

theorem read_inQuotes : ∀ (t : FieldType) (n : Node), t.read (t.inQuotes n) = t.read n
  | text, n => congrArg Node.readText n.spelled_spelled
  | secret, n => congrArg (fun n : Node => n.readText.map Secret.mk) n.spelled_spelled
  | format, n => congrArg Node.readText n.spelled_spelled
  | integer, _ | boolean, _ => rfl
  | tags, .seq items => by
    have hitems : (items.map Node.spelled).map Node.spelled = items.map Node.spelled := by
      rw [List.map_map]
      exact List.map_congr_left fun n _ => n.spelled_spelled
    exact congrArg (fun items => (Node.seq items).readTags) hitems
  | table, .map es =>
    congrArg (fun es => (Node.map es).readTable) (Entries.ofList_spelled_ofList_spelled es)
  | tags, .null | tags, .bool _ | tags, .int _ | tags, .float _ | tags, .text _ | tags, .map _
  | tags, .tagged _ _ => rfl
  | table, .null | table, .bool _ | table, .int _ | table, .float _ | table, .text _
  | table, .seq _ | table, .tagged _ _ => rfl

theorem isNull_inQuotes : ∀ (t : FieldType) (n : Node), (t.inQuotes n).isNull = n.isNull
  | text, n | secret, n | format, n => n.isNull_spelled
  | integer, _ | boolean, _ => rfl
  | tags, .seq _ | table, .map _ => rfl
  | tags, .null | tags, .bool _ | tags, .int _ | tags, .float _ | tags, .text _ | tags, .map _
  | tags, .tagged _ _ => rfl
  | table, .null | table, .bool _ | table, .int _ | table, .float _ | table, .text _
  | table, .seq _ | table, .tagged _ _ => rfl

theorem given?_inQuotes (t : FieldType) (n : Node) : t.given? (t.inQuotes n) = t.given? n := by
  unfold given?
  rw [isNull_inQuotes, read_inQuotes]

theorem given?_of_asText? {t : FieldType} (ht : t = .integer ∨ t = .boolean) {n : Node} {s : String}
    (hn : n.asText? = some s) : ∃ needed, t.given? n = .error (.shape (.text s) needed) := by
  have huntagged : n.untagged = .text s := Node.untagged_eq_text_iff.mpr hn
  have hnull : n.isNull = false := by
    unfold Node.isNull
    rw [huntagged]
  rcases ht with rfl | rfl
  · refine ⟨.integer, given?_eq_error_iff.mpr ⟨hnull, ?_⟩⟩
    show n.readInteger = _
    unfold Node.readInteger
    rw [huntagged]
  · refine ⟨.boolean, given?_eq_error_iff.mpr ⟨hnull, ?_⟩⟩
    show n.readBoolean = _
    unfold Node.readBoolean
    rw [huntagged]

end FieldType

/-! ### Entries with other values -/

theorem Kind.field?_congr {k : Kind} {e e' : Node × Node} (h : e.1 = e'.1) :
    k.field? e = k.field? e' := by
  unfold field? Field.isNamedBy
  rw [h]

section
variable {k : Kind} {change : Node × Node → Node × Node} (hkey : ∀ e, (change e).1 = e.1)
include hkey

theorem Entries.keyNames_map (es : Entries) : keyNames (es.map change) = keyNames es := by
  unfold keyNames
  rw [List.map_map]
  exact List.map_congr_left fun e _ => congrArg keyName (hkey e)

theorem Kind.filter_isUnknown_map (es : Entries) :
    (es.map change).filter k.isUnknown = (es.filter k.isUnknown).map change := by
  rw [List.filter_map]
  refine congrArg (List.map change) (List.filter_congr fun e _ => ?_)
  rw [Function.comp_apply, isUnknown_eq, isUnknown_eq, field?_congr (hkey e)]

variable (hgiven : ∀ e f, k.field? e = some f → f.type.given? (change e).2 = f.type.given? e.2)
include hgiven

theorem Kind.mistake?_change (e : Node × Node) : k.mistake? (change e) = k.mistake? e := by
  unfold mistake?
  rw [field?_congr (hkey e)]
  cases hf : k.field? e with
  | none => rfl
  | some f =>
    unfold Field.mistake?
    rw [Option.bind_some, Option.bind_some, hgiven e f hf]

theorem Kind.laid_map (es : Entries) : k.laid (es.map change) = k.laid es := by
  refine Values.ext_get fun i => ?_
  have hfield : (k.fields.get i).given (es.map change) = (k.fields.get i).given es := by
    unfold Field.given
    rw [List.filterMap_map]
    refine List.filterMap_congr fun e _ => ?_
    have hnamed : (k.fields.get i).isNamedBy (change e) = (k.fields.get i).isNamedBy e := by
      unfold Field.isNamedBy
      rw [hkey]
    rw [Function.comp_apply, hnamed]
    split
    · rename_i h
      have hf := Kind.field?_eq_some_iff.mpr ⟨List.get_mem k.fields i, Field.isNamedBy_iff.mp h⟩
      rw [hgiven e _ hf]
    · rfl
  rw [laid, laid, Values.get_laidOver, Values.get_laidOver, hfield]

/-- A mapping is decoded by its keys and by what its values give. -/
theorem Block.decode_map_eq_of_given? [TextMap.Walk] (es : Entries) :
    decode k (.map (es.map change)) = decode k (.map es) := by
  have hmistakes : (es.map change).findSome? k.mistake? = es.findSome? k.mistake? := by
    rw [List.findSome?_map]
    exact congrArg (es.findSome? ·) (funext (Kind.mistake?_change hkey hgiven))
  rw [decode_map, decode_map, hmistakes, Kind.filter_isUnknown_map hkey, Kind.laid_map hkey hgiven,
    Entries.keyNames_map hkey]
  simp only [List.map_eq_nil_iff]

end

/-! ### Decoding -/

namespace Block

/-- **Quotes make no difference where texts are needed, and always one where they are not.** A block
in which every number and boolean that is taken as a text is quoted is decoded with the same result,
the mistakes and their messages included. But a text in the place of an integer or a boolean is a
mistake of type, whatever it spells, and in whatever block: the one that is reported, unless an
earlier entry makes another one. -/
theorem decode_inQuotes [TextMap.Walk] (k : Kind) :
    (∀ es : Entries, decode k (.map (es.map k.inQuotes)) = decode k (.map es)) ∧
    ∀ f ∈ k.fields, f.type = .integer ∨ f.type = .boolean →
      ∀ (before after : Entries) (key n : Node) (s : String),
        key.asText? = some f.name → n.asText? = some s →
        (∃ field expected reason, decode k (.map (before ++ (key, n) :: after)) =
          .error (.invalidType k field expected reason)) ∧
        (WellTyped k before → ∃ needed, decode k (.map (before ++ (key, n) :: after)) =
          .error (.invalidType k f.name f.type.expected (Mismatch.shape (.text s) needed).message)) := by
  constructor
  · refine decode_map_eq_of_given? (fun e => ?_) fun e f hf => ?_
    · unfold Kind.inQuotes
      split <;> rfl
    · unfold Kind.inQuotes
      rw [hf]
      exact f.type.given?_inQuotes e.2
  · intro f hf htype before after key n s hkey hn
    obtain ⟨needed, hgiven⟩ := FieldType.given?_of_asText? htype hn
    have hmistake : k.mistake? (key, n) = some (.invalidType k f.name f.type.expected
        (Mismatch.shape (.text s) needed).message) :=
      Kind.mistake?_eq_some_iff.mpr ⟨f, _, Kind.field?_eq_some_iff.mpr ⟨hf, hkey⟩, hgiven, rfl⟩
    have hdecode := decode_of_mistake? before after hmistake
    rw [hdecode]
    constructor
    · cases hfirst : before.findSome? k.mistake? with
      | none => exact ⟨_, _, _, rfl⟩
      | some mistake =>
        obtain ⟨field, expected, reason, rfl⟩ := Kind.exists_eq_invalidType_of_findSome? hfirst
        exact ⟨field, expected, reason, rfl⟩
    · intro hbefore
      rw [List.findSome?_eq_none_iff.mpr (wellTyped_iff.mp hbefore)]
      exact ⟨needed, rfl⟩

section
attribute [local instance] TextMap.Walk.ascending

/-- A chat room with its token and its color in quotes is the same chat room, but with its number in
quotes it is refused. -/
theorem decode_inQuotes_room :
    let before : Entries := [(.text "auth_token", .int 42), (.text "color", .bool true)]
    let room (n : Node) : Node × Node := (.tagged "t" (.text "room_id"), n)
    (before ++ [room (.int 7)]).map Kind.hipchat.inQuotes =
        [(.text "auth_token", .text "42"), (.text "color", .text "true"), room (.int 7)] ∧
      decode .hipchat (.map [(.text "auth_token", .text "42"), (.text "color", .text "true"), room (.int 7)]) =
        decode .hipchat (.map (before ++ [room (.int 7)])) ∧
      ∃ needed, decode .hipchat (.map (before ++ room (.text "7") :: [])) = .error (.invalidType .hipchat
        "room_id" "integer" (Mismatch.shape (.text "7") needed).message) := by
  intro before room
  have hfield : Field.optional "room_id" .integer ∈ Kind.hipchat.fields :=
    List.mem_cons_of_mem _ List.mem_cons_self
  have htyped : WellTyped .hipchat before := wellTyped_iff.mpr fun e he => by
    rcases List.mem_cons.mp he with rfl | he
    · rfl
    · rw [List.mem_singleton.mp he]
      rfl
  have hquoted : (before ++ [room (.int 7)]).map Kind.hipchat.inQuotes =
      [(.text "auth_token", .text "42"), (.text "color", .text "true"), room (.int 7)] := by rfl
  obtain ⟨hsame, hrefused⟩ := decode_inQuotes .hipchat
  refine ⟨hquoted, ?_, (hrefused _ hfield (.inl rfl) before [] _ (.text "7") "7" rfl rfl).2 htyped⟩
  rw [← hquoted]
  exact hsame (before ++ [room (.int 7)])

end

end Block
end AlertReceivers
