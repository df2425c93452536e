/-
# Written blocks

A block is written as a mapping with an entry for every field, in the order of the fields. The entries
of a table may come in any order (`FieldType.Writes`). Every value that is written gives its field that
value, so what is read back does not depend on the block that it is laid over.

Key definitions: `FieldType.Writes`, `Values.Writes`, `Block.Writes`.
Key theorems: `FieldType.given?_of_writes`, `Values.laidOver_of_writes`,
`Block.bind_of_writes`, `Block.bind_decode_of_writes`.
-/
import AlertReceivers.Proofs.Binding
import AlertReceivers.Proofs.Validation

namespace AlertReceivers

/-! ### Written values -/

/-- Whether a node is a value as a document holds it. The entries of a table may stand
in any order. -/
def FieldType.Writes : (t : FieldType) → t.Value → Node → Prop
  | table, m, n => ∃ es : List (String × String), es.Perm m.toList ∧
    n = .map (es.map fun e => (.text e.1, .text e.2))
  | t, v, n => n = t.toNode v

/-- Whether entries are the values of fields as a document holds them. -/
def Values.Writes : {fs : List Field} → Values fs → Entries → Prop
  | _, .nil, es => es = []
  | f :: _, .cons v rest, es =>
    ∃ n es', es = (.text f.name, n) :: es' ∧ f.type.Writes v n ∧ rest.Writes es'

/-- Whether a node is a block as a document holds it. -/
def Block.Writes {k : Kind} (b : Block k) (n : Node) : Prop :=
  ∃ es, n = .map es ∧ Values.Writes b es

theorem FieldType.writes_toNode : ∀ (t : FieldType) (v : t.Value), t.Writes v (t.toNode v)
  | table, m => ⟨m.toList, .refl _, rfl⟩
  | text, _ | secret, _ | integer, _ | boolean, _ | tags, _ | format, _ => rfl

theorem Values.writes_toEntries : ∀ {fs : List Field} (b : Values fs), b.Writes b.toEntries
  | _, .nil => rfl
  | f :: _, .cons v rest => ⟨_, _, rfl, f.type.writes_toNode v, rest.writes_toEntries⟩

theorem Block.writes_toNode {k : Kind} (b : Block k) : b.Writes b.toNode :=
  ⟨_, rfl, Values.writes_toEntries b⟩

/-! ### Reading values back -/

namespace Node

theorem readTexts_map_text : ∀ ss : List String, readTexts (ss.map .text) = .ok ss
  | [] => rfl
  | s :: ss => by
    rw [List.map_cons, readTexts, readTexts_map_text ss]
    rfl

theorem readEntries_map_text : ∀ es : List (String × String),
    readEntries (es.map fun e => (.text e.1, .text e.2)) = .ok es
  | [] => rfl
  | e :: es => by
    rw [List.map_cons, readEntries, readEntries_map_text es]
    rfl

theorem readInteger_int (i : Int64) : readInteger (.int i.toInt) = .ok i := by
  show (if Int64.minValue.toInt ≤ i.toInt ∧ i.toInt ≤ Int64.maxValue.toInt
    then Except.ok (Int64.ofInt i.toInt) else Except.error (Mismatch.range i.toInt)) = .ok i
  rw [if_pos ⟨i.minValue_le_toInt, i.toInt_le⟩, Int64.ofInt_toInt]

theorem readTable_map_text (es : List (String × String)) :
    readTable (.map (es.map fun e => (.text e.1, .text e.2))) = .ok (.ofList es) := by
  show (readEntries (es.map fun e => (.text e.1, .text e.2))).map TextMap.ofList = _
  rw [readEntries_map_text]
  rfl

end Node

namespace Entries

theorem insert_of_forall_ne : ∀ {es : Entries} {k v : Node},
    (∀ e ∈ es, e.1.same k = false) → insert es k v = es ++ [(k, v)]
  | [], _, _, _ => rfl
  | e :: es, k, v, h => by
    rw [insert, h e List.mem_cons_self, insert_of_forall_ne fun x hx => h x (List.mem_cons_of_mem e hx)]
    rfl

theorem ofList_of_distinct {es : Entries} (h : Distinct es) : ofList es = es := by
  have key : ∀ (es acc : Entries), Distinct (acc ++ es) →
      es.foldl (fun acc e => insert acc e.1 e.2) acc = acc ++ es := by
    intro es
    induction es with
    | nil => exact fun acc _ => (List.append_nil acc).symm
    | cons e es ih =>
      intro acc h
      have hnew : ∀ x ∈ acc, x.1.same e.1 = false := fun x hx =>
        (List.pairwise_append.mp h).2.2 x hx e List.mem_cons_self
      rw [List.foldl_cons, insert_of_forall_ne hnew, ih, List.append_assoc]
      · rfl
      · rw [List.append_assoc]
        exact h
  exact key es [] h

end Entries

theorem Entries.distinct_map_text {es : List (String × String)} (h : (es.map (·.1)).Nodup) :
    Distinct (es.map fun e => (.text e.1, .text e.2)) := by
  rw [Distinct, List.pairwise_map]
  refine (List.pairwise_map.mp h).imp fun {a b} hab => ?_
  simpa [Node.same] using hab

/-- A written value gives its field the value, whatever the field had before. -/
theorem FieldType.given?_of_writes : ∀ {t : FieldType} {v : t.Value} {n : Node},
    t.Writes v n → t.isSettled v → ∃ g, t.given? n = .ok (some g) ∧ ∀ u, t.take u (some g) = v
  | text, v, _, rfl, _ => ⟨v, rfl, fun _ => rfl⟩
  | secret, v, _, rfl, _ => ⟨v, rfl, fun _ => rfl⟩
  | boolean, v, _, rfl, _ => ⟨v, rfl, fun _ => rfl⟩
  | integer, v, _, rfl, _ =>
    ⟨v, congrArg (Except.map some) (Node.readInteger_int v), fun _ => rfl⟩
  | tags, v, _, rfl, _ => by
    refine ⟨v, ?_, fun _ => rfl⟩
    have hspelled : (v.map Node.text).map Node.spelled = v.map .text := by
      rw [List.map_map]
      rfl
    have hread : (Node.seq (v.map .text)).spelledItems.readTags = .ok v := by
      rw [Node.spelledItems, hspelled]
      exact Node.readTexts_map_text v
    exact congrArg (Except.map some) hread
  | table, v, _, ⟨es, hes, rfl⟩, _ => by
    have hnodup : (es.map (·.1)).Nodup := (hes.map (·.1)).nodup_iff.mpr v.nodup_names
    have hspelled : (Node.map (es.map fun e => (.text e.1, .text e.2))).spelledEntries =
        .map (es.map fun e => (.text e.1, .text e.2)) := by
      rw [Node.spelledEntries, List.map_map]
      exact congrArg Node.map (Entries.ofList_of_distinct (Entries.distinct_map_text hnodup))
    have hread : (Node.map (es.map fun e => (.text e.1, .text e.2))).spelledEntries.readTable =
        .ok v := by
      rw [hspelled, Node.readTable_map_text, TextMap.ofList_of_perm hes]
    exact ⟨v, congrArg (Except.map some) hread, fun _ => rfl⟩
  | format, v, _, rfl, hv => by
    refine ⟨v.format.name, rfl, fun u => ?_⟩
    have hv : v = ⟨v.format, none⟩ := congrArg (FormatSetting.mk v.format) hv
    show FormatSetting.choose u v.format.name = v
    rw [FormatSetting.choose_name]
    exact hv.symm

/-! ### Reading blocks back -/

namespace Values

/-- Every written entry has the name of a field, and gives it something. -/
theorem of_mem_writes : ∀ {fs : List Field} {w : Values fs} {es : Entries},
    w.Writes es → w.rejected? = none →
    ∀ e ∈ es, ∃ f ∈ fs, e.1 = .text f.name ∧ ∃ g, f.type.given? e.2 = .ok g
  | _, .nil, _, rfl, _, e, he => absurd he List.not_mem_nil
  | f :: fs, .cons v rest, _, ⟨n, es', rfl, hn, hes'⟩, hw, e, he => by
    obtain ⟨hv, hrest⟩ := rejected?_cons_eq_none_iff.mp hw
    rcases List.mem_cons.mp he with rfl | he
    · obtain ⟨g, hg, -⟩ := FieldType.given?_of_writes hn hv
      exact ⟨f, List.mem_cons_self, rfl, _, hg⟩
    · obtain ⟨f', hf', h⟩ := of_mem_writes hes' hrest e he
      exact ⟨f', List.mem_cons_of_mem f hf', h⟩

/-- Written values that are laid over other values take their place. -/
theorem laidOver_of_writes : ∀ {fs : List Field} {w : Values fs} {es : Entries},
    (fs.map Field.name).Nodup → w.Writes es → w.rejected? = none →
    ∀ seed : Values fs, seed.laidOver es = w
  | _, .nil, _, _, _, _, .nil => rfl
  | f :: fs, .cons v rest, _, hfs, ⟨n, es', rfl, hn, hes'⟩, hw, .cons u seed => by
    obtain ⟨hv, hrest⟩ := rejected?_cons_eq_none_iff.mp hw
    obtain ⟨hf, hfs⟩ := List.nodup_cons.mp hfs
    obtain ⟨g, hg, htake⟩ := FieldType.given?_of_writes hn hv
    have hnamed : f.isNamedBy (.text f.name, n) = true := Field.isNamedBy_iff.mpr rfl
    -- the entry at hand is for this field only, and the others are for other fields
    have hothers : f.given es' = [] := by
      refine Field.given_eq_nil fun e he => ?_
      obtain ⟨f', hf', hkey, -⟩ := of_mem_writes hes' hrest e he
      rw [Bool.eq_false_iff, ne_eq, Field.isNamedBy_iff, hkey]
      intro h
      rw [← Option.some_inj.mp h] at hf
      exact hf (List.mem_map_of_mem hf')
    have hgiven : f.given ((.text f.name, n) :: es') = [some g] := by
      rw [Field.given_cons_of_named hnamed hg, hothers]
    have hseed : seed.laidOver [(.text f.name, n)] = seed := laidOver_of_other seed hnamed hf
    have htail : seed.laidOver ((.text f.name, n) :: es') = rest := by
      rw [← List.singleton_append, laidOver_append, hseed, laidOver_of_writes hfs hes' hrest seed]
    rw [laidOver, hgiven, htail]
    exact congrArg (Values.cons · rest) (htake u)

end Values

namespace Block

/-- A written block that is bound replaces the block that it is laid over and leaves
nothing over. -/
theorem bind_of_writes {k : Kind} {w : Block k} {n : Node} (hw : Values.rejected? w = none)
    (hn : w.Writes n) (seed : Block k) : seed.bind n = .ok ⟨w, []⟩ := by
  obtain ⟨es, rfl, hes⟩ := hn
  have hentry : ∀ e ∈ es, ∃ f, k.field? e = some f ∧ f.mistake? k e = none := by
    intro e he
    obtain ⟨f, hf, hkey, g, hg⟩ := Values.of_mem_writes hes hw e he
    refine ⟨f, Kind.field?_eq_some_iff.mpr ⟨hf, by rw [hkey]; rfl⟩, ?_⟩
    rw [Field.mistake?, hg]
  have hmistake : es.findSome? k.mistake? = none := by
    rw [List.findSome?_eq_none_iff]
    intro e he
    obtain ⟨f, hf, hm⟩ := hentry e he
    rw [Kind.mistake?, hf, Option.bind_some, hm]
  have hresidual : (es.filter fun e => (k.field? e).isNone) = [] := by
    rw [List.filter_eq_nil_iff]
    intro e he
    obtain ⟨f, hf, -⟩ := hentry e he
    simp [hf]
  rw [bind, bindEntries_eq, hmistake, hresidual,
    Values.laidOver_of_writes k.fieldNames_nodup hes hw seed]

theorem decode_of_writes [TextMap.Walk] {k : Kind} {w : Block k} {n : Node} (hw : w.validate = .ok w)
    (hn : w.Writes n) : decode k n = .ok w := by
  obtain ⟨-, hrejected, -⟩ := validate_eq_ok_iff.mp hw
  rw [decode, bind_of_writes hrejected hn (defaults k)]
  exact hw

/-- **A written block stands by itself.** A validated block is valid as it is. In every written
form it replaces whatever block it is laid over, with nothing left over, and it is decoded
to itself. -/
theorem bind_decode_of_writes [TextMap.Walk] {k : Kind} {b w : Block k} (h : b.validate = .ok w) :
    w.validate = .ok w ∧ w.Writes w.toNode ∧
      ∀ n, w.Writes n → (∀ seed : Block k, seed.bind n = .ok ⟨w, []⟩) ∧ decode k n = .ok w := by
  have hw := validate_of_validate h
  obtain ⟨-, hrejected, -⟩ := validate_eq_ok_iff.mp hw
  exact ⟨hw, w.writes_toNode, fun n hn => ⟨bind_of_writes hrejected hn, decode_of_writes hw hn⟩⟩

section
attribute [local instance] TextMap.Walk.ascending

/-- The standard headers of a mail are written with those that were given, and read back
in another order. -/
theorem bind_decode_of_writes_mail :
    ∃ b w : Block .email, b.validate = .ok w ∧ w.headers ≠ b.headers ∧
      decode .email (.map [(.text "to", .text "ops@example.com"), (.text "from", .text ""),
        (.text "smarthost", .text ""),
        (.text "headers", .map [(.text "X-Team", .text "db"), (.text "To", .text "noc"),
          (.text "Subject", .text defaultSubject), (.text "From", .text "")]),
        (.text "html", .text "")]) = .ok w := by
  let b : Block .email := .cons "ops@example.com" (.cons "" (.cons ""
    (.cons (.ofList [("x-team", "db"), ("TO", "noc")]) (.cons "" .nil))))
  let written : List (String × String) :=
    [("X-Team", "db"), ("To", "noc"), ("Subject", defaultSubject), ("From", "")]
  let w : Block .email := b.withHeaders (.ofList written)
  have hvalid : b.validate = .ok w := rfl
  have hperm : written.Perm (TextMap.ofList written).toList := by decide +kernel
  refine ⟨b, w, hvalid, by decide +kernel, ((bind_decode_of_writes hvalid).2.2 _ ?_).2⟩
  exact ⟨_, rfl, _, _, rfl, rfl, _, _, rfl, rfl, _, _, rfl, rfl,
    _, _, rfl, ⟨written, hperm, rfl⟩, _, _, rfl, rfl, rfl⟩

end

end Block
end AlertReceivers
