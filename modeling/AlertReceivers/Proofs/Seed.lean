/-
# What a binding takes from its seed

Whether a binding ends with a mistake, and what it leaves over, is a matter of the entries alone. So
is the value of every field that they give one (`Field.giver?`). All other fields are those of the
seed. A format is set relative to the one before, and a word that is refused leaves it, so two seeds
can lead to two formats; but the same word is pending in both.

Key definitions: `Field.giver?`, `Block.MadeOf`.
Key theorems: `Values.get_laidOver_of_giver?`, `Values.rejected?_laidOver_eq`,
`Block.overlay_of_only`, `Block.bind_of_seeds`.
-/
import AlertReceivers.Proofs.Null

namespace AlertReceivers

/-- The last entry that gives a field something: it names the field, and its value is not null. -/
def Field.giver? (f : Field) (es : Entries) : Option (Node × Node) :=
  (es.filter fun e => f.isNamedBy e && !e.2.isNull).getLast?

/-! ### One entry more -/

theorem Field.giver?_concat (f : Field) (es : Entries) (e : Node × Node) :
    f.giver? (es ++ [e]) = if f.isNamedBy e = true ∧ e.2.isNull = false then some e
      else f.giver? es := by
  unfold giver?
  rw [List.filter_append, List.filter_singleton]
  by_cases hgives : f.isNamedBy e = true ∧ e.2.isNull = false
  · simp [hgives]
  · have hskipped : (f.isNamedBy e && !e.2.isNull) = false := by
      simpa using hgives
    simp [hskipped, hgives]

namespace FieldType

theorem take_some_eq : ∀ {t : FieldType}, t ≠ .format → ∀ (v w : t.Value) (g : t.Given),
    t.take v (some g) = t.take w (some g)
  | format, ht, _, _, _ => absurd rfl ht
  | text, _, _, _, _ | secret, _, _, _, _ | integer, _, _, _, _ | boolean, _, _, _, _
  | tags, _, _, _, _ | table, _, _, _, _ => rfl

/-- The word that is pending after something has been given, or a null, comes from there. -/
theorem rejected_take_eq (s u : format.Value) (g : Option format.Given) :
    FormatSetting.rejected (format.take s g) = FormatSetting.rejected (format.take u g) := by
  cases g with
  | none =>
    have hs : format.take s none = format.settle s := format.take_none s
    have hu : format.take u none = format.settle u := format.take_none u
    rw [hs, hu]
    rfl
  | some word =>
    show FormatSetting.rejected (FormatSetting.choose s word) =
      FormatSetting.rejected (FormatSetting.choose u word)
    unfold FormatSetting.choose
    cases MessageFormat.ofName? word <;> rfl

/-- So it does after several things have been given, or nulls, if there are any. -/
theorem rejected_takeAll_eq (s u : format.Value) {gs : List (Option format.Given)} (hgs : gs ≠ []) :
    FormatSetting.rejected (format.takeAll s gs) = FormatSetting.rejected (format.takeAll u gs) := by
  induction gs using List.reverseRecOn with
  | nil => exact absurd rfl hgs
  | append_singleton before g _ =>
    unfold takeAll
    rw [List.foldl_append, List.foldl_append]
    exact rejected_take_eq _ _ g

end FieldType

namespace Values

variable {fs : List Field}

theorem get_laidOver_concat (b : Values fs) (es : Entries) (e : Node × Node) (i : Fin fs.length) :
    (b.laidOver (es ++ [e])).get i =
      (fs.get i).type.takeAll ((b.laidOver es).get i) ((fs.get i).given [e]) := by
  rw [laidOver_append, get_laidOver]

theorem get_laidOver_concat_of_not_gives (b : Values fs) (es : Entries) {e : Node × Node}
    {i : Fin fs.length} (ht : (fs.get i).type ≠ .format)
    (he : ¬ ((fs.get i).isNamedBy e = true ∧ e.2.isNull = false)) :
    (b.laidOver (es ++ [e])).get i = (b.laidOver es).get i := by
  rw [get_laidOver_concat]
  by_cases hnull : e.2.isNull = true
  · have hsettle := FieldType.settle_of_ne ((b.laidOver es).get i) ht
    rw [Field.takeAll_given_of_isNull hnull, hsettle, ite_self]
  · have hnamed : (fs.get i).isNamedBy e = false := by
      rw [Bool.eq_false_iff]
      exact fun h => he ⟨h, by simpa using hnull⟩
    rw [Field.given_singleton_of_unnamed hnamed]
    rfl

/-- A field that is no format has what the last entry gives it that gives it something. -/
theorem get_laidOver_of_giver? (b : Values fs) {i : Fin fs.length} (ht : (fs.get i).type ≠ .format)
    {es : Entries} (htyped : ∀ e ∈ es, (fs.get i).isNamedBy e = true →
      ∃ g, (fs.get i).type.given? e.2 = .ok g) {e : Node × Node}
    (he : (fs.get i).giver? es = some e) (v : (fs.get i).type.Value) :
    (fs.get i).type.overlay v e.2 = .ok ((b.laidOver es).get i) := by
  induction es using List.reverseRecOn with
  | nil => cases he
  | append_singleton es x ih =>
    rw [Field.giver?_concat] at he
    split at he
    · rename_i hgives
      obtain ⟨hnamed, hnull⟩ := hgives
      rw [← Option.some_inj.mp he]
      obtain ⟨g, hg⟩ := htyped x (List.mem_append_right es (List.mem_singleton.mpr rfl)) hnamed
      obtain ⟨w, rfl⟩ := (fs.get i).type.exists_eq_some_of_given? hnull hg
      have hgiven : (fs.get i).given [x] = [some w] := Field.given_cons_of_named hnamed hg []
      have htake := FieldType.take_some_eq ht v ((b.laidOver es).get i) w
      rw [get_laidOver_concat, hgiven, FieldType.overlay, hg]
      exact congrArg Except.ok htake
    · rename_i hgives
      rw [get_laidOver_concat_of_not_gives b es ht hgives]
      exact ih (fun e he => htyped e (List.mem_append_left [x] he)) he

theorem get_laidOver_of_giver?_eq_none (b : Values fs) {i : Fin fs.length}
    (ht : (fs.get i).type ≠ .format) {es : Entries} (he : (fs.get i).giver? es = none) :
    (b.laidOver es).get i = b.get i := by
  induction es using List.reverseRecOn with
  | nil => rw [laidOver_nil]
  | append_singleton es x ih =>
    rw [Field.giver?_concat] at he
    split at he
    · cases he
    · rename_i hgives
      rw [get_laidOver_concat_of_not_gives b es ht hgives]
      exact ih he

/-- The word that is pending does not depend on the values before if entries name the format. -/
theorem rejected?_laidOver_eq {es : Entries} : ∀ {fs : List Field} (a b : Values fs),
    (∀ f ∈ fs, f.type = .format → f.given es ≠ []) →
    (a.laidOver es).rejected? = (b.laidOver es).rejected?
  | _, .nil, .nil, _ => rfl
  | ⟨name, type, required, default⟩ :: fs, .cons v a, .cons w b, h => by
    have hrest := rejected?_laidOver_eq a b fun f hf => h f (List.mem_cons_of_mem _ hf)
    cases type with
    | format =>
      have hgiven := h _ List.mem_cons_self rfl
      have hpending := FieldType.rejected_takeAll_eq v w hgiven
      unfold laidOver rejected?
      rw [hpending, hrest]
    | _ => exact hrest

end Values

/-! ### Blocks -/

theorem Kind.type_ne_format {k : Kind} {i : Fin k.fields.length}
    (hi : (k.fields.get i).name ≠ "message_format") : (k.fields.get i).type ≠ .format :=
  mt (type_eq_format_iff _ (List.get_mem _ i)).mp hi

namespace Block

/-- A block is what entries make of a seed, the format of messages apart: a field has what the last
entry gives it that gives it something, whatever it had before, and stays as it is if there is
none. -/
structure MadeOf {k : Kind} (es : Entries) (seed b : Block k) : Prop where
  given : ∀ i e, (k.fields.get i).name ≠ "message_format" → (k.fields.get i).giver? es = some e →
    ∀ v, (k.fields.get i).type.overlay v e.2 = .ok (Values.get b i)
  kept : ∀ i, (k.fields.get i).name ≠ "message_format" → (k.fields.get i).giver? es = none →
    Values.get b i = Values.get seed i

section
variable {k : Kind} {es : Entries}

theorem MadeOf.get_eq {s t b c : Block k} (hb : MadeOf es s b) (hc : MadeOf es t c)
    {i : Fin k.fields.length} (hi : (k.fields.get i).name ≠ "message_format")
    (hgiven : ((k.fields.get i).giver? es).isSome = true) : Values.get b i = Values.get c i := by
  obtain ⟨e, he⟩ := Option.isSome_iff_exists.mp hgiven
  have hsame := (hb.given i e hi he (Values.get b i)).symm.trans (hc.given i e hi he _)
  exact Except.ok.inj hsame

theorem madeOf_laidOver (hes : es.findSome? k.mistake? = none) (seed : Block k) :
    MadeOf es seed (Values.laidOver seed es) := by
  have htyped : ∀ i : Fin k.fields.length, ∀ e ∈ es, (k.fields.get i).isNamedBy e = true →
      ∃ g, (k.fields.get i).type.given? e.2 = .ok g := fun i e he hnamed =>
    Kind.exists_given?_of_mistake? (List.get_mem _ i) hnamed (List.findSome?_eq_none_iff.mp hes e he)
  constructor
  · intro i e hi he v
    exact Values.get_laidOver_of_giver? seed (Kind.type_ne_format hi) (htyped i) he v
  · intro i hi he
    exact Values.get_laidOver_of_giver?_eq_none seed (Kind.type_ne_format hi) he

/-- A field that one entry names has what this entry gives it, whatever it had before. -/
theorem overlay_of_only {i : Fin k.fields.length} (hi : (k.fields.get i).name ≠ "message_format")
    {e : Node × Node} (honly : es.filter (k.fields.get i).isNamedBy = [e]) (hnull : e.2.isNull = false)
    (htyped : WellTyped k es) (v : (k.fields.get i).type.Value) :
    (k.fields.get i).type.overlay v e.2 = .ok (Values.get (k.laid es) i) := by
  have hgiver : (k.fields.get i).giver? es = some e := by
    have hgives : es.filter (fun e => (k.fields.get i).isNamedBy e && !e.2.isNull) = [e] := by
      rw [← List.filter_filter, List.filter_comm, honly, List.filter_singleton, hnull]
      rfl
    unfold Field.giver?
    rw [hgives]
    rfl
  have hes := List.findSome?_eq_none_iff.mpr (wellTyped_iff.mp htyped)
  exact (madeOf_laidOver hes (defaults k)).given i e hi hgiver v

theorem pending?_laidOver_eq (hes : es.findSome? k.mistake? = none)
    (hnamed : ∃ e ∈ es, e.1.asText? = some "message_format") (s t : Block k) :
    pending? (Values.laidOver s es) = pending? (Values.laidOver t es) := by
  obtain ⟨e, he, hkey⟩ := hnamed
  have hgiven : ∀ f ∈ k.fields, f.type = .format → f.given es ≠ [] := by
    intro f hf hformat
    have hname : f.isNamedBy e = true :=
      Field.isNamedBy_iff.mpr (by rw [hkey, (Kind.type_eq_format_iff f hf).mp hformat])
    obtain ⟨g, hg⟩ := Kind.exists_given?_of_mistake? hf hname (List.findSome?_eq_none_iff.mp hes e he)
    have hmem : g ∈ f.given es :=
      List.mem_filterMap.mpr ⟨e, he, by rw [if_pos hname, hg]; rfl⟩
    exact List.ne_nil_of_mem hmem
  have hrejected := Values.rejected?_laidOver_eq s t hgiven
  rw [rejected?_eq, rejected?_eq] at hrejected
  exact Option.map_injective (fun _ _ h => congrArg Prod.snd h) hrejected

end

/-- **A binding and its seed.** From two seeds a node leads to the same mistake, or it is bound to
both of them, and the same entries are left over: those that name no field, in the order of the
document. Every field but the format of messages has in both blocks what the last entry gives it
that gives it something, or it stays as it is in its seed. If an entry gives a word for the format, the same word
is pending in both blocks, or none is. -/
theorem bind_of_seeds {k : Kind} (n : Node) (s t : Block k) :
    (∃ mistake, s.bind n = .error mistake ∧ t.bind n = .error mistake) ∨
    ∃ es b c, n = .map es ∧
      s.bind n = .ok ⟨b, es.filter k.isUnknown⟩ ∧ t.bind n = .ok ⟨c, es.filter k.isUnknown⟩ ∧
      MadeOf es s b ∧ MadeOf es t c ∧
      (∀ i, (k.fields.get i).name ≠ "message_format" →
        ((k.fields.get i).giver? es).isSome = true → Values.get b i = Values.get c i) ∧
      ((∃ e ∈ es, e.1.asText? = some "message_format" ∧ e.2.isNull = false) →
        b.pending? = c.pending?) := by
  cases n with
  | map es =>
    cases hes : es.findSome? k.mistake? with
    | some mistake =>
      have hbind : ∀ b : Block k, b.bind (.map es) = .error mistake := fun b => by
        rw [bind, bindEntries_eq, hes]
      exact .inl ⟨mistake, hbind s, hbind t⟩
    | none =>
      have hbind : ∀ b : Block k,
          b.bind (.map es) = .ok ⟨Values.laidOver b es, es.filter k.isUnknown⟩ := fun b =>
        bind_map_eq_ok_iff.mpr ⟨hes, by rw [k.filter_field?_isNone]⟩
      have hs := madeOf_laidOver hes s
      have ht := madeOf_laidOver hes t
      refine .inr ⟨es, _, _, rfl, hbind s, hbind t, hs, ht, fun i hi => hs.get_eq ht hi, ?_⟩
      rintro ⟨e, he, hkey, -⟩
      exact pending?_laidOver_eq hes ⟨e, he, hkey⟩ s t
  | _ => exact .inl ⟨_, rfl, rfl⟩

/-- A word that is refused is pending in both blocks, and their formats stay different. -/
example :
    let word : Node := .map [(.text "message_format", .text "markdown")]
    let s := defaults .hipchat
    let t := s.setOrKeep ("message_format", .text "text")
    ∃ b c, s.bind word = .ok ⟨b, []⟩ ∧ t.bind word = .ok ⟨c, []⟩ ∧
      b.pending? = c.pending? ∧ b.settle ≠ c.settle := by
  refine ⟨_, _, rfl, rfl, rfl, ?_⟩
  decide

end Block
end AlertReceivers
