/-
# Documents in layers

Two documents can be laid over a block one after the other, or they can be merged into one
(`Entries.update`). In the merged document a field that both give never takes its first value. This
makes no difference, except that a null keeps what is there, and that a format which is refused stays
as it was. So the blocks may differ in the format while a word is pending, and in nothing that a
validation looks at (`Values.judged`).

Key definitions: `Entries.update`, `Entries.Plain`, `FieldType.judged`, `Values.judged`.
Key theorems: `Entries.filter_update`, `Values.judged_laidOver_update`,
`Block.validate_eq_of_judged_eq`, `Block.bind_update`.
-/
import AlertReceivers.Proofs.Document
import AlertReceivers.Proofs.Table
import AlertReceivers.Proofs.Verdict

namespace AlertReceivers

theorem Node.same_text_iff {n : Node} {s : String} : n.same (.text s) = true ↔ n = .text s := by
  cases n <;> simp [same]

/-! ### Merged mappings -/

namespace Entries

/-- A mapping after the entries of another one have been put into it. -/
def update (xs ys : Entries) : Entries := ys.foldl (fun acc e => insert acc e.1 e.2) xs

/-- The keys of a mapping are texts without tags, and none occurs twice. -/
structure Plain (es : Entries) : Prop where
  isText : ∀ e ∈ es, ∃ name, e.1 = .text name
  distinct : Distinct es

@[simp] theorem update_nil (xs : Entries) : xs.update [] = xs := rfl

@[simp] theorem update_cons (xs : Entries) (e : Node × Node) (ys : Entries) :
    xs.update (e :: ys) = (insert xs e.1 e.2).update ys := rfl

/-- A key that is there keeps its place, and a new one stands at the end. -/
theorem keys_insert : ∀ (es : Entries) (k v : Node), (insert es k v).map Prod.fst =
    es.map Prod.fst ++ if es.any fun e => e.1.same k then [] else [k]
  | [], _, _ => rfl
  | e :: es, k, v => by
    rw [insert, List.any_cons]
    cases hsame : e.1.same k with
    | true => simp
    | false =>
      rw [if_neg Bool.false_ne_true, List.map_cons, keys_insert es k v]
      rfl

theorem keys_update : ∀ {ys : Entries} (xs : Entries), Distinct ys → (xs.update ys).map Prod.fst =
    xs.map Prod.fst ++ (ys.filter fun y => !xs.any fun e => e.1.same y.1).map Prod.fst
  | [], xs, _ => by simp
  | y :: ys, xs, h => by
    obtain ⟨hy, hys⟩ := List.pairwise_cons.mp h
    have hany : ∀ z ∈ ys, ((insert xs y.1 y.2).any fun e => e.1.same z.1) =
        xs.any fun e => e.1.same z.1 := fun z hz => by
      have hkeys : ∀ es : Entries, (es.any fun e => e.1.same z.1) =
          (es.map Prod.fst).any fun k => k.same z.1 := fun es => by
        rw [List.any_map]
        rfl
      rw [hkeys, hkeys, keys_insert, List.any_append]
      split <;> simp [hy z hz]
    have hfilter : (ys.filter fun z => !(insert xs y.1 y.2).any fun e => e.1.same z.1) =
        ys.filter fun z => !xs.any fun e => e.1.same z.1 :=
      List.filter_congr fun z hz => by rw [hany z hz]
    rw [update_cons, keys_update _ hys, hfilter, keys_insert, List.filter_cons]
    cases xs.any fun e => e.1.same y.1 <;> simp

theorem value?_insert (name s : String) (v : Node) : ∀ es : Entries,
    value? (insert es (.text s) v) name = if s = name then some v else value? es name
  | [] => rfl
  | (key, n) :: es => by
    unfold insert
    by_cases hkey : key = .text s
    · subst hkey
      rw [if_pos (Node.same_text_iff.mpr rfl)]
      by_cases hs : s = name
      · rw [hs, value?_cons_self, if_pos rfl]
      · have hne : Node.text s ≠ .text name := fun h => hs (Node.text.inj h)
        rw [value?_cons_of_ne hne, value?_cons_of_ne hne, if_neg hs]
    · rw [if_neg fun h => hkey (Node.same_text_iff.mp h)]
      by_cases hname : key = .text name
      · subst hname
        have hs : s ≠ name := fun h => hkey (congrArg Node.text h.symm)
        rw [value?_cons_self, value?_cons_self, if_neg hs]
      · rw [value?_cons_of_ne hname, value?_cons_of_ne hname, value?_insert name s v es]

namespace Plain

theorem tail {e : Node × Node} {es : Entries} (h : Plain (e :: es)) : Plain es :=
  ⟨fun x hx => h.isText x (List.mem_cons_of_mem e hx), (List.pairwise_cons.mp h.distinct).2⟩

theorem value?_tail {name : String} {n : Node} : ∀ {es : Entries}, Plain ((.text name, n) :: es) →
    value? es name = none
  | es, h => by
    cases hvalue : value? es name with
    | none => rfl
    | some m =>
      have hsame := (List.pairwise_cons.mp h.distinct).1 _ (mem_of_value? hvalue)
      rw [Node.same_text_iff.mpr rfl] at hsame
      cases hsame

theorem insert {es : Entries} (h : Plain es) (name : String) (v : Node) :
    Plain (Entries.insert es (.text name) v) := by
  refine ⟨fun x hx => ?_, distinct_insert es _ v h.distinct⟩
  rcases mem_keys_insert es _ v hx with hx | ⟨y, hy, hkey⟩
  · exact ⟨name, hx⟩
  · exact hkey ▸ h.isText y hy

theorem update : ∀ {ys xs : Entries}, Plain xs → Plain ys → Plain (xs.update ys)
  | [], _, hxs, _ => hxs
  | (_, n) :: _, _, hxs, hys => by
    obtain ⟨name, rfl⟩ := hys.isText _ List.mem_cons_self
    rw [update_cons]
    exact update (hxs.insert name n) hys.tail

end Plain

theorem value?_update (name : String) : ∀ {ys : Entries} (xs : Entries), Plain ys →
    value? (xs.update ys) name = (value? ys name).or (value? xs name)
  | [], _, _ => rfl
  | (_, n) :: ys, xs, h => by
    obtain ⟨s, rfl⟩ := h.isText _ List.mem_cons_self
    rw [update_cons, value?_update name _ h.tail, value?_insert]
    by_cases hs : s = name
    · subst hs
      rw [h.value?_tail, value?_cons_self, if_pos rfl]
      rfl
    · rw [value?_cons_of_ne fun hkey => hs (Node.text.inj hkey), if_neg hs]

section
variable {p : Node × Node → Bool}
  (hp : ∀ e e' : Node × Node, e.1.same e'.1 = true → p e = p e')
include hp

/-- A choice by keys is made before an insertion as well as after it. -/
theorem filter_insert (k v : Node) : ∀ es : Entries,
    (insert es k v).filter p = if p (k, v) then insert (es.filter p) k v else es.filter p
  | [] => by
    rw [insert, List.filter_cons]
    rfl
  | e :: es => by
    cases hsame : e.1.same k with
    | true =>
      have hold : p e = p (k, v) := hp e (k, v) hsame
      have hnew : p (e.1, v) = p (k, v) := hp (e.1, v) (k, v) hsame
      rw [insert, if_pos hsame, List.filter_cons, List.filter_cons, hold, hnew]
      cases p (k, v) with
      | true => simp [insert, hsame]
      | false => simp
    | false =>
      have hne : ¬ e.1.same k = true := Bool.eq_false_iff.mp hsame
      rw [insert, if_neg hne, List.filter_cons, List.filter_cons, filter_insert k v es]
      cases p e <;> cases p (k, v) <;> simp [insert, hsame]

theorem filter_update : ∀ (ys xs : Entries),
    (xs.update ys).filter p = update (xs.filter p) (ys.filter p)
  | [], _ => rfl
  | y :: ys, xs => by
    rw [update_cons, filter_update ys, filter_insert hp, List.filter_cons]
    cases p y <;> rfl

end

end Entries

/-! ### Entries of merged mappings -/

namespace Kind

theorem field?_eq_of_same {k : Kind} {e e' : Node × Node} (h : e.1.same e'.1 = true) :
    k.field? e = k.field? e' := by
  unfold field? Field.isNamedBy
  rw [Node.asText?_eq_of_same h]

theorem mistake?_congr {k : Kind} {e e' : Node × Node} (hkey : e.1.asText? = e'.1.asText?)
    (hvalue : e.2 = e'.2) : k.mistake? e = k.mistake? e' := by
  unfold mistake? field? Field.isNamedBy Field.mistake?
  rw [hkey, hvalue]

theorem findSome?_mistake?_update {k : Kind} {xs ys : Entries} (hxs : xs.findSome? k.mistake? = none)
    (hys : ys.findSome? k.mistake? = none) : (xs.update ys).findSome? k.mistake? = none := by
  rw [List.findSome?_eq_none_iff] at *
  intro x hx
  rcases Entries.mem_foldl_insert ys xs hx with hx | ⟨y, hy, hkey, hvalue⟩
  · exact hxs x hx
  · rw [mistake?_congr hkey hvalue]
    exact hys y hy

end Kind

theorem Field.given_eq_of_plain (f : Field) : ∀ {es : Entries}, es.Plain →
    f.given es = (es.value? f.name).toList.filterMap fun n => (f.type.given? n).toOption
  | [], _ => rfl
  | (_, n) :: es, h => by
    obtain ⟨name, rfl⟩ := h.isText _ List.mem_cons_self
    have hrest := f.given_eq_of_plain h.tail
    unfold given at hrest ⊢
    by_cases hname : name = f.name
    · subst hname
      rw [h.value?_tail] at hrest
      have hnamed : f.isNamedBy (.text f.name, n) = true := isNamedBy_iff.mpr rfl
      rw [Entries.value?_cons_self, List.filterMap_cons, hrest, if_pos hnamed]
      rfl
    · have hne : Node.text name ≠ .text f.name := fun hkey => hname (Node.text.inj hkey)
      have hnamed : ¬ f.isNamedBy (.text name, n) = true := fun h =>
        hname (Option.some_inj.mp (isNamedBy_iff.mp h))
      rw [Entries.value?_cons_of_ne hne, ← hrest, List.filterMap_cons, if_neg hnamed]

/-! ### What a validation looks at -/

/-- A value as far as a validation looks at it: the format does not count while a word is pending. -/
def FieldType.judged : (t : FieldType) → t.Value → t.Value
  | format, ⟨f, none⟩ => ⟨f, none⟩
  -- any format would do here, as long as it is always the same one
  | format, ⟨_, some word⟩ => ⟨.html, some word⟩
  | text, v | secret, v | integer, v | boolean, v | tags, v | table, v => v

/-- Values as far as a validation looks at them. -/
def Values.judged {fs : List Field} (b : Values fs) : Values fs := b.map FieldType.judged

namespace FieldType

/-- What is given for a field makes the value before it irrelevant. -/
theorem judged_take_some : ∀ (t : FieldType) (v w : t.Value) (g : t.Given),
    t.judged (t.take v (some g)) = t.judged (t.take w (some g))
  | format, s, u, word => by
    show judged format (FormatSetting.choose s word) = judged format (FormatSetting.choose u word)
    unfold FormatSetting.choose
    cases MessageFormat.ofName? word <;> rfl
  | text, _, _, _ | secret, _, _, _ | integer, _, _, _ | boolean, _, _, _ | tags, _, _, _
  | table, _, _, _ => rfl

theorem judged_of_isSettled : ∀ (t : FieldType) (v : t.Value), t.isSettled v → t.judged v = v
  | format, ⟨_, none⟩, _ => rfl
  | text, _, _ | secret, _, _ | integer, _, _ | boolean, _, _ | tags, _, _ | table, _, _ => rfl

theorem isMissing_judged : ∀ (t : FieldType) (v : t.Value),
    t.isMissing (t.judged v) = t.isMissing v
  | format, _ | text, _ | secret, _ | integer, _ | boolean, _ | tags, _ | table, _ => rfl

end FieldType

namespace Values

theorem judged_cons {f : Field} {fs : List Field} (v : f.type.Value) (rest : Values fs) :
    (cons v rest).judged = .cons (f.type.judged v) rest.judged := rfl

theorem missing?_judged {fs : List Field} (b : Values fs) : b.judged.missing? = b.missing? :=
  missing?_map FieldType.isMissing_judged b

theorem rejected?_judged : ∀ {fs : List Field} (b : Values fs),
    b.judged.rejected? = b.rejected?
  | _, .nil => rfl
  | ⟨_, type, _, _⟩ :: _, .cons v rest => by
    have hrest := rejected?_judged rest
    cases type with
    | format =>
      obtain ⟨_, _ | _⟩ := v
      · exact hrest
      · rfl
    | _ => exact hrest

/-- Values that a validation does not tell apart are equal if no word is pending. -/
theorem eq_of_judged_eq {fs : List Field} {a b : Values fs} (h : a.judged = b.judged)
    (hb : b.rejected? = none) : a = b := by
  have ha : a.rejected? = none := by rw [← rejected?_judged a, h, rejected?_judged, hb]
  calc a = a.judged := (map_eq_self FieldType.judged_of_isSettled ha).symm
    _ = b.judged := h
    _ = b := map_eq_self FieldType.judged_of_isSettled hb

end Values

/-! ### Fields in layers -/

/-- A field that two mappings in layers give takes what the merged mapping gives it. -/
theorem Field.judged_takeAll_update (f : Field) {xs ys : Entries} (hxs : xs.Plain) (hys : ys.Plain)
    (v : f.type.Value) (htyped : ∀ n, ys.value? f.name = some n → ∃ g, f.type.given? n = .ok g)
    (hshared : ∀ n, (xs.value? f.name).isSome = true → ys.value? f.name = some n → n.isNull = false) :
    f.type.judged (f.type.takeAll v (f.given (xs.update ys))) =
      f.type.judged (f.type.takeAll (f.type.takeAll v (f.given xs)) (f.given ys)) := by
  rw [f.given_eq_of_plain hxs, f.given_eq_of_plain hys, f.given_eq_of_plain (hxs.update hys),
    Entries.value?_update f.name xs hys]
  cases hy : ys.value? f.name with
  | none => rfl
  | some n =>
    cases hx : xs.value? f.name with
    | none => rfl
    | some m =>
      -- the later value is not null, so it replaces the earlier one
      obtain ⟨g, hg⟩ := htyped n hy
      have hnull := hshared n (by rw [hx]; rfl) hy
      obtain ⟨x, rfl⟩ := f.type.exists_eq_some_of_given? hnull hg
      rw [Option.some_or, Option.toList_some, List.filterMap_cons, hg]
      exact f.type.judged_take_some _ _ x

namespace Values

/-- Mappings in layers leave what the merged mapping does, as far as a validation looks at it,
if the later one has no mistakes, and no null for what the earlier one gives. -/
theorem judged_laidOver_update {xs ys : Entries} (hxs : xs.Plain) (hys : ys.Plain) :
    ∀ {fs : List Field} (b : Values fs),
    (∀ f ∈ fs, ∀ n, ys.value? f.name = some n → ∃ g, f.type.given? n = .ok g) →
    (∀ f ∈ fs, ∀ n, (xs.value? f.name).isSome = true → ys.value? f.name = some n → n.isNull = false) →
    (b.laidOver (xs.update ys)).judged = ((b.laidOver xs).laidOver ys).judged
  | _, .nil, _, _ => rfl
  | f :: fs, .cons v rest, htyped, hshared => by
    have hrest := judged_laidOver_update hxs hys rest
      (fun g hg => htyped g (List.mem_cons_of_mem f hg))
      (fun g hg => hshared g (List.mem_cons_of_mem f hg))
    have hv := f.judged_takeAll_update hxs hys v (htyped f List.mem_cons_self)
      (hshared f List.mem_cons_self)
    rw [laidOver, laidOver, laidOver, judged_cons, judged_cons, hrest, hv]

end Values

/-! ### Blocks in layers -/

namespace Block

/-- A validation does not tell blocks apart that differ in a format while a word is pending. -/
theorem validate_eq_of_judged_eq [TextMap.Walk] {k : Kind} {b c : Block k}
    (h : Values.judged b = Values.judged c) : b.validate = c.validate := by
  have hmissing : Values.missing? b = Values.missing? c := by
    rw [← Values.missing?_judged b, h, Values.missing?_judged]
  have hrejected : Values.rejected? b = Values.rejected? c := by
    rw [← Values.rejected?_judged b, h, Values.rejected?_judged]
  unfold validate
  rw [hmissing, hrejected]
  cases hc : Values.rejected? c with
  | some _ => rfl
  | none => rw [Values.eq_of_judged_eq h hc]

section
variable {k : Kind} {s : Block k} {xs ys : Entries} {r₁ r₂ : Bound k}

/-- **Layers and merged documents.** If two mappings are bound one after the other, the merged
mapping is bound as well, provided that no key of the first one has a null in the second one. Both
ways lead to the same block, unless a word is pending; they lead to the same verdict in any
case, and to the same entries that are left over. -/
theorem bind_update [TextMap.Walk] (hxs : xs.Plain) (hys : ys.Plain)
    (hshared : ∀ e ∈ xs, ∀ e' ∈ ys, e'.1 = e.1 → e'.2.isNull = false)
    (h₁ : s.bind (.map xs) = .ok r₁) (h₂ : r₁.block.bind (.map ys) = .ok r₂) :
    ∃ r, s.bind (.map (xs.update ys)) = .ok r ∧
      (r₂.block.pending? = none → r.block = r₂.block) ∧
      r.block.validate = r₂.block.validate ∧
      r.residual = r₁.residual.update r₂.residual := by
  obtain ⟨hmistakes₁, rfl⟩ := bind_map_eq_ok_iff.mp h₁
  obtain ⟨hmistakes₂, rfl⟩ := bind_map_eq_ok_iff.mp h₂
  have htyped : ∀ f ∈ k.fields, ∀ n, ys.value? f.name = some n → ∃ g, f.type.given? n = .ok g :=
    fun f hf n hn => Kind.exists_given?_of_mistake? hf (Field.isNamedBy_iff.mpr rfl)
      (List.findSome?_eq_none_iff.mp hmistakes₂ _ (Entries.mem_of_value? hn))
  have hnull : ∀ f ∈ k.fields, ∀ n, (xs.value? f.name).isSome = true →
      ys.value? f.name = some n → n.isNull = false := fun f _ n hx hn => by
    obtain ⟨m, hm⟩ := Option.isSome_iff_exists.mp hx
    exact hshared _ (Entries.mem_of_value? hm) _ (Entries.mem_of_value? hn) rfl
  have hjudged := Values.judged_laidOver_update hxs hys s htyped hnull
  refine ⟨_, bind_map_eq_ok_iff.mpr ⟨Kind.findSome?_mistake?_update hmistakes₁ hmistakes₂, rfl⟩,
    fun hpending => ?_, validate_eq_of_judged_eq hjudged, ?_⟩
  · exact Values.eq_of_judged_eq hjudged (rejected?_eq_none_iff.mpr hpending)
  · exact Entries.filter_update (fun e e' h => by rw [Kind.field?_eq_of_same h]) ys xs

end

section
attribute [local instance] TextMap.Walk.ascending

/-- A format that is refused after a good one is what the merged document is refused for, though the
good one never comes to stand in the block. Of the keys that are left over the shared one is first. -/
theorem bind_update_format :
    let xs : Entries := [(.text "zeta", .int 1), (.text "auth_token", .text "t"),
      (.text "message_format", .text "text")]
    let ys : Entries := [(.text "alpha", .int 2), (.text "message_format", .text "markdown"),
      (.text "zeta", .int 3)]
    ∃ r, (defaults .hipchat).bind (.map (xs.update ys)) = .ok r ∧
      r.block.validate = .error (.invalidValue .hipchat "message_format" "markdown" ["html", "text"]) ∧
      r.residual = [(.text "zeta", .int 3), (.text "alpha", .int 2)] := by
  intro xs ys
  have hxs : xs.Plain := ⟨by simp [xs], by simp [xs, Entries.Distinct, Node.same]⟩
  have hys : ys.Plain := ⟨by simp [ys], by simp [ys, Entries.Distinct, Node.same]⟩
  have hshared : ∀ e ∈ xs, ∀ e' ∈ ys, e'.1 = e.1 → e'.2.isNull = false := by
    simp [xs, ys, Node.isNull, Node.untagged]
  obtain ⟨r, hr, -, hverdict, hresidual⟩ := bind_update (s := defaults .hipchat) hxs hys hshared rfl rfl
  exact ⟨r, hr, hverdict, hresidual⟩

end

end Block
end AlertReceivers
