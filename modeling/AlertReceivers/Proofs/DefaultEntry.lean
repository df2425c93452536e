/-
# Defaults that are spelled out

A field that is left out, one that is null and one that is given its default go three ways through
a binding: it is never touched, it is given nothing, or it is read from what was written of it. They
meet, since a default is no rejected word and a written value is read back. So an entry for a field
that no other names can be put in or left out.

Key definitions: `Field.KeepsDefault`.
Key theorems: `Values.laidOver_concat_eq`, `Block.decode_insert`, `Block.decode_insert_default`.
-/
import AlertReceivers.Proofs.Null
import AlertReceivers.Proofs.Written

namespace AlertReceivers

/-! ### Defaults -/

namespace Values

theorem isSettled_default : ∀ {fs : List Field}, (defaults fs).rejected? = none →
    ∀ f ∈ fs, f.type.isSettled f.default
  | f :: fs, h, g, hg => by
    obtain ⟨hf, hfs⟩ := rejected?_cons_eq_none_iff.mp h
    rcases List.mem_cons.mp hg with rfl | hg
    · exact hf
    · exact isSettled_default hfs g hg

theorem mem_toEntries_defaults : ∀ {fs : List Field}, ∀ f ∈ fs,
    (Node.text f.name, f.type.toNode f.default) ∈ (defaults fs).toEntries
  | g :: fs, f, hf => by
    rcases List.mem_cons.mp hf with rfl | hf
    · exact List.mem_cons_self
    · exact List.mem_cons_of_mem _ (mem_toEntries_defaults f hf)

theorem of_mem_writes_defaults : ∀ {fs : List Field} {es : Entries}, (defaults fs).Writes es →
    ∀ e ∈ es, ∃ f ∈ fs, e.1 = .text f.name ∧ f.type.Writes f.default e.2
  | [], _, rfl, e, he => absurd he List.not_mem_nil
  | f :: fs, _, ⟨n, es, rfl, hn, hes⟩, e, he => by
    rcases List.mem_cons.mp he with rfl | he
    · exact ⟨f, List.mem_cons_self, rfl, hn⟩
    · obtain ⟨g, hg, hkey, hwrites⟩ := of_mem_writes_defaults hes e he
      exact ⟨g, List.mem_cons_of_mem f hg, hkey, hwrites⟩

end Values

theorem Kind.rejected?_defaults (k : Kind) : Values.rejected? (Block.defaults k) = none := by
  cases k <;> rfl

/-! ### An entry more -/

/-- An entry leaves a field at its default: it gives the field what its default is anyway. -/
def Field.KeepsDefault (f : Field) (e : Node × Node) : Prop :=
  ∃ g, f.type.given? e.2 = .ok g ∧ f.type.take f.default g = f.default

theorem Field.keepsDefault_of_isNull {f : Field} {e : Node × Node} (hf : f.type.isSettled f.default)
    (hnull : e.2.isNull = true) : f.KeepsDefault e := by
  have hnone : f.type.given? e.2 = .ok none := if_pos hnull
  refine ⟨none, hnone, ?_⟩
  rw [FieldType.take_none, FieldType.settle_of_isSettled _ _ hf]

theorem Field.keepsDefault_of_writes {f : Field} {e : Node × Node} (hf : f.type.isSettled f.default)
    (hwrites : f.type.Writes f.default e.2) : f.KeepsDefault e := by
  obtain ⟨g, hg, htake⟩ := FieldType.given?_of_writes hwrites hf
  exact ⟨some g, hg, htake f.default⟩

/-- An entry changes nothing if it leaves the field that it names at its default, and no entry
before names it. -/
theorem Values.laidOver_concat_eq {fs : List Field} {xs : Entries} {e : Node × Node}
    (h : ∀ f ∈ fs, f.isNamedBy e = true →
      (∀ x ∈ xs, f.isNamedBy x = false) ∧ f.KeepsDefault e) :
    ((defaults fs).laidOver xs).laidOver [e] = (defaults fs).laidOver xs := by
  refine ext_get fun i => ?_
  rw [get_laidOver]
  cases hnamed : (fs.get i).isNamedBy e with
  | false =>
    rw [Field.given_singleton_of_unnamed hnamed]
    rfl
  | true =>
    obtain ⟨hbefore, g, hg, hkept⟩ := h _ (List.get_mem fs i) hnamed
    have hdefault : ((defaults fs).laidOver xs).get i = (fs.get i).default := by
      rw [get_laidOver, Field.given_eq_nil hbefore, get_defaults]
      rfl
    have hgiven : (fs.get i).given [e] = [g] := Field.given_cons_of_named hnamed hg []
    rw [hgiven, hdefault]
    exact hkept

namespace Block

section
variable {k : Kind} {f : Field} {xs ys : Entries}

/-- An entry that leaves a field at its default can be put in if no entry before names the field. -/
theorem decode_insert [TextMap.Walk] (hf : f ∈ k.fields) (hbefore : ∀ x ∈ xs, f.isNamedBy x = false)
    {e : Node × Node} (hnamed : f.isNamedBy e = true) (hkeeps : f.KeepsDefault e) :
    decode k (.map (xs ++ e :: ys)) = decode k (.map (xs ++ ys)) := by
  have hfield : k.field? e = some f := Kind.field?_eq_some_iff.mpr ⟨hf, Field.isNamedBy_iff.mp hnamed⟩
  have hmistake : k.mistake? e = none := by
    obtain ⟨g, hg, -⟩ := hkeeps
    rw [Kind.mistake?, hfield, Option.bind_some, Field.mistake?, hg]
  have hknown : k.isUnknown e = false := by rw [k.isUnknown_eq, hfield]; rfl
  have hmistakes : (xs ++ e :: ys).findSome? k.mistake? = (xs ++ ys).findSome? k.mistake? := by
    rw [List.findSome?_append, List.findSome?_append, List.findSome?_cons, hmistake]
  have hunknown : (xs ++ e :: ys).filter k.isUnknown = (xs ++ ys).filter k.isUnknown := by
    rw [List.filter_append, List.filter_append, List.filter_cons, hknown]
    rfl
  have hlaid : k.laid (xs ++ e :: ys) = k.laid (xs ++ ys) := by
    have hkept : (Values.laidOver (defaults k) xs).laidOver [e] = Values.laidOver (defaults k) xs :=
      Values.laidOver_concat_eq fun g hg hge => by
        rw [Kind.eq_of_isNamedBy hg hf hge hnamed]
        exact ⟨hbefore, hkeeps⟩
    have hsplit : xs ++ e :: ys = xs ++ ([e] ++ ys) := rfl
    rw [Kind.laid, Kind.laid, hsplit, Values.laidOver_append, Values.laidOver_append, hkept,
      Values.laidOver_append]
  rw [decode_map, decode_map, hmistakes, hunknown, hlaid]

/-- **Left out, null, or spelled out.** If no entry before a place names a field, a null for the
field can be put in there. So can the entry for the field in any written form of the defaults, in
which there always is one. The block is accepted with the same values as without the entry, or
refused with the same mistake. Behind the place the field may even be named, under a tag. -/
theorem decode_insert_default [TextMap.Walk] (hf : f ∈ k.fields) (hbefore : ∀ x ∈ xs, f.isNamedBy x = false) :
    (∀ n : Node, n.isNull = true →
      decode k (.map (xs ++ (.text f.name, n) :: ys)) = decode k (.map (xs ++ ys))) ∧
    (∃ n, (.text f.name, n) ∈ Values.toEntries (defaults k)) ∧
    ∀ written, (defaults k).Writes (.map written) → ∀ n, (.text f.name, n) ∈ written →
      decode k (.map (xs ++ (.text f.name, n) :: ys)) = decode k (.map (xs ++ ys)) := by
  have hnamed : ∀ n, f.isNamedBy (.text f.name, n) = true := fun n => Field.isNamedBy_iff.mpr rfl
  have hsettled : f.type.isSettled f.default :=
    Values.isSettled_default k.rejected?_defaults f hf
  refine ⟨fun n hnull => ?_, ⟨_, Values.mem_toEntries_defaults f hf⟩, ?_⟩
  · exact decode_insert hf hbefore (hnamed n) (Field.keepsDefault_of_isNull hsettled hnull)
  · rintro written ⟨_, ⟨⟩, hwritten⟩ n hn
    obtain ⟨g, hg, hkey, hwrites⟩ := Values.of_mem_writes_defaults hwritten _ hn
    have hgnamed : g.isNamedBy (.text f.name, n) = true := Field.isNamedBy_iff.mpr (by rw [hkey]; rfl)
    obtain rfl : g = f := Kind.eq_of_isNamedBy hg hf hgnamed (hnamed n)
    exact decode_insert hf hbefore (hnamed n) (Field.keepsDefault_of_writes hsettled hwrites)

end

section
attribute [local instance] TextMap.Walk.ascending

/-- The default format in front of a word that is refused leaves the word to be reported. -/
theorem decode_insert_default_format :
    let xs : Entries := [(.text "auth_token", .text "t")]
    let ys : Entries := [(.tagged "x" (.text "message_format"), .text "markdown")]
    decode .hipchat (.map (xs ++ (.text "message_format", .text "html") :: ys)) =
        decode .hipchat (.map (xs ++ ys)) ∧
      decode .hipchat (.map (xs ++ ys)) =
        .error (.invalidValue .hipchat "message_format" "markdown" ["html", "text"]) := by
  intro xs ys
  have hbefore : ∀ x ∈ xs, (Field.optional "message_format" .format).isNamedBy x = false := by decide
  have hwritten : (defaults .hipchat).Writes (.map (Values.toEntries (defaults .hipchat))) :=
    writes_toNode (defaults .hipchat)
  obtain ⟨-, -, hspelled⟩ := @decode_insert_default _ _ xs ys _ Kind.format_mem hbefore
  exact ⟨hspelled _ hwritten _ (List.mem_of_getElem? (i := 5) rfl), rfl⟩

end

end Block
end AlertReceivers
