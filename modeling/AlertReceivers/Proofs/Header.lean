/-
# Normal forms of headers

Headers can be normalized exactly if no two of them share a canonical form. The result holds every
given text under the canonical form of its name, and `Subject`, `To` and `From` where no given name
has that form. It is its own normal form, whoever sends and receives the mail.

Key definitions: `Header.standard?`, `Header.textFor?`, `Header.Normal`.
Key theorems: `Header.normalize_eq_ok_iff`, `Header.normalize_eq_error_iff`,
`Header.normalize_eq_ok_iff_of_perm`, `Header.Normal.normalize_eq`.
-/
import AlertReceivers.Proofs.Casing

namespace AlertReceivers
namespace Header

/-! ### Putting entries under canonical names -/

/-- The text that entries give for a canonical name. -/
def textFor? (es : List (String × String)) (name : String) : Option String :=
  (es.find? fun e => canonical e.1 == name).map fun e => e.2

theorem textFor?_cons (e : String × String) (es : List (String × String)) (name : String) :
    textFor? (e :: es) name = if canonical e.1 = name then some e.2 else textFor? es name := by
  unfold textFor?
  rw [List.find?_cons]
  by_cases h : canonical e.1 = name
  · simp [h]
  · have hne : (canonical e.1 == name) = false := by simpa using h
    rw [hne, if_neg h]

theorem textFor?_eq_none_iff {es : List (String × String)} {name : String} :
    textFor? es name = none ↔ ∀ e ∈ es, canonical e.1 ≠ name := by
  rw [textFor?, Option.map_eq_none_iff, List.find?_eq_none]
  simp

theorem mem_of_textFor? {es : List (String × String)} {name value : String}
    (h : textFor? es name = some value) : ∃ e ∈ es, canonical e.1 = name ∧ e.2 = value := by
  obtain ⟨e, he, hvalue⟩ := Option.map_eq_some_iff.mp h
  have hname := List.find?_some (p := fun e : String × String => canonical e.1 == name) he
  exact ⟨e, List.mem_of_find?_eq_some he, beq_iff_eq.mp hname, hvalue⟩

/-- If canonical names are all different, every entry gives its text for its own. -/
theorem textFor?_eq_some_iff {es : List (String × String)} {name value : String}
    (hnodup : (es.map fun e => canonical e.1).Nodup) :
    textFor? es name = some value ↔ ∃ e ∈ es, canonical e.1 = name ∧ e.2 = value := by
  constructor
  · exact mem_of_textFor?
  · rintro ⟨e, he, rfl, rfl⟩
    cases hfound : textFor? es (canonical e.1) with
    | none => exact absurd rfl (textFor?_eq_none_iff.mp hfound e he)
    | some found =>
      obtain ⟨e', he', hname, rfl⟩ := mem_of_textFor? hfound
      rw [List.inj_on_of_nodup_map hnodup he' he hname]

theorem textFor?_of_perm {es es' : List (String × String)} (hperm : es.Perm es')
    (hnodup : (es.map fun e => canonical e.1).Nodup) (name : String) :
    textFor? es name = textFor? es' name := by
  have hnodup' : (es'.map fun e => canonical e.1).Nodup := (hperm.map _).nodup_iff.mp hnodup
  refine Option.ext fun value => ?_
  rw [textFor?_eq_some_iff hnodup, textFor?_eq_some_iff hnodup']
  simp only [hperm.mem_iff]

theorem not_nodup_of_mem_before {before after : List (String × String)} {e : String × String}
    (h : canonical e.1 ∈ before.map fun e => canonical e.1) :
    ¬ ((before ++ e :: after).map fun e => canonical e.1).Nodup := by
  rw [List.map_append, List.map_cons, List.nodup_middle, List.nodup_cons]
  exact fun hnodup => hnodup.1 (List.mem_append_left _ h)

/-- Entries get their canonical names exactly if these are all different and none of
them is taken, and each text is then found under its name. -/
theorem rename_eq_ok_iff : ∀ (es : List (String × String)) {m r : TextMap},
    rename es m = .ok r ↔ (es.map fun e => canonical e.1).Nodup ∧
      (∀ e ∈ es, m.get? (canonical e.1) = none) ∧
      ∀ x, r.get? x = (textFor? es x).or (m.get? x)
  | [], m, r => by
    constructor
    · intro h
      cases h
      exact ⟨List.nodup_nil, by simp, fun x => rfl⟩
    · rintro ⟨-, -, h⟩
      rw [rename, TextMap.ext_get? h]
  | (name, value) :: es, m, r => by
    rw [rename]
    by_cases htaken : (m.get? (canonical name)).isSome = true
    · rw [if_pos htaken]
      constructor
      · intro h
        cases h
      · rintro ⟨-, h, -⟩
        rw [h (name, value) List.mem_cons_self] at htaken
        cases htaken
    · have hfree : m.get? (canonical name) = none := by simpa using htaken
      -- what is found in the end, if no later entry has the name at hand
      have hget : (∀ e ∈ es, canonical e.1 ≠ canonical name) → ∀ x,
          (textFor? es x).or ((m.insert (canonical name) value).get? x) =
            (textFor? ((name, value) :: es) x).or (m.get? x) := by
        intro hne x
        rw [TextMap.get?_insert, textFor?_cons]
        by_cases hx : canonical name = x
        · rw [textFor?_eq_none_iff.mpr (hx ▸ hne), if_pos hx, if_pos hx.symm]
          rfl
        · rw [if_neg hx, if_neg fun h => hx h.symm]
      rw [if_neg htaken, rename_eq_ok_iff es, List.map_cons, List.nodup_cons]
      constructor
      · rintro ⟨hnodup, hes, hr⟩
        have hfresh := fun e he => TextMap.get?_insert_eq_none_iff.mp (hes e he)
        refine ⟨⟨fun hmem => ?_, hnodup⟩, fun e he => ?_, fun x => ?_⟩
        · obtain ⟨e, he, hname⟩ := List.mem_map.mp hmem
          exact (hfresh e he).1 hname
        · rcases List.mem_cons.mp he with rfl | he
          · exact hfree
          · exact (hfresh e he).2
        · rw [hr x, hget fun e he => (hfresh e he).1]
      · rintro ⟨⟨hname, hnodup⟩, hes, hr⟩
        have hne : ∀ e ∈ es, canonical e.1 ≠ canonical name := fun e he h =>
          hname (List.mem_map.mpr ⟨e, he, h⟩)
        refine ⟨hnodup, fun e he => ?_, fun x => ?_⟩
        · exact TextMap.get?_insert_eq_none_iff.mpr ⟨hne e he, hes e (List.mem_cons_of_mem _ he)⟩
        · rw [hr x, hget hne]

/-- Putting entries under canonical names fails at the first entry whose canonical name
is taken. -/
theorem rename_eq_error_iff : ∀ (es : List (String × String)) {m : TextMap} {mistake : BlockError},
    rename es m = .error mistake ↔ ∃ before e after, es = before ++ e :: after ∧
      (before.map fun e => canonical e.1).Nodup ∧ (∀ x ∈ before, m.get? (canonical x.1) = none) ∧
      (canonical e.1 ∈ before.map (fun e => canonical e.1) ∨ (m.get? (canonical e.1)).isSome = true) ∧
      mistake = .duplicateHeader (canonical e.1)
  | [], m, mistake => by simp [rename]
  | (name, value) :: es, m, mistake => by
    rw [rename]
    by_cases htaken : (m.get? (canonical name)).isSome = true
    · rw [if_pos htaken]
      constructor
      · intro h
        cases h
        exact ⟨[], (name, value), es, rfl, List.nodup_nil, by simp, .inr htaken, rfl⟩
      · rintro ⟨before, e, after, hes, -, hfree, -, rfl⟩
        cases before with
        | nil =>
          obtain ⟨rfl, rfl⟩ := List.cons.inj hes
          rfl
        | cons x before =>
          obtain ⟨rfl, rfl⟩ := List.cons.inj hes
          rw [hfree _ List.mem_cons_self] at htaken
          cases htaken
    · have hfree : m.get? (canonical name) = none := by simpa using htaken
      -- a name is taken after the insertion if it was before, or if it is the name at hand
      have hhits : ∀ x, ((m.insert (canonical name) value).get? x).isSome = true ↔
          x = canonical name ∨ (m.get? x).isSome = true := by
        intro x
        rw [TextMap.get?_insert]
        by_cases hx : x = canonical name <;> simp [hx]
      rw [if_neg htaken, rename_eq_error_iff es]
      constructor
      · rintro ⟨before, e, after, rfl, hnodup, hbefore, hhit, rfl⟩
        have hfresh := fun x hx => TextMap.get?_insert_eq_none_iff.mp (hbefore x hx)
        refine ⟨(name, value) :: before, e, after, rfl, ?_, fun x hx => ?_, ?_, rfl⟩
        · rw [List.map_cons, List.nodup_cons]
          refine ⟨fun hmem => ?_, hnodup⟩
          obtain ⟨x, hx, hname⟩ := List.mem_map.mp hmem
          exact (hfresh x hx).1 hname
        · rcases List.mem_cons.mp hx with rfl | hx
          · exact hfree
          · exact (hfresh x hx).2
        · rw [hhits] at hhit
          rw [List.map_cons, List.mem_cons]
          tauto
      · rintro ⟨before, e, after, hes, hnodup, hbefore, hhit, rfl⟩
        cases before with
        | nil =>
          obtain ⟨rfl, rfl⟩ := List.cons.inj hes
          rcases hhit with hhit | hhit
          · cases hhit
          · exact absurd hhit htaken
        | cons x before =>
          obtain ⟨rfl, rfl⟩ := List.cons.inj hes
          rw [List.map_cons, List.nodup_cons] at hnodup
          rw [List.map_cons, List.mem_cons] at hhit
          refine ⟨before, e, after, rfl, hnodup.2, fun x hx => ?_, ?_, rfl⟩
          · have hne : canonical x.1 ≠ canonical name := fun h =>
              hnodup.1 (List.mem_map.mpr ⟨x, hx, h⟩)
            exact TextMap.get?_insert_eq_none_iff.mpr ⟨hne, hbefore x (List.mem_cons_of_mem _ hx)⟩
          · rw [hhits]
            tauto

/-! ### Normalizing -/

/-- The text of a header that every mail has. -/
def standard? (recipient sender name : String) : Option String :=
  if name = "Subject" then some defaultSubject
  else if name = "To" then some recipient
  else if name = "From" then some sender
  else none

theorem get?_complete (sender recipient : String) (m : TextMap) (x : String) :
    (complete sender recipient m).get? x = (m.get? x).or (standard? recipient sender x) := by
  unfold complete standard?
  simp only [TextMap.get?_insertIfNew]
  by_cases hs : x = "Subject"
  · subst hs
    cases h : m.get? "Subject" <;> simp
  · by_cases ht : x = "To"
    · subst ht
      cases h : m.get? "To" <;> simp
    · by_cases hf : x = "From"
      · subst hf
        cases h : m.get? "From" <;> simp
      · simp [hs, ht, hf]

/-- **Normal headers.** Headers are normalized exactly if no two share a canonical form,
and the result holds what they give under canonical names, completed by the headers that
every mail has. -/
theorem normalize_eq_ok_iff {es : List (String × String)} {recipient sender : String} {m : TextMap} :
    normalize es recipient sender = .ok m ↔ (es.map fun e => canonical e.1).Nodup ∧
      ∀ x, m.get? x = (textFor? es x).or (standard? recipient sender x) := by
  unfold normalize
  constructor
  · intro h
    cases hr : rename es .empty with
    | error mistake =>
      rw [hr] at h
      cases h
    | ok r =>
      rw [hr] at h
      obtain ⟨hnodup, -, hget⟩ := (rename_eq_ok_iff es).mp hr
      cases h
      refine ⟨hnodup, fun x => ?_⟩
      rw [get?_complete, hget x, TextMap.get?_empty, Option.or_none]
  · rintro ⟨hnodup, hget⟩
    cases hr : rename es .empty with
    | error mistake =>
      obtain ⟨before, e, after, rfl, -, -, hhit, -⟩ := (rename_eq_error_iff es).mp hr
      rcases hhit with hhit | hhit
      · exact absurd hnodup (not_nodup_of_mem_before hhit)
      · cases hhit
    | ok r =>
      obtain ⟨-, -, hr⟩ := (rename_eq_ok_iff es).mp hr
      have hm : complete sender recipient r = m := TextMap.ext_get? fun x => by
        rw [get?_complete, hr x, hget x, TextMap.get?_empty, Option.or_none]
      rw [← hm]
      rfl

/-- Headers are refused at the first whose canonical form an earlier one has. -/
theorem normalize_eq_error_iff {es : List (String × String)} {recipient sender : String}
    {mistake : BlockError} : normalize es recipient sender = .error mistake ↔
      ∃ before e after, es = before ++ e :: after ∧ (before.map fun e => canonical e.1).Nodup ∧
        canonical e.1 ∈ before.map (fun e => canonical e.1) ∧
        mistake = .duplicateHeader (canonical e.1) := by
  have hrename : normalize es recipient sender = .error mistake ↔ rename es .empty = .error mistake := by
    unfold normalize
    cases rename es .empty <;> simp [Except.map]
  rw [hrename, rename_eq_error_iff]
  simp

theorem exists_normalize_iff {es : List (String × String)} {recipient sender : String} :
    (∃ m, normalize es recipient sender = .ok m) ↔ (es.map fun e => canonical e.1).Nodup := by
  constructor
  · rintro ⟨m, hm⟩
    exact (normalize_eq_ok_iff.mp hm).1
  · intro hnodup
    cases hm : normalize es recipient sender with
    | ok m => exact ⟨m, rfl⟩
    | error mistake =>
      obtain ⟨before, e, after, rfl, -, hhit, -⟩ := normalize_eq_error_iff.mp hm
      exact absurd hnodup (not_nodup_of_mem_before hhit)

theorem normalize_eq_ok_iff_of_perm {es es' : List (String × String)} {recipient sender : String}
    {m : TextMap} (hperm : es.Perm es') :
    normalize es recipient sender = .ok m ↔ normalize es' recipient sender = .ok m := by
  rw [normalize_eq_ok_iff, normalize_eq_ok_iff, (hperm.map _).nodup_iff]
  refine and_congr_right fun hnodup => ?_
  simp only [textFor?_of_perm hperm ((hperm.map _).nodup_iff.mpr hnodup)]

/-! ### Normal headers -/

/-- Headers stand under canonical names, and those that every mail has are there. -/
structure Normal (m : TextMap) : Prop where
  isCanonical : ∀ x, (m.get? x).isSome = true → canonical x = x
  hasStandard : ∀ recipient sender x, (standard? recipient sender x).isSome = true →
    (m.get? x).isSome = true

theorem standard?_isSome {recipient sender x : String} :
    (standard? recipient sender x).isSome = true ↔ x = "Subject" ∨ x = "To" ∨ x = "From" := by
  unfold standard?
  split_ifs <;> simp_all

theorem normal_of_normalize {es : List (String × String)} {recipient sender : String} {m : TextMap}
    (h : normalize es recipient sender = .ok m) : Normal m := by
  obtain ⟨-, hget⟩ := normalize_eq_ok_iff.mp h
  constructor
  · intro x hx
    rw [hget x, Option.isSome_or, Bool.or_eq_true, standard?_isSome] at hx
    rcases hx with hx | rfl | rfl | rfl
    · obtain ⟨value, hvalue⟩ := Option.isSome_iff_exists.mp hx
      obtain ⟨e, -, rfl, -⟩ := mem_of_textFor? hvalue
      rw [canonical_canonical]
    all_goals decide
  · intro recipient' sender' x hx
    rw [hget x, Option.isSome_or, Bool.or_eq_true, standard?_isSome]
    exact .inr (standard?_isSome.mp hx)

theorem Normal.canonical_eq {m : TextMap} (h : Normal m) {e : String × String} (he : e ∈ m.toList) :
    canonical e.1 = e.1 := by
  have hget : m.get? e.1 = some e.2 := TextMap.mem_toList_iff.mp he
  exact h.isCanonical e.1 (by rw [hget]; rfl)

theorem Normal.nodup {m : TextMap} (h : Normal m) {es : List (String × String)}
    (hes : es.Perm m.toList) : (es.map fun e => canonical e.1).Nodup := by
  have hnames : (es.map fun e => canonical e.1) = es.map (·.1) := List.map_congr_left fun e he =>
    h.canonical_eq (hes.mem_iff.mp he)
  rw [hnames]
  exact (hes.map (·.1)).nodup_iff.mpr m.nodup_names

theorem Normal.textFor?_eq {m : TextMap} (h : Normal m) {es : List (String × String)}
    (hes : es.Perm m.toList) (x : String) : textFor? es x = m.get? x := by
  refine Option.ext fun value => ?_
  rw [textFor?_eq_some_iff (h.nodup hes)]
  constructor
  · rintro ⟨e, he, rfl, rfl⟩
    have hmem : e ∈ m.toList := hes.mem_iff.mp he
    rw [h.canonical_eq hmem]
    exact TextMap.mem_toList_iff.mp hmem
  · intro hget
    have hmem : (x, value) ∈ m.toList := TextMap.mem_toList_iff.mpr hget
    exact ⟨(x, value), hes.mem_iff.mpr hmem, h.canonical_eq hmem, rfl⟩

/-- **Normal headers are a fixed point.** They are their own normal form, in whatever order
they come and whoever sends and receives the mail. -/
theorem Normal.normalize_eq {m : TextMap} (h : Normal m) {es : List (String × String)}
    (hes : es.Perm m.toList) (recipient sender : String) : normalize es recipient sender = .ok m := by
  rw [normalize_eq_ok_iff]
  refine ⟨h.nodup hes, fun x => ?_⟩
  rw [h.textFor?_eq hes]
  cases hx : m.get? x with
  | some value => rfl
  | none =>
    cases hs : standard? recipient sender x with
    | none => rfl
    | some value =>
      have := h.hasStandard recipient sender x (by rw [hs]; rfl)
      rw [hx] at this
      cases this

end Header
end AlertReceivers
