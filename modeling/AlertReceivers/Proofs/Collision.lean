/-
# Headers that collide

A map of headers can be normalized exactly if no two of its names are equal up to case
(`Header.Apart`). The result is what was given and what every mail has (`Header.Completes`), in
whatever order the entries are listed.

Key definitions: `Header.Apart`, `Header.Completes`.
Key theorems: `Header.exists_normalize_iff_apart`, `Header.exists_collision`,
`Header.completes_of_normalize`, `Header.normalize_of_map`.
-/
import AlertReceivers.Proofs.Header

namespace AlertReceivers
namespace Header

/-- No two names of a map are equal up to case. -/
def Apart (m : TextMap) : Prop := ∀ x y, (m.get? x).isSome = true → (m.get? y).isSome = true →
  SameUpToCase x y → x = y

/-- Headers are those that a map gives, under canonical names, completed by the headers that every
mail has where no name of the map has their form. -/
structure Completes (given : TextMap) (recipient sender : String) (headers : TextMap) : Prop where
  kept : ∀ x value, given.get? x = some value → headers.get? (canonical x) = some value
  filled : ∀ name value, standard? recipient sender name = some value →
    (∀ x, (given.get? x).isSome = true → canonical x ≠ name) → headers.get? name = some value
  /-- Nothing else is held. -/
  held : ∀ name value, headers.get? name = some value →
    (∃ x, canonical x = name ∧ given.get? x = some value) ∨
      standard? recipient sender name = some value ∧
        ∀ x, (given.get? x).isSome = true → canonical x ≠ name

section

variable {given headers : TextMap} {es : List (String × String)} {recipient sender : String}

theorem nodup_of_perm_toList (hes : es.Perm given.toList) : es.Nodup := by
  have hnodup : given.toList.Nodup := List.Nodup.of_map _ given.nodup_names
  exact hes.nodup_iff.mpr hnodup

theorem mem_iff_of_perm_toList (hes : es.Perm given.toList) {e : String × String} :
    e ∈ es ↔ given.get? e.1 = some e.2 :=
  hes.mem_iff.trans TextMap.mem_toList_iff

theorem nodup_iff_apart (hes : es.Perm given.toList) :
    (es.map fun e => canonical e.1).Nodup ↔ Apart given := by
  rw [List.nodup_map_iff_inj_on (nodup_of_perm_toList hes)]
  constructor
  · intro hinj x y hx hy hsame
    obtain ⟨v, hv⟩ := Option.isSome_iff_exists.mp hx
    obtain ⟨w, hw⟩ := Option.isSome_iff_exists.mp hy
    have hvmem : (x, v) ∈ es := (mem_iff_of_perm_toList hes).mpr hv
    have hwmem : (y, w) ∈ es := (mem_iff_of_perm_toList hes).mpr hw
    have hpair : (x, v) = (y, w) := hinj _ hvmem _ hwmem (canonical_eq_iff.mpr hsame)
    exact congrArg Prod.fst hpair
  · intro hapart e he e' he' hname
    have hv := (mem_iff_of_perm_toList hes).mp he
    have hw := (mem_iff_of_perm_toList hes).mp he'
    have hfst : e.1 = e'.1 := hapart e.1 e'.1 (by rw [hv]; rfl) (by rw [hw]; rfl)
      (canonical_eq_iff.mp hname)
    have hsnd : e.2 = e'.2 := by
      rw [hfst, hw] at hv
      exact (Option.some_inj.mp hv).symm
    exact Prod.ext hfst hsnd

theorem exists_normalize_iff_apart (hes : es.Perm given.toList) :
    (∃ headers, normalize es recipient sender = .ok headers) ↔ Apart given :=
  exists_normalize_iff.trans (nodup_iff_apart hes)

/-- Headers that are refused have two different names with the canonical form that is named. -/
theorem exists_collision (hes : es.Perm given.toList) {mistake : BlockError}
    (h : normalize es recipient sender = .error mistake) :
    ∃ x y, x ≠ y ∧ (given.get? x).isSome = true ∧ (given.get? y).isSome = true ∧
      canonical x = canonical y ∧ mistake = .duplicateHeader (canonical x) := by
  obtain ⟨before, e, after, rfl, -, hhit, rfl⟩ := normalize_eq_error_iff.mp h
  obtain ⟨e', he', hname⟩ := List.mem_map.mp hhit
  have hnames : ((before ++ e :: after).map (·.1)).Nodup :=
    (hes.map (·.1)).nodup_iff.mpr given.nodup_names
  have hne : e.1 ≠ e'.1 := by
    rw [List.map_append, List.map_cons, List.nodup_middle, List.nodup_cons] at hnames
    intro heq
    exact hnames.1 (List.mem_append_left _ (heq ▸ List.mem_map_of_mem he'))
  have hget := (mem_iff_of_perm_toList hes).mp (List.mem_append_right before List.mem_cons_self)
  have hget' := (mem_iff_of_perm_toList hes).mp (List.mem_append_left (e :: after) he')
  exact ⟨e.1, e'.1, hne, by rw [hget]; rfl, by rw [hget']; rfl, hname.symm, rfl⟩

theorem completes_of_normalize (hes : es.Perm given.toList)
    (h : normalize es recipient sender = .ok headers) : Completes given recipient sender headers := by
  obtain ⟨hnodup, hget⟩ := normalize_eq_ok_iff.mp h
  have hgives : ∀ name value, textFor? es name = some value ↔
      ∃ x, canonical x = name ∧ given.get? x = some value := by
    intro name value
    rw [textFor?_eq_some_iff hnodup]
    constructor
    · rintro ⟨e, he, hname, rfl⟩
      exact ⟨e.1, hname, (mem_iff_of_perm_toList hes).mp he⟩
    · rintro ⟨x, hname, hx⟩
      exact ⟨(x, value), (mem_iff_of_perm_toList hes).mpr hx, hname, rfl⟩
  have hnone : ∀ name, textFor? es name = none ↔
      ∀ x, (given.get? x).isSome = true → canonical x ≠ name := by
    intro name
    rw [textFor?_eq_none_iff]
    constructor
    · intro hne x hx
      obtain ⟨value, hvalue⟩ := Option.isSome_iff_exists.mp hx
      exact hne (x, value) ((mem_iff_of_perm_toList hes).mpr hvalue)
    · intro hne e he
      have he := (mem_iff_of_perm_toList hes).mp he
      exact hne e.1 (by rw [he]; rfl)
  refine ⟨fun x value hx => ?_, fun name value hs hne => ?_, fun name value hname => ?_⟩
  · rw [hget, (hgives _ value).mpr ⟨x, rfl, hx⟩]
    rfl
  · rw [hget, (hnone name).mpr hne, hs]
    rfl
  · rw [hget] at hname
    cases htext : textFor? es name with
    | some found =>
      rw [htext] at hname
      rw [← Option.some_inj.mp hname]
      exact .inl ((hgives name found).mp htext)
    | none =>
      rw [htext] at hname
      exact .inr ⟨hname, (hnone name).mp htext⟩

end

/-- **How a map of headers is normalized.** In whatever order its entries are listed, it has a normal
form exactly if no two of its names are equal up to case; otherwise the canonical form of two
different names is refused. The normal form is the map with canonical names, completed by the
headers that every mail has. It is the same for every order, and it is its own normal form for
every order, recipient and sender. -/
theorem normalize_of_map {given : TextMap} {es : List (String × String)}
    (hes : es.Perm given.toList) (recipient sender : String) :
    ((∃ headers, normalize es recipient sender = .ok headers) ↔ Apart given) ∧
    (∀ mistake, normalize es recipient sender = .error mistake →
      ∃ x y, x ≠ y ∧ (given.get? x).isSome = true ∧ (given.get? y).isSome = true ∧
        canonical x = canonical y ∧ mistake = .duplicateHeader (canonical x)) ∧
    ∀ headers, normalize es recipient sender = .ok headers →
      Completes given recipient sender headers ∧
      (∀ es', es'.Perm given.toList → normalize es' recipient sender = .ok headers) ∧
      ∀ es', es'.Perm headers.toList → ∀ recipient' sender',
        normalize es' recipient' sender' = .ok headers := by
  refine ⟨exists_normalize_iff_apart hes, fun mistake => exists_collision hes, fun headers h => ?_⟩
  refine ⟨completes_of_normalize hes h, fun es' hes' => ?_, fun es' hes' => ?_⟩
  · exact (normalize_eq_ok_iff_of_perm (hes.trans hes'.symm)).mp h
  · exact (normal_of_normalize h).normalize_eq hes'

/-- Headers that are listed backwards, one of them a standard one in small letters, keep their texts
once and for all; with a second spelling of it they are refused. -/
theorem normalize_of_map_backwards :
    let given : TextMap := .ofList [("to", "noc"), ("x-team", "db")]
    let colliding : TextMap := .ofList [("TO", "ops"), ("to", "noc")]
    [("x-team", "db"), ("to", "noc")].Perm given.toList ∧
    (∃ headers, normalize [("x-team", "db"), ("to", "noc")] "ops" "bot" = .ok headers ∧
      headers.get? "To" = some "noc" ∧ normalize headers.toList.reverse "" "" = .ok headers) ∧
    [("to", "noc"), ("TO", "ops")].Perm colliding.toList ∧ ¬ Apart colliding := by
  intro given colliding
  have hgiven : [("x-team", "db"), ("to", "noc")].Perm given.toList := by decide +kernel
  have hcolliding : [("to", "noc"), ("TO", "ops")].Perm colliding.toList := by decide +kernel
  obtain ⟨headers, hheaders⟩ : ∃ headers,
      normalize [("x-team", "db"), ("to", "noc")] "ops" "bot" = .ok headers := ⟨_, rfl⟩
  obtain ⟨hcompletes, -, hfixed⟩ := (normalize_of_map hgiven "ops" "bot").2.2 headers hheaders
  have hto : headers.get? "To" = some "noc" := hcompletes.kept "to" "noc" (by decide +kernel)
  have hrefused : normalize [("to", "noc"), ("TO", "ops")] "ops" "bot" =
      .error (.duplicateHeader "To") := by rfl
  refine ⟨hgiven, ⟨headers, hheaders, hto, hfixed _ (List.reverse_perm _) "" ""⟩, hcolliding, ?_⟩
  intro hapart
  obtain ⟨headers', hheaders'⟩ := (normalize_of_map hcolliding "ops" "bot").1.mpr hapart
  rw [hrefused] at hheaders'
  cases hheaders'

end Header
end AlertReceivers
