/-
# What a log shows of credentials

Two documents that differ in a credential alone should look the same in a log. The blocks do, since
values that differ in nothing but which credential they hold (`Values.Alike`) are laid over, checked
and shown alike. Mistakes do as long as the credential can be read. A number or a boolean under a tag
cannot, and the message then says what was found.

Key definitions: `FieldType.Alike`, `Values.Alike`, `Node.SameForm`, `SameInLog`.
Key theorems: `Values.Alike.laidOver`, `Block.sameInLog_validate`, `Block.decode_conceals`.
-/
import AlertReceivers.Config.Basic
import AlertReceivers.Proofs.Verdict
import AlertReceivers.Proofs.Wording

namespace AlertReceivers

/-! ### Values that look alike -/

/-- Whether values of a field are equal, or credentials of which neither or both are missing. -/
def FieldType.Alike : (t : FieldType) → t.Value → t.Value → Prop
  | secret, s, t => s.isEmpty = t.isEmpty
  | text, v, w => v = w
  | integer, v, w => v = w
  | boolean, v, w => v = w
  | tags, v, w => v = w
  | table, v, w => v = w
  | format, v, w => v = w

/-- Values look alike in every field. -/
inductive Values.Alike : {fs : List Field} → Values fs → Values fs → Prop where
  | nil : Alike .nil .nil
  | cons {f : Field} {fs : List Field} {v w : f.type.Value} {a b : Values fs}
    (value : f.type.Alike v w) (rest : Alike a b) : Alike (.cons v a) (.cons w b)

namespace FieldType

theorem Alike.refl : ∀ (t : FieldType) (v : t.Value), t.Alike v v
  | text, _ | secret, _ | integer, _ | boolean, _ | tags, _ | table, _ | format, _ => rfl

/-- Only credentials can be alike and differ. -/
theorem Alike.eq : ∀ {t : FieldType} {v w : t.Value}, t ≠ .secret → t.Alike v w → v = w
  | secret, _, _, ht, _ => absurd rfl ht
  | text, _, _, _, h | integer, _, _, _, h | boolean, _, _, _, h | tags, _, _, _, h
  | table, _, _, _, h | format, _, _, _, h => h

theorem Alike.take : ∀ {t : FieldType} {v w : t.Value}, t.Alike v w → ∀ g : Option t.Given,
    t.Alike (t.take v g) (t.take w g)
  | secret, _, _, h, none => h
  | secret, _, _, _, some _ => rfl
  | text, _, _, rfl, _ | integer, _, _, rfl, _ | boolean, _, _, rfl, _ | tags, _, _, rfl, _
  | table, _, _, rfl, _ | format, _, _, rfl, _ => Alike.refl _ _

theorem Alike.takeAll {t : FieldType} : ∀ (gs : List (Option t.Given)) {v w : t.Value},
    t.Alike v w → t.Alike (t.takeAll v gs) (t.takeAll w gs)
  | [], _, _, h => h
  | g :: gs, _, _, h => Alike.takeAll gs (h.take g)

theorem Alike.isMissing_eq : ∀ {t : FieldType} {v w : t.Value}, t.Alike v w →
    t.isMissing v = t.isMissing w
  | secret, _, _, h => h
  | text, _, _, rfl | integer, _, _, rfl | boolean, _, _, rfl | tags, _, _, rfl
  | table, _, _, rfl | format, _, _, rfl => rfl

theorem Alike.shown_eq [TextMap.Walk] (name : String) : ∀ {t : FieldType} {v w : t.Value}, t.Alike v w →
    t.shown name v = t.shown name w
  | secret, v, w, _ => congrArg (fun s => [name ++ ": " ++ s]) (Secret.shown_eq v w)
  | text, _, _, rfl | integer, _, _, rfl | boolean, _, _, rfl | tags, _, _, rfl
  | table, _, _, rfl | format, _, _, rfl => rfl

end FieldType

namespace Values

theorem Alike.refl : ∀ {fs : List Field} (b : Values fs), b.Alike b
  | _, .nil => .nil
  | f :: _, .cons v rest => .cons (FieldType.Alike.refl f.type v) (Alike.refl rest)

theorem Alike.eq : ∀ {fs : List Field} {a b : Values fs}, (∀ f ∈ fs, f.type ≠ .secret) →
    a.Alike b → a = b
  | _, _, _, _, .nil => rfl
  | f :: fs, .cons v a, .cons w b, hfs, .cons hv hab => by
    have hvw : v = w := hv.eq (hfs f List.mem_cons_self)
    have hrest : a = b := hab.eq fun g hg => hfs g (List.mem_cons_of_mem f hg)
    rw [hvw, hrest]

theorem Alike.missing?_eq {fs : List Field} {a b : Values fs} (h : a.Alike b) :
    a.missing? = b.missing? := by
  induction h with
  | nil => rfl
  | cons hv _ ih =>
    unfold missing?
    rw [hv.isMissing_eq, ih]

theorem Alike.rejected?_eq {fs : List Field} {a b : Values fs} (h : a.Alike b) :
    a.rejected? = b.rejected? := by
  induction h with
  | nil => rfl
  | @cons f fs v w a b hv _ ih =>
    obtain ⟨name, type, required, default⟩ := f
    cases type with
    | format =>
      cases hv
      unfold rejected?
      rw [ih]
    | _ => exact ih

theorem Alike.shown_eq [TextMap.Walk] : ∀ {fs : List Field} {a b : Values fs}, a.Alike b → a.shown = b.shown
  | _, _, _, .nil => rfl
  | f :: _, _, _, .cons hv hab => by
    unfold shown
    rw [hv.shown_eq f.name, hab.shown_eq]

theorem Alike.laidOver : ∀ {fs : List Field} {a b : Values fs}, a.Alike b → ∀ es : Entries,
    (a.laidOver es).Alike (b.laidOver es)
  | _, _, _, .nil, _ => .nil
  | f :: _, _, _, .cons hv hab, es => .cons (hv.takeAll (f.given es)) (hab.laidOver es)

end Values

/-! ### Credentials of one form -/

/-- Two scalars of one type under the same tags. Texts are not empty. -/
inductive Node.SameForm : Node → Node → Prop where
  | text {s t : String} (hs : s ≠ "") (ht : t ≠ "") : SameForm (.text s) (.text t)
  | int (i j : Int) : SameForm (.int i) (.int j)
  | float (x y : Binary64) : SameForm (.float x) (.float y)
  | bool (a b : Bool) : SameForm (.bool a) (.bool b)
  | tagged (tag : String) {m n : Node} (h : SameForm m n) : SameForm (.tagged tag m) (.tagged tag n)

namespace Node.SameForm

theorem symm : ∀ {m n : Node}, m.SameForm n → n.SameForm m
  | _, _, .text hs ht => .text ht hs
  | _, _, .int i j => .int j i
  | _, _, .float x y => .float y x
  | _, _, .bool a b => .bool b a
  | _, _, .tagged tag h => .tagged tag h.symm

theorem isNull_eq_false : ∀ {m n : Node}, m.SameForm n → m.isNull = false
  | _, _, .text _ _ | _, _, .int _ _ | _, _, .float _ _ | _, _, .bool _ _ => rfl
  | _, _, .tagged _ h => h.isNull_eq_false

theorem asText?_isSome_eq : ∀ {m n : Node}, m.SameForm n → m.asText?.isSome = n.asText?.isSome
  | _, _, .text _ _ | _, _, .int _ _ | _, _, .float _ _ | _, _, .bool _ _ => rfl
  | _, _, .tagged _ h => h.asText?_isSome_eq

theorem ne_empty_of_asText? : ∀ {m n : Node} {s : String}, m.SameForm n → m.asText? = some s → s ≠ ""
  | _, _, _, .text hs _, rfl => hs
  | _, _, _, .tagged _ h, hs => h.ne_empty_of_asText? hs

theorem wording?_isSome_eq : ∀ {m n : Node}, m.SameForm n → m.wording?.isSome = n.wording?.isSome
  | _, _, .text _ _ | _, _, .int _ _ | _, _, .float _ _ | _, _, .bool _ _ => rfl
  | _, _, .tagged _ h => h.asText?_isSome_eq

theorem ne_empty_of_wording? : ∀ {m n : Node} {s : String}, m.SameForm n → m.wording? = some s → s ≠ ""
  | _, _, _, .text hs _, rfl => hs
  | .int i, _, _, _, rfl => ne_empty_of_scalarText? (n := .int i) rfl
  | .float x, _, _, _, rfl => ne_empty_of_scalarText? (n := .float x) rfl
  | .bool b, _, _, _, rfl => ne_empty_of_scalarText? (n := .bool b) rfl
  | _, _, _, .tagged _ h, hs => h.ne_empty_of_asText? hs

end Node.SameForm

namespace FieldType

theorem given?_secret_of_some {n : Node} {s : String} (hnull : n.isNull = false)
    (h : n.wording? = some s) : secret.given? n = .ok (some ⟨s⟩) := by
  have hread : secret.read n = .ok ⟨s⟩ :=
    congrArg (Except.map Secret.mk) (Node.readText_spelled_eq_ok_iff.mpr h)
  unfold given?
  rw [hnull, hread]
  rfl

theorem given?_secret_of_none {n : Node} (hnull : n.isNull = false) (h : n.wording? = none) :
    secret.given? n = .error (.shape n.untagged .text) := by
  have hread : secret.read n = .error (.shape n.untagged .text) :=
    congrArg (Except.map Secret.mk) (Node.readText_spelled_of_none h)
  unfold given?
  rw [hnull, hread]
  rfl

end FieldType

/-- An entry for a credential is laid over like another one for it. -/
theorem Values.alike_laidOver_credential {key v w : Node} {s t : String}
    (hv : FieldType.secret.given? v = .ok (some ⟨s⟩)) (hw : FieldType.secret.given? w = .ok (some ⟨t⟩))
    (hs : s ≠ "") (ht : t ≠ "") : ∀ {fs : List Field} (b : Values fs),
    (∀ f ∈ fs, f.isNamedBy (key, v) = true → f.type = .secret) →
    (b.laidOver [(key, v)]).Alike (b.laidOver [(key, w)])
  | _, .nil, _ => .nil
  | ⟨name, type, required, default⟩ :: fs, .cons u rest, hfs => by
    have hrest := alike_laidOver_credential hv hw hs ht rest fun f hf =>
      hfs f (List.mem_cons_of_mem _ hf)
    refine .cons ?_ hrest
    cases hnamed : Field.isNamedBy ⟨name, type, required, default⟩ (key, v) with
    | false =>
      have hgiven : ∀ n, Field.given ⟨name, type, required, default⟩ [(key, n)] = [] := fun n =>
        Field.given_singleton_of_unnamed hnamed
      rw [hgiven v, hgiven w]
      exact FieldType.Alike.refl type u
    | true =>
      have htype : type = .secret := hfs _ List.mem_cons_self hnamed
      subst htype
      have hgiven : ∀ n g, FieldType.secret.given? n = .ok g →
          Field.given ⟨name, .secret, required, default⟩ [(key, n)] = [g] := fun n g hg =>
        Field.given_cons_of_named (e := (key, n)) hnamed hg []
      rw [hgiven v _ hv, hgiven w _ hw]
      -- both credentials are given, and neither is empty
      have hboth : (Secret.mk s).isEmpty = (Secret.mk t).isEmpty := by
        simp [Secret.isEmpty, hs, ht]
      exact hboth

/-! ### Results in a log -/

/-- Whether a log shows the same of two results. -/
inductive SameInLog [TextMap.Walk] {k : Kind} : Except BlockError (Block k) → Except BlockError (Block k) → Prop where
  | accepted {b c : Block k} (h : (Integration.mk k b).shown = (Integration.mk k c).shown) :
    SameInLog (.ok b) (.ok c)
  | refused {x y : BlockError} (shown : x.shown = y.shown) (message : x.message = y.message) :
    SameInLog (.error x) (.error y)

theorem SameInLog.refl [TextMap.Walk] {k : Kind} : ∀ r : Except BlockError (Block k), SameInLog r r
  | .ok _ => .accepted rfl
  | .error _ => .refused rfl rfl

namespace Block

theorem shown_eq_of_alike [TextMap.Walk] {k : Kind} {b c : Block k} (h : Values.Alike b c) : b.shown = c.shown := by
  unfold shown
  rw [h.shown_eq]

/-- Blocks that look alike are validated with results that do. -/
theorem sameInLog_validate [TextMap.Walk] {k : Kind} {b c : Block k} (h : Values.Alike b c) :
    SameInLog b.validate c.validate := by
  by_cases hk : k = .email
  · subst hk
    -- a mail has no credentials
    have hbc : b = c := h.eq (by decide)
    rw [hbc]
    exact SameInLog.refl _
  · unfold validate
    rw [h.missing?_eq, h.rejected?_eq, derive_of_ne hk, derive_of_ne hk]
    split
    · exact SameInLog.refl _
    · split
      · exact SameInLog.refl _
      · refine .accepted ?_
        unfold Integration.shown
        rw [shown_eq_of_alike h]

section
variable {k : Kind} {f : Field} {key v w : Node} {before after : Entries}

theorem type_eq_secret_of_isNamedBy (hf : f ∈ k.fields) (hsecret : f.type = .secret)
    (hkey : key.asText? = some f.name) :
    ∀ g ∈ k.fields, g.isNamedBy (key, v) = true → g.type = .secret := by
  intro g hg hnamed
  rw [Kind.eq_of_isNamedBy hg hf hnamed (Field.isNamedBy_iff.mpr hkey), hsecret]

theorem alike_laid (hf : f ∈ k.fields) (hsecret : f.type = .secret)
    (hkey : key.asText? = some f.name) (h : v.SameForm w) (hread : v.wording?.isSome = true) :
    Values.Alike (k.laid (before ++ (key, v) :: after)) (k.laid (before ++ (key, w) :: after)) := by
  obtain ⟨s, hs⟩ := Option.isSome_iff_exists.mp hread
  obtain ⟨t, ht⟩ := Option.isSome_iff_exists.mp (h.wording?_isSome_eq ▸ hread)
  have hv := FieldType.given?_secret_of_some h.isNull_eq_false hs
  have hw := FieldType.given?_secret_of_some h.symm.isNull_eq_false ht
  have hsplit : ∀ e : Node × Node, k.laid (before ++ e :: after) =
      ((Values.laidOver (defaults k) before).laidOver [e]).laidOver after := fun e => by
    rw [Kind.laid, ← List.singleton_append, Values.laidOver_append, Values.laidOver_append]
  rw [hsplit, hsplit]
  refine Values.Alike.laidOver ?_ after
  exact Values.alike_laidOver_credential hv hw (h.ne_empty_of_wording? hs)
    (h.symm.ne_empty_of_wording? ht) _ (type_eq_secret_of_isNamedBy hf hsecret hkey)

theorem mistake?_credential (hf : f ∈ k.fields) (hsecret : f.type = .secret)
    (hkey : key.asText? = some f.name) (hnull : v.isNull = false) :
    k.mistake? (key, v) = if v.wording?.isSome = true then none
      else some (f.mistake k (.shape v.untagged .text)) := by
  have hfield : k.field? (key, v) = some f := Kind.field?_eq_some_iff.mpr ⟨hf, hkey⟩
  obtain ⟨name, type, required, default⟩ := f
  have hsecret : type = .secret := hsecret
  subst hsecret
  unfold Kind.mistake? Field.mistake?
  rw [hfield]
  cases hv : v.wording? with
  | some s => simp [FieldType.given?_secret_of_some hnull hv]
  | none => simp [FieldType.given?_secret_of_none hnull hv]

theorem filter_isUnknown_credential (hf : f ∈ k.fields) (hkey : key.asText? = some f.name) :
    (before ++ (key, v) :: after).filter k.isUnknown =
      before.filter k.isUnknown ++ after.filter k.isUnknown := by
  have hfield : k.field? (key, v) = some f := Kind.field?_eq_some_iff.mpr ⟨hf, hkey⟩
  have hknown : ¬ k.isUnknown (key, v) = true := by
    rw [Kind.isUnknown_eq, hfield]
    exact Bool.false_ne_true
  rw [List.filter_append, List.filter_cons, if_neg hknown]

/-- A block with a credential that can be read looks the same with another one. -/
theorem sameInLog_decode [TextMap.Walk] (hf : f ∈ k.fields) (hsecret : f.type = .secret)
    (hkey : key.asText? = some f.name) (h : v.SameForm w) (hread : v.wording?.isSome = true) :
    SameInLog (decode k (.map (before ++ (key, v) :: after)))
      (decode k (.map (before ++ (key, w) :: after))) := by
  have hv : k.mistake? (key, v) = none := by
    rw [mistake?_credential hf hsecret hkey h.isNull_eq_false, if_pos hread]
  have hw : k.mistake? (key, w) = none := by
    rw [mistake?_credential hf hsecret hkey h.symm.isNull_eq_false,
      if_pos (h.wording?_isSome_eq ▸ hread)]
  have hmistake : (before ++ (key, v) :: after).findSome? k.mistake? =
      (before ++ (key, w) :: after).findSome? k.mistake? := by
    rw [List.findSome?_append, List.findSome?_append, List.findSome?_cons, List.findSome?_cons, hv, hw]
  rw [decode_map, decode_map, hmistake, filter_isUnknown_credential hf hkey,
    filter_isUnknown_credential hf hkey]
  split
  · exact SameInLog.refl _
  · split
    · exact sameInLog_validate (alike_laid hf hsecret hkey h hread)
    · exact SameInLog.refl _

/-- A block with a credential that cannot be read is refused: for an earlier mistake, or with
the credential in the message. -/
theorem decode_of_unread [TextMap.Walk] (hf : f ∈ k.fields) (hsecret : f.type = .secret)
    (hkey : key.asText? = some f.name) (hnull : v.isNull = false) (hread : v.wording? = none) :
    decode k (.map (before ++ (key, v) :: after)) = .error ((before.findSome? k.mistake?).getD
      (.invalidType k f.name "string" ("invalid type: " ++ v.described ++ ", expected a string"))) := by
  have hmessage : (Mismatch.shape v.untagged .text).message =
      "invalid type: " ++ v.described ++ ", expected a string" := by
    show "invalid type: " ++ v.untagged.described ++ ", expected " ++ "a string" = _
    rw [Node.described_untagged, String.append_assoc]
    rfl
  have hv : k.mistake? (key, v) = some (.invalidType k f.name "string"
      ("invalid type: " ++ v.described ++ ", expected a string")) := by
    rw [mistake?_credential hf hsecret hkey hnull, hread, Field.mistake, hmessage, hsecret]
    rfl
  exact decode_of_mistake? before after hv

/-- **What a log shows of a credential.** If a credential is exchanged for another one of the
same form, under the same tags, a log shows the same, provided that the credential can be read:
as a text under any tags, or as a number or a boolean that stands without one. Where it cannot,
an earlier mistake is shown; and without an earlier mistake, the credential itself is. -/
theorem decode_conceals [TextMap.Walk] (hf : f ∈ k.fields) (hsecret : f.type = .secret)
    (hkey : key.asText? = some f.name) (h : v.SameForm w) :
    (v.wording?.isSome = true →
      SameInLog (decode k (.map (before ++ (key, v) :: after)))
        (decode k (.map (before ++ (key, w) :: after)))) ∧
    (v.wording? = none → ¬ WellTyped k before →
      decode k (.map (before ++ (key, v) :: after)) = decode k (.map (before ++ (key, w) :: after))) ∧
    (v.wording? = none → WellTyped k before → ∀ u, u = v ∨ u = w →
      decode k (.map (before ++ (key, u) :: after)) = .error (.invalidType k f.name "string"
        ("invalid type: " ++ u.described ++ ", expected a string"))) := by
  refine ⟨sameInLog_decode hf hsecret hkey h, fun hv hbefore => ?_, fun hv hbefore u hu => ?_⟩
  all_goals
    have hw : w.wording? = none := by
      rw [← Option.not_isSome_iff_eq_none, ← h.wording?_isSome_eq, hv]
      decide
  · rw [decode_of_unread hf hsecret hkey h.isNull_eq_false hv,
      decode_of_unread hf hsecret hkey h.symm.isNull_eq_false hw]
    cases hm : before.findSome? k.mistake? with
    | some mistake => rfl
    | none => exact absurd (wellTyped_iff.mpr (List.findSome?_eq_none_iff.mp hm)) hbefore
  · have hm := List.findSome?_eq_none_iff.mpr (wellTyped_iff.mp hbefore)
    rcases hu with rfl | rfl
    · rw [decode_of_unread hf hsecret hkey h.isNull_eq_false hv, hm]
      rfl
    · rw [decode_of_unread hf hsecret hkey h.symm.isNull_eq_false hw, hm]
      rfl

end

section
attribute [local instance] TextMap.Walk.ascending

/-- The users of a push service are kept apart by their keys, but not in a log; two numbers
under a tag are. -/
theorem decode_conceals_user_key :
    let pushing (key : Node) : Node := .map [(.text "token", .text "t"), (.text "user_key", key)]
    SameInLog (decode .pushover (pushing (.tagged "s" (.text "old"))))
      (decode .pushover (pushing (.tagged "s" (.text "new")))) ∧
    decode .pushover (pushing (.tagged "s" (.text "old"))) ≠
      decode .pushover (pushing (.tagged "s" (.text "new"))) ∧
    decode .pushover (pushing (.tagged "s" (.int 12))) = .error (.invalidType .pushover "user_key"
      "string" ("invalid type: " ++ (Node.int 12).described ++ ", expected a string")) := by
  intro pushing
  have hfield : Field.needed "user_key" .secret ∈ Kind.pushover.fields :=
    List.mem_cons_of_mem _ List.mem_cons_self
  have htyped : WellTyped .pushover [(.text "token", .text "t")] :=
    wellTyped_iff.mpr fun e he => by
      rw [List.mem_singleton.mp he]
      rfl
  have hconceals := fun v w => @decode_conceals .pushover _ (.text "user_key") v w
    [(.text "token", .text "t")] [] _ hfield rfl rfl
  refine ⟨(hconceals _ _ (.tagged "s" (.text ?_ ?_))).1 rfl, ?_,
    (hconceals _ _ (.tagged "s" (.int 12 13))).2.2 rfl htyped _ (.inl rfl)⟩
  · decide
  · decide
  · intro h
    exact absurd (Except.ok.inj h) (by decide +kernel)

/-- Numbers under a tag that are given for a credential are in the log. -/
theorem not_sameInLog_decode_tagged_number :
    let incident (key : Node) : Node := .map [(.text "service_key", key)]
    (Node.tagged "t" (.int 1)).SameForm (.tagged "t" (.int 2)) ∧
    ¬ SameInLog (decode .pagerduty (incident (.tagged "t" (.int 1))))
      (decode .pagerduty (incident (.tagged "t" (.int 2)))) := by
  intro incident
  refine ⟨.tagged "t" (.int 1 2), fun h => ?_⟩
  have hfirst : decode .pagerduty (incident (.tagged "t" (.int 1))) = .error (.invalidType .pagerduty
      "service_key" "string" "invalid type: integer `1`, expected a string") := by rfl
  have hsecond : decode .pagerduty (incident (.tagged "t" (.int 2))) = .error (.invalidType .pagerduty
      "service_key" "string" "invalid type: integer `2`, expected a string") := by rfl
  rw [hfirst, hsecond] at h
  cases h with
  | refused _ hmessage => exact absurd hmessage (by decide)

end

end Block
end AlertReceivers
