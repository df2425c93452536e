/-
# Lists of receivers in parts

A list in two parts is decoded as the first part, and then the second one with the names of the
first at hand (`Load.outcome_receivers_append`). These names can refuse a definition, but they have
no part in what it comes to. A mistake in the first list is the mistake of the whole. One in the
second need not be, since a name may be repeated before it.

Key definitions: `Node.listing`.
Key theorems: `Load.outcome_receivers_append`, `Config.exists_ofNode_listing_of_subperm`,
`Config.ofNode_listing_composes`.
-/
import AlertReceivers.Proofs.Document
import Mathlib.Data.List.Perm.Subperm

namespace AlertReceivers

/-- The document that lists definitions of receivers and holds nothing else. -/
def Node.listing (ns : List Node) : Node := .map [(.text "receivers", .seq ns)]

/-! ### Receivers one by one -/

theorem forall₂_defines_iff [TextMap.Walk] {ns : List Node} {rs : List Receiver} :
    List.Forall₂ Defines ns rs ↔ ns.map Receiver.ofNode = rs.map .ok := by
  have hsame : Defines = fun n r => Receiver.ofNode n = .ok r := by
    funext n r
    exact propext Load.receiver_eq_ok_iff.symm
  rw [← List.forall₂_eq_eq_eq, List.forall₂_map_left_iff, List.forall₂_map_right_iff, hsame]

namespace Load

/-- Names that are seen before only refuse receivers. -/
theorem receivers_eq_ok_iff_nil [TextMap.Walk] {seen : List String} {ns : List Node} {rs : List Receiver} :
    (receivers seen ns).outcome = .ok rs ↔
      (receivers [] ns).outcome = .ok rs ∧ ∀ r ∈ rs, r.name ∉ seen := by
  rw [receivers_eq_ok_iff, receivers_eq_ok_iff]
  simp only [List.not_mem_nil, not_false_eq_true, implies_true, and_true, and_assoc]

/-- A list in two parts is decoded as the first part, and then the second one with the names of
the first. -/
theorem outcome_receivers_append [TextMap.Walk] : ∀ (seen : List String) (ns ms : List Node),
    (receivers seen (ns ++ ms)).outcome = (do
      let rs ← (receivers seen ns).outcome
      let rest ← (receivers ((rs.map Receiver.name).reverse ++ seen) ms).outcome
      return rs ++ rest)
  | seen, [], ms => by
    show _ = (receivers seen ms).outcome >>= fun rest => pure rest
    rw [bind_pure, List.nil_append]
  | seen, n :: ns, ms => by
    rw [List.cons_append, outcome_receivers_cons, outcome_receivers_cons, bind_assoc]
    refine bind_congr fun r => ?_
    split
    · rfl
    · -- The name of `r` is behind those of `ns` in the names that `ms` is decoded with.
      have hnames : ∀ rs : List Receiver, ((r :: rs).map Receiver.name).reverse ++ seen =
          (rs.map Receiver.name).reverse ++ r.name :: seen := by simp
      rw [outcome_receivers_append]
      simp only [bind_assoc, pure_bind, hnames, List.cons_append]

end Load

/-! ### Documents -/

namespace Config

section
variable [TextMap.Walk]

theorem ofNode_listing (ns : List Node) :
    ofNode (.listing ns) = Config.mk <$> (Load.receivers [] ns).outcome := by
  have hitems : (Node.seq ns).items? = some ns := rfl
  rw [Node.listing, ofNode_map, Load.outcome_sections_cons_receivers hitems]
  cases (Load.receivers [] ns).outcome with
  | error e => rfl
  | ok rs => rfl

theorem ofNode_listing_eq_ok_iff {ns : List Node} {c : Config} :
    ofNode (.listing ns) = .ok c ↔ (Load.receivers [] ns).outcome = .ok c.receivers := by
  rw [ofNode_listing, map_eq_pure_bind, Except.bind_eq_ok_iff]
  constructor
  · rintro ⟨rs, hrs, h⟩
    cases h
    exact hrs
  · exact fun h => ⟨_, h, rfl⟩

theorem ofNode_listing_eq_error_iff {ns : List Node} {e : ConfigError} :
    ofNode (.listing ns) = .error e ↔ (Load.receivers [] ns).outcome = .error e := by
  rw [ofNode_listing, map_eq_pure_bind, Except.bind_eq_error_iff]
  constructor
  · rintro (h | ⟨_, -, h⟩)
    · exact h
    · cases h
  · exact .inl

theorem ofNode_listing_append_eq_ok_iff {ns ms : List Node} {c : Config} :
    ofNode (.listing (ns ++ ms)) = .ok c ↔
      ∃ a b, ofNode (.listing ns) = .ok a ∧ ofNode (.listing ms) = .ok b ∧
        (a.receivers.map Receiver.name).Disjoint (b.receivers.map Receiver.name) ∧
        c.receivers = a.receivers ++ b.receivers := by
  have hnames : ∀ rs rest : List Receiver,
      (∀ r ∈ rest, r.name ∉ (rs.map Receiver.name).reverse ++ []) ↔
        (rs.map Receiver.name).Disjoint (rest.map Receiver.name) := fun rs rest => by
    rw [List.disjoint_comm, List.disjoint_left]
    simp only [List.append_nil, List.mem_reverse, List.forall_mem_map]
  simp only [ofNode_listing_eq_ok_iff, Load.outcome_receivers_append, Except.bind_eq_ok_iff]
  constructor
  · rintro ⟨rs, hrs, rest, hrest, h⟩
    obtain ⟨hrest, hnew⟩ := Load.receivers_eq_ok_iff_nil.mp hrest
    exact ⟨⟨rs⟩, ⟨rest⟩, hrs, hrest, (hnames rs rest).mp hnew, (Except.ok.inj h).symm⟩
  · rintro ⟨⟨rs⟩, ⟨rest⟩, hrs, hrest, hnew, hc⟩
    refine ⟨rs, hrs, rest, Load.receivers_eq_ok_iff_nil.mpr ⟨hrest, (hnames rs rest).mpr hnew⟩, ?_⟩
    rw [hc]
    rfl

theorem ofNode_listing_append_eq_error {ns : List Node} {e : ConfigError}
    (h : ofNode (.listing ns) = .error e) (ms : List Node) :
    ofNode (.listing (ns ++ ms)) = .error e := by
  rw [ofNode_listing_eq_error_iff] at h ⊢
  rw [Load.outcome_receivers_append, h]
  rfl

theorem ofNode_listing_eq_ok_iff_defines {ns : List Node} {c : Config} :
    ofNode (.listing ns) = .ok c ↔
      List.Forall₂ Defines ns c.receivers ∧ (ns.map Node.definedName?).Nodup := by
  rw [ofNode_listing_eq_ok_iff, Load.receivers_eq_ok_iff]
  constructor
  · rintro ⟨hall, hnodup, -⟩
    exact ⟨hall, (nodup_names_iff hall).mpr hnodup⟩
  · rintro ⟨hall, hnodup⟩
    exact ⟨hall, (nodup_names_iff hall).mp hnodup, fun _ _ => List.not_mem_nil⟩

theorem map_ofNode_of_listing {ns : List Node} {c : Config} (h : ofNode (.listing ns) = .ok c) :
    ns.map Receiver.ofNode = c.receivers.map .ok :=
  forall₂_defines_iff.mp (ofNode_listing_eq_ok_iff_defines.mp h).1

/-- Of definitions that are accepted any may be left out, and the others may stand in any order. -/
theorem exists_ofNode_listing_of_subperm {ns ls : List Node} {c : Config}
    (h : ofNode (.listing ns) = .ok c) (hsub : ls.Subperm ns) :
    ∃ c', ofNode (.listing ls) = .ok c' := by
  obtain ⟨hall, hnodup⟩ := ofNode_listing_eq_ok_iff_defines.mp h
  have hdefines : ∀ n ∈ ls, ∃ r, Defines n r := fun n hn =>
    exists_forall₂_iff.mp ⟨_, hall⟩ n (hsub.subset hn)
  obtain ⟨rs, hrs⟩ := exists_forall₂_iff.mpr hdefines
  obtain ⟨kept, hperm, hsublist⟩ := hsub
  have hkept : (kept.map Node.definedName?).Nodup := hnodup.sublist (hsublist.map _)
  have hnodup' : (ls.map Node.definedName?).Nodup := (hperm.map _).nodup_iff.mp hkept
  exact ⟨⟨rs⟩, ofNode_listing_eq_ok_iff_defines.mpr ⟨hrs, hnodup'⟩⟩

/-- **Lists of receivers compose.** Two lists are accepted as one exactly if each of them is and no
name is in both; the receivers are then those of the first list, followed by those of the second.
A mistake in the first list is the mistake of the whole. Any definitions of an accepted list, in
any order, are accepted too, and each has the receiver that it has on its own. -/
theorem ofNode_listing_composes (ns ms : List Node) :
    (∀ c, ofNode (.listing (ns ++ ms)) = .ok c ↔
      ∃ a b, ofNode (.listing ns) = .ok a ∧ ofNode (.listing ms) = .ok b ∧
        (a.receivers.map Receiver.name).Disjoint (b.receivers.map Receiver.name) ∧
        c.receivers = a.receivers ++ b.receivers) ∧
      (∀ e, ofNode (.listing ns) = .error e → ofNode (.listing (ns ++ ms)) = .error e) ∧
      ∀ a, ofNode (.listing ns) = .ok a →
        ns.map Receiver.ofNode = a.receivers.map .ok ∧
        ∀ ls : List Node, ls.Subperm ns →
          ∃ c, ofNode (.listing ls) = .ok c ∧ ls.map Receiver.ofNode = c.receivers.map .ok := by
  refine ⟨fun c => ofNode_listing_append_eq_ok_iff,
    fun e h => ofNode_listing_append_eq_error h ms, fun a h => ⟨map_ofNode_of_listing h, ?_⟩⟩
  intro ls hsub
  obtain ⟨c, hc⟩ := exists_ofNode_listing_of_subperm h hsub
  exact ⟨c, hc, map_ofNode_of_listing hc⟩

end

section
attribute [local instance] TextMap.Walk.ascending

/-- A mistake in the second list is not reached if a name of the first one is repeated before it. -/
example :
    let n : Node := .map [(.text "name", .text "a")]
    ofNode (.listing [n, .null]) = .error (.validation (.definition "null")) ∧
      ofNode (.listing ([n] ++ [n, .null])) = .error (.validation (.repeatedName "a")) := by
  exact ⟨rfl, rfl⟩

end

end Config
end AlertReceivers
