/-
# Integrations grouped by kind

A document that is written lists the integrations of a receiver kind by kind. To group them so is
stable and loses none, and a grouped receiver is written as the receiver itself.

Key definitions: `Kind.rank`, `Receiver.grouped`, `Config.grouped`.
Key theorems: `Receiver.ofKind_grouped`, `Receiver.perm_grouped`, `Receiver.toNode_grouped`,
`Receiver.grouped_eq_self_iff`.
-/
import AlertReceivers.Config.Basic
import Mathlib.Data.List.Nodup
import Mathlib.Data.List.Perm.Basic

namespace AlertReceivers

/-- The position of a kind among all kinds. -/
def Kind.rank (k : Kind) : Nat := all.idxOf k

/-- A receiver with its integrations grouped by kind. -/
def Receiver.grouped (r : Receiver) : Receiver := ⟨r.name, Kind.all.flatMap r.ofKind⟩

/-- A configuration with the integrations of every receiver grouped by kind. -/
def Config.grouped (c : Config) : Config := ⟨c.receivers.map Receiver.grouped⟩

theorem Kind.all_nodup : all.Nodup := by decide

theorem Kind.all_pairwise : all.Pairwise fun j k => j.rank < k.rank := by decide

/-! ### Parts of lists -/

/-- If the members with a property come first, they can be split off in front. -/
theorem filter_append_filter_not {α : Type} {p : α → Bool} : ∀ {l : List α},
    (l.Pairwise fun a b => p b = true → p a = true) →
    l.filter p ++ l.filter (fun a => !p a) = l
  | [], _ => rfl
  | a :: l, h => by
    obtain ⟨ha, hl⟩ := List.pairwise_cons.mp h
    have ih := filter_append_filter_not hl
    cases hp : p a with
    | true => simp [hp, ih]
    | false =>
      have hnone : l.filter p = [] := by
        rw [List.filter_eq_nil_iff]
        intro b hb hpb
        rw [ha b hb hpb] at hp
        cases hp
      rw [hnone, List.nil_append] at ih
      simp [hp, hnone, ih]

theorem flatMap_eq_of_forall_ne {α β : Type} {f : α → List β} {k : α} : ∀ {ks : List α},
    k ∈ ks → ks.Nodup → (∀ j ∈ ks, j ≠ k → f j = []) → ks.flatMap f = f k
  | j :: ks, hk, hnodup, h => by
    obtain ⟨hj, hnodup⟩ := List.nodup_cons.mp hnodup
    rw [List.flatMap_cons]
    rcases List.mem_cons.mp hk with rfl | hk
    · have hrest : ks.flatMap f = [] := by
        rw [List.flatMap_eq_nil_iff]
        exact fun i hi => h i (List.mem_cons_of_mem _ hi) fun he => hj (he ▸ hi)
      rw [hrest, List.append_nil]
    · have hne : j ≠ k := fun he => hj (he ▸ hk)
      rw [h j List.mem_cons_self hne, List.nil_append]
      exact flatMap_eq_of_forall_ne hk hnodup fun i hi => h i (List.mem_cons_of_mem _ hi)

theorem flatMap_filter_isEmpty {α β : Type} (f : α → List β) : ∀ ks : List α,
    (ks.filter fun k => !(f k).isEmpty).flatMap f = ks.flatMap f
  | [] => rfl
  | k :: ks => by
    have ih := flatMap_filter_isEmpty f ks
    cases hk : f k with
    | nil => simp [hk, ih]
    | cons x xs => simp [hk, ih]

/-- Integrations in the order of their kinds are put together from the groups of all kinds. -/
theorem flatMap_filter_kind : ∀ {ks : List Kind} {is : List Integration},
    (ks.Pairwise fun j k => j.rank < k.rank) → (∀ i ∈ is, i.kind ∈ ks) →
    (is.Pairwise fun i j => i.kind.rank ≤ j.kind.rank) →
    (ks.flatMap fun k => is.filter fun i => i.kind == k) = is
  | [], is, _, hall, _ => (List.eq_nil_iff_forall_not_mem.mpr fun i hi =>
      absurd (hall i hi) List.not_mem_nil).symm
  | k :: ks, is, hks, hall, his => by
    obtain ⟨hk, hks⟩ := List.pairwise_cons.mp hks
    -- nothing can stand before an integration of the least kind but another of that kind
    have hfirst : is.Pairwise fun i j => (j.kind == k) = true → (i.kind == k) = true := by
      refine his.imp_of_mem fun {i j} hi _ hle hj => ?_
      rw [beq_iff_eq.mp hj] at hle
      rcases List.mem_cons.mp (hall i hi) with hi | hi
      · exact beq_iff_eq.mpr hi
      · have hlt := hk _ hi
        omega
    have hrest : (ks.flatMap fun j => is.filter fun i => i.kind == j) =
        ks.flatMap fun j => (is.filter fun i => !(i.kind == k)).filter fun i => i.kind == j := by
      refine List.flatMap_congr fun j hj => ?_
      have hne : j ≠ k := by
        rintro rfl
        exact Nat.lt_irrefl _ (hk _ hj)
      rw [List.filter_filter]
      refine List.filter_congr fun i _ => ?_
      by_cases hi : i.kind = j
      · simp [hi, hne]
      · simp [hi]
    have hin : ∀ i ∈ is.filter (fun i => !(i.kind == k)), i.kind ∈ ks := by
      intro i hi
      obtain ⟨hi, hne⟩ := List.mem_filter.mp hi
      exact (List.mem_cons.mp (hall i hi)).resolve_left (by simpa using hne)
    rw [List.flatMap_cons, hrest, flatMap_filter_kind hks hin (his.filter _)]
    exact filter_append_filter_not hfirst

/-! ### Grouped receivers -/

namespace Receiver

@[simp] theorem name_grouped (r : Receiver) : r.grouped.name = r.name := rfl

theorem mem_ofKind {r : Receiver} {k : Kind} {i : Integration} :
    i ∈ r.ofKind k ↔ i ∈ r.integrations ∧ i.kind = k := by
  rw [ofKind, List.mem_filter, beq_iff_eq]

@[simp] theorem ofKind_grouped (r : Receiver) (k : Kind) : r.grouped.ofKind k = r.ofKind k := by
  have hgroup : ∀ j, j ≠ k → (r.ofKind j).filter (fun i => i.kind == k) = [] := by
    intro j hj
    rw [List.filter_eq_nil_iff]
    intro i hi hk
    exact hj ((mem_ofKind.mp hi).2.symm.trans (beq_iff_eq.mp hk))
  rw [ofKind, grouped, List.filter_flatMap,
    flatMap_eq_of_forall_ne k.mem_all Kind.all_nodup fun j _ => hgroup j, ofKind, List.filter_filter]
  simp

/-- No integration is lost or doubled. -/
theorem perm_grouped (r : Receiver) : r.grouped.integrations.Perm r.integrations := by
  rw [List.perm_iff_count]
  intro i
  have hcount : ∀ r : Receiver, (r.ofKind i.kind).count i = r.integrations.count i := fun r =>
    List.count_filter (beq_self_eq_true _)
  rw [← hcount, ofKind_grouped, hcount]

@[simp] theorem kinds_grouped (r : Receiver) : r.grouped.kinds = r.kinds := by
  simp [kinds]

theorem flatMap_kinds (r : Receiver) : r.kinds.flatMap r.ofKind = r.grouped.integrations :=
  flatMap_filter_isEmpty r.ofKind Kind.all

@[simp] theorem toNode_grouped (r : Receiver) : r.grouped.toNode = r.toNode := by
  simp [toNode, blocksEntry]

theorem pairwise_grouped (r : Receiver) :
    r.grouped.integrations.Pairwise fun i j => i.kind.rank ≤ j.kind.rank := by
  rw [grouped, List.pairwise_flatMap]
  constructor
  · intro k _
    refine List.pairwise_of_forall_mem_list fun i hi j hj => Nat.le_of_eq ?_
    rw [(mem_ofKind.mp hi).2, (mem_ofKind.mp hj).2]
  · refine Kind.all_pairwise.imp fun {j k} hjk i hi i' hi' => ?_
    rw [(mem_ofKind.mp hi).2, (mem_ofKind.mp hi').2]
    omega

/-- Grouping changes nothing exactly if the kinds come in order. -/
theorem grouped_eq_self_iff {r : Receiver} :
    r.grouped = r ↔ r.integrations.Pairwise fun i j => i.kind.rank ≤ j.kind.rank := by
  constructor
  · intro h
    rw [← h]
    exact r.pairwise_grouped
  · intro h
    have his : Kind.all.flatMap r.ofKind = r.integrations :=
      flatMap_filter_kind Kind.all_pairwise (fun i _ => i.kind.mem_all) h
    rw [grouped, his]

end Receiver

/-! ### Grouped configurations -/

namespace Config

@[simp] theorem toNode_grouped (c : Config) : c.grouped.toNode = c.toNode := by
  simp [toNode, grouped]

theorem grouped_eq_self_iff {c : Config} : c.grouped = c ↔ ∀ r ∈ c.receivers, r.grouped = r := by
  have hmap : c.grouped = c ↔ c.receivers.map Receiver.grouped = c.receivers.map id := by
    rw [List.map_id]
    exact ⟨congrArg receivers, congrArg mk⟩
  rw [hmap, List.map_inj_left]
  rfl

end Config
end AlertReceivers
