/-
# Going through headers in another order

Nothing is known of the order in which the table of a mail's headers is gone through. Where headers
share several canonical forms, the order decides which of these is reported, and nothing else. So a
document that is accepted on one walk comes to the same configuration on every other.

Key definitions: `SameUpToWalk`.
Key theorems: `Block.decode_walks`, `Config.ofNode_eq_ok_iff_of_walks`.
-/
import AlertReceivers.Proofs.Document
import AlertReceivers.Proofs.Validation

namespace AlertReceivers

/-- Two results that differ at most in the shared form that is reported. -/
inductive SameUpToWalk {k : Kind} :
    Except BlockError (Block k) → Except BlockError (Block k) → Prop where
  | same (r : Except BlockError (Block k)) : SameUpToWalk r r
  | duplicate (name name' : String) :
    SameUpToWalk (.error (.duplicateHeader name)) (.error (.duplicateHeader name'))

theorem SameUpToWalk.eq_ok_iff {k : Kind} {r r' : Except BlockError (Block k)} {b : Block k}
    (h : SameUpToWalk r r') : r = .ok b ↔ r' = .ok b := by
  cases h with
  | same => rfl
  | duplicate => simp

variable (v w : TextMap.Walk)

/-! ### Blocks -/

namespace Block

theorem derive_walks {k : Kind} (b : Block k) : SameUpToWalk (@derive v k b) (@derive w k b) := by
  by_cases hk : k = .email
  · subst hk
    have hok : ∀ x, @derive v _ b = .ok x ↔ @derive w _ b = .ok x := fun x =>
      (@derive_mail_eq_ok_iff v b x).trans (@derive_mail_eq_ok_iff w b x).symm
    cases hv : @derive v _ b with
    | ok x =>
      rw [(hok x).mp hv]
      exact .same _
    | error mistake =>
      cases hw : @derive w _ b with
      | ok x =>
        rw [(hok x).mpr hw] at hv
        cases hv
      | error mistake' =>
        obtain ⟨_, _, _, -, -, -, rfl⟩ := (@derive_mail_eq_error_iff v b mistake).mp hv
        obtain ⟨_, _, _, -, -, -, rfl⟩ := (@derive_mail_eq_error_iff w b mistake').mp hw
        exact .duplicate ..
  · rw [@derive_of_ne v k hk b, @derive_of_ne w k hk b]
    exact .same _

theorem validate_walks {k : Kind} (b : Block k) :
    SameUpToWalk (@validate v k b) (@validate w k b) := by
  unfold validate
  cases Values.missing? b with
  | some field => exact .same _
  | none =>
    cases Values.rejected? b with
    | some rejected => exact .same _
    | none => exact derive_walks v w b

/-- **What the walk decides.** A block that is decoded on two walks has the same result, or it is
refused on both for names of headers that share a form. -/
theorem decode_walks (k : Kind) (n : Node) : SameUpToWalk (@decode v k n) (@decode w k n) := by
  unfold decode
  cases (defaults k).bind n with
  | error mistake => exact .same _
  | ok r =>
    by_cases hresidual : r.residual.isEmpty = true
    · simp only [if_pos hresidual]
      exact validate_walks v w r.block
    · simp only [if_neg hresidual]
      exact .same _

example :
    let headers : Entries := [(.text "A", .text ""), (.text "a", .text ""), (.text "B", .text ""),
      (.text "b", .text "")]
    let mail : Node := .map [(.text "to", .text "ops@example.com"), (.text "headers", .map headers)]
    @decode .ascending .email mail = .error (.duplicateHeader "A") ∧
      @decode .descending .email mail = .error (.duplicateHeader "B") :=
  ⟨rfl, rfl⟩

end Block

/-! ### Documents -/

theorem listsBlocks_walks : @ListsBlocks v = @ListsBlocks w := by
  funext k e
  simp only [ListsBlocks, (Block.decode_walks v w k _).eq_ok_iff]

theorem Node.isDefinition_walks : @IsDefinition v = @IsDefinition w := by
  funext n
  simp only [IsDefinition, listsBlocks_walks v w]

theorem isSection_walks : @IsSection v = @IsSection w := by
  funext e
  simp only [IsSection, Node.ListsReceivers, Node.isDefinition_walks v w]

theorem decodes_walks : @Decodes v = @Decodes w := by
  funext k n i
  simp only [Decodes, (Block.decode_walks v w k n).eq_ok_iff]

variable {v} in
theorem Adds.of_walk {e : Node × Node} {is : List Integration} (h : @Adds v e is) : @Adds w e is := by
  cases h with
  | name key => exact @Adds.name w e key
  | blocks key listed all => exact @Adds.blocks w e _ _ _ key listed (decodes_walks v w ▸ all)

variable {v} in
theorem Defines.of_walk {n : Node} {r : Receiver} (h : @Defines v n r) : @Defines w n r := by
  obtain ⟨hname, hne, es, parts, hes, hparts, hfilled⟩ := h
  exact @Defines.mk w n r hname hne ⟨es, parts, hes, hparts.imp fun _ _ h => h.of_walk w, hfilled⟩

/-- **Every walk accepts the same documents,** and they come to the same configurations. -/
theorem Config.ofNode_eq_ok_iff_of_walks {d : Node} {c : Config} :
    @ofNode v d = .ok c ↔ @ofNode w d = .ok c := by
  have hdocument : @Node.IsDocument v d ↔ @Node.IsDocument w d := by
    simp only [Node.IsDocument, isSection_walks v w]
  rw [@ofNode_eq_ok_iff v, @ofNode_eq_ok_iff w, hdocument]
  refine and_congr_right fun _ => ⟨fun h => ?_, fun h => ?_⟩
  · exact h.imp fun _ _ hr => hr.of_walk w
  · exact h.imp fun _ _ hr => hr.of_walk v

end AlertReceivers
