/-
# Keywords as names of keys

The keys that a document may hold are keywords, of small letters and underscores. A key that is no
text is named by how it is written, or spelled out, and this is never a keyword: null and the
booleans are not counted as keywords, a number has a digit or a point in it, a collection its
brackets, hyphens or colons, and a tag its mark (`hasSign_keyName`).

Key definitions: `isKeywordLetter`, `isSign`, `hasSign`, `isKeyword`.
Key theorems: `hasSign_keyName`, `keyName_eq_iff`.
-/
import AlertReceivers.Yaml.Printer

namespace AlertReceivers

/-! ### Keywords and signs -/

/-- Whether a character may stand in a keyword. -/
def isKeywordLetter (c : Char) : Bool := (97 ≤ c.toNat && c.toNat ≤ 122) || c.toNat == 95

/-- Whether a character is neither of a keyword nor white space. -/
def isSign (c : Char) : Bool := !isKeywordLetter c && !isWhiteSpace c

/-- Whether some character of a text is a sign. -/
def hasSign (s : String) : Bool := s.toList.any isSign

/-- Whether a text is made of such characters and names neither null nor a boolean. -/
def isKeyword (s : String) : Bool :=
  s.toList.all isKeywordLetter && !(["null", "true", "false"].contains s)

@[simp] theorem hasSign_append (s t : String) : hasSign (s ++ t) = (hasSign s || hasSign t) := by
  simp [hasSign]

theorem hasSign_of_mem {s : String} {c : Char} (hc : c ∈ s.toList) (h : isSign c = true) :
    hasSign s = true :=
  List.any_eq_true.mpr ⟨c, hc, h⟩

theorem hasSign_of_isKeyword {s : String} (h : isKeyword s = true) : hasSign s = false := by
  have hletters := (Bool.and_eq_true_iff.mp h).1
  rw [hasSign, List.any_eq_false]
  intro c hc
  simp [isSign, List.all_eq_true.mp hletters c hc]

theorem hasSign_trimRight {s : String} (h : hasSign s = true) : hasSign (trimRight s) = true := by
  obtain ⟨c, hc, hsign⟩ := List.any_eq_true.mp h
  refine hasSign_of_mem ?_ hsign
  have hsplit := List.takeWhile_append_dropWhile (p := isWhiteSpace) (l := s.toList.reverse)
  rw [← List.mem_reverse, ← hsplit, List.mem_append] at hc
  rw [trimRight, String.toList_ofList, List.mem_reverse]
  refine hc.resolve_left fun hblank => ?_
  simp [isSign, List.all_eq_true.mp List.all_takeWhile c hblank] at hsign

/-! ### Numbers -/

theorem isSign_of_isDigit {c : Char} (h : c.isDigit = true) : isSign c = true := by
  have h : 48 ≤ c.toNat ∧ c.toNat ≤ 57 := Char.isDigit_iff_toNat.mp h
  have hletter : isKeywordLetter c = false := by
    simp [isKeywordLetter]
    omega
  have hblank : isWhiteSpace c = false := by
    simp [isWhiteSpace]
    omega
  rw [isSign, hletter, hblank]
  rfl

/-- The first digit of a number is a sign. -/
theorem exists_digits (n : Nat) : ∃ c cs, (toString n).toList = c :: cs ∧ isSign c = true := by
  cases hds : (toString n).toList with
  | nil =>
    rw [Nat.toString_eq_repr, Nat.toList_repr] at hds
    exact absurd hds Nat.toDigits_ne_nil
  | cons c cs =>
    refine ⟨c, cs, rfl, isSign_of_isDigit ?_⟩
    have hc : c ∈ Nat.toDigits 10 n := by
      rw [← Nat.toList_repr, ← Nat.toString_eq_repr, hds]
      exact List.mem_cons_self
    exact Nat.isDigit_of_mem_toDigits (by decide) (by decide) hc

theorem hasSign_toString_nat (n : Nat) : hasSign (toString n) = true := by
  obtain ⟨c, cs, hcs, hc⟩ := exists_digits n
  exact hasSign_of_mem (hcs ▸ List.mem_cons_self) hc

theorem hasSign_toString_int : ∀ i : Int, hasSign (toString i) = true
  | .ofNat n => hasSign_toString_nat n
  | .negSucc n => by
    show hasSign ("-" ++ toString (n + 1)) = true
    rw [hasSign_append, hasSign_toString_nat, Bool.or_true]

namespace Layout

theorem hasSign_pointed (digits : String) (exponent : Int) :
    hasSign (pointed digits exponent) = true := by
  have hend : hasSign ".0" = true := by decide
  have hpoint : hasSign "." = true := by decide
  have hstart : hasSign "0." = true := by decide
  unfold pointed
  simp only
  split
  · simp [hend]
  · split
    · simp [hpoint]
    · simp [hstart]

theorem hasSign_scientific (n : Nat) (exponent : Int) :
    hasSign (scientific (toString n) exponent) = true := by
  obtain ⟨c, cs, hcs, hc⟩ := exists_digits n
  have hfirst : hasSign (String.ofList [c]) = true := by simp [hasSign, hc]
  unfold scientific
  rw [hcs]
  cases cs with
  | nil => simp only [hasSign_append, hfirst, Bool.true_or]
  | cons d ds => simp only [hasSign_append, hfirst, Bool.true_or]

theorem hasSign_magnitude : ∀ x : Binary64, hasSign (document.magnitude x) = true
  | .nan => by decide
  | .infinite _ => by
    show hasSign ".inf" = true
    decide
  | .finite _ 0 _ => by
    show hasSign "0.0" = true
    decide
  | .finite _ (m + 1) e => by
    show hasSign (document.decimal _) = true
    unfold decimal
    simp only
    split
    · exact hasSign_pointed _ _
    · exact hasSign_scientific _ _

end Layout

theorem hasSign_text (x : Binary64) : hasSign (x.text Layout.document) = true := by
  unfold Binary64.text
  split <;> simp [Layout.hasSign_magnitude]

/-! ### Names of keys -/

namespace Yaml

/-- Everything that is written has a sign in it, apart from null, the booleans and some texts. -/
theorem hasSign_render : ∀ {n : Node}, n ≠ .null → (∀ b, n ≠ .bool b) → (∀ s, n ≠ .text s) →
    hasSign (render n) = true
  | .null, h, _, _ => absurd rfl h
  | .bool b, _, h, _ => absurd rfl (h b)
  | .text s, _, _, h => absurd rfl (h s)
  | .int i, _, _, _ => by
    rw [render, writeNode, hasSign_append, hasSign_append, hasSign_toString_int]
    simp
  | .float x, _, _, _ => by
    rw [render, writeNode, hasSign_append, hasSign_append, hasSign_text]
    simp
  | .seq [], _, _, _ => by decide
  | .seq (x :: xs), _, _, _ => by
    have hhyphen : hasSign "-" = true := by decide
    rw [render, writeNode]
    simp [hhyphen]
  | .map [], _, _, _ => by decide
  | .map ((k, v) :: es), _, _, _ => by
    have hcolon : hasSign ":" = true := by decide
    rw [render, writeNode]
    simp [hcolon]
  | .tagged t n, _, _, _ => by
    have htag : hasSign (writeTag t) = true := by
      have hmark : hasSign "!" = true := by decide
      unfold writeTag
      simp only
      split
      · decide
      · simp [hmark]
    rw [render, writeNode]
    simp [htag]

end Yaml

namespace Node

/-- What cannot be written is spelled out under a capital. -/
theorem hasSign_shown : ∀ {n : Node}, n.writable = false → hasSign n.shown = true
  | .null, h | .bool _, h | .int _, h | .float _, h | .text _, h => by
    rw [writable, writableUnder] at h
    · cases h
    all_goals nofun
  | .seq items, _ => by
    have hname : hasSign "Sequence [" = true := by decide +kernel
    show hasSign ("Sequence [" ++ ", ".intercalate (shownItems items) ++ "]") = true
    rw [hasSign_append, hasSign_append, hname]
    rfl
  | .map es, _ => by
    have hname : hasSign "Mapping \x7b" = true := by decide +kernel
    show hasSign ("Mapping \x7b" ++ ", ".intercalate (shownEntries es) ++ "\x7d") = true
    rw [hasSign_append, hasSign_append, hname]
    rfl
  | .tagged t n, _ => by
    have hname : hasSign "TaggedValue \x7b tag: !" = true := by decide +kernel
    show hasSign ("TaggedValue \x7b tag: !" ++ t ++ ", value: " ++ shown n ++ " \x7d") = true
    rw [hasSign_append, hasSign_append, hasSign_append, hasSign_append, hname]
    rfl

end Node

theorem hasSign_keyName {n : Node} (hnull : n ≠ .null) (hbool : ∀ b, n ≠ .bool b)
    (htext : ∀ s, n ≠ .text s) : hasSign (keyName n) = true := by
  unfold keyName
  split
  · exact absurd rfl (htext _)
  · split
    · exact hasSign_trimRight (Yaml.hasSign_render hnull hbool htext)
    · rename_i h
      exact Node.hasSign_shown (Bool.eq_false_iff.mpr h)

/-- **A key with a keyword for its name is that keyword.** -/
theorem keyName_eq_iff {n : Node} {s : String} (hs : isKeyword s = true) :
    keyName n = s ↔ n = .text s := by
  constructor
  · intro h
    have hsign := hasSign_keyName (n := n)
    rw [h, hasSign_of_isKeyword hs] at hsign
    cases n with
    | text t => rw [← h, keyName]
    | null =>
      rw [← h] at hs
      exact absurd hs (by decide)
    | bool b =>
      rw [← h] at hs
      exact absurd hs (by cases b <;> decide)
    | int _ | float _ | seq _ | map _ | tagged _ _ => cases hsign nofun nofun nofun
  · rintro rfl
    rfl

end AlertReceivers
