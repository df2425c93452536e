/-
# Names up to case

The canonical form of a name is found in one walk over its characters. To split the name at its
hyphens, capitalize the parts and join them again gives the same, with empty parts where hyphens
stand side by side or at an end. Two names have one form exactly if they are equal up to the case
of ASCII letters.

Key definitions: `Header.SameUpToCase`, `Header.SameLetter`, `Header.capitalized`.
Key theorems: `Header.canonical_eq_iff`, `Header.canonicalChars_eq_intercalate`,
`Header.canonical_folds_case`.
-/
import AlertReceivers.Block.Header
import Mathlib

namespace AlertReceivers
namespace Header

/-! ### Hyphens -/

theorem toUpper_eq_hyphen_iff {c : Char} : c.toUpper = '-' ↔ c = '-' := by
  constructor
  · intro h
    have halpha : c.isAlpha = false := by
      rw [← Char.isAlpha_toUpper_eq_isAlpha, h]
      rfl
    have hlower : ¬ c.isLower = true := by
      rw [Char.isAlpha, Bool.or_eq_false_iff] at halpha
      simp [halpha.2]
    rwa [Char.toUpper_eq_of_not_isLower hlower] at h
  · rintro rfl
    rfl

theorem toLower_eq_hyphen_iff {c : Char} : c.toLower = '-' ↔ c = '-' := by
  rw [← toUpper_eq_hyphen_iff, Char.toUpper_toLower_eq_toUpper, toUpper_eq_hyphen_iff]

/-- A hyphen is never made or lost, whichever case a letter is given. -/
theorem isHyphen_fold (start : Bool) (c : Char) :
    ((if start then c.toUpper else c.toLower) == '-') = (c == '-') := by
  rw [Bool.eq_iff_iff, beq_iff_eq, beq_iff_eq]
  cases start
  · exact toLower_eq_hyphen_iff
  · exact toUpper_eq_hyphen_iff

/-! ### Canonical names -/

theorem canonicalChars_canonicalChars : ∀ (start : Bool) (cs : List Char),
    canonicalChars start (canonicalChars start cs) = canonicalChars start cs
  | _, [] => rfl
  | start, c :: cs => by
    rw [canonicalChars, canonicalChars, isHyphen_fold, canonicalChars_canonicalChars]
    cases start <;> simp

@[simp] theorem canonical_canonical (name : String) :
    canonical (canonical name) = canonical name := by
  unfold canonical
  rw [String.toList_ofList, canonicalChars_canonicalChars]

/-- Names that differ in the case of ASCII letters at most. -/
def SameUpToCase (x y : String) : Prop := x.toList.map Char.toLower = y.toList.map Char.toLower

theorem canonicalChars_map_toLower : ∀ (start : Bool) (cs : List Char),
    canonicalChars start (cs.map Char.toLower) = canonicalChars start cs
  | _, [] => rfl
  | start, c :: cs => by
    have hyphen : (c.toLower == '-') = (c == '-') := isHyphen_fold false c
    rw [List.map_cons, canonicalChars, canonicalChars, hyphen, canonicalChars_map_toLower]
    simp

theorem map_toLower_canonicalChars : ∀ (start : Bool) (cs : List Char),
    (canonicalChars start cs).map Char.toLower = cs.map Char.toLower
  | _, [] => rfl
  | start, c :: cs => by
    rw [canonicalChars, List.map_cons, List.map_cons, map_toLower_canonicalChars]
    cases start <;> simp

theorem canonical_eq_iff {x y : String} : canonical x = canonical y ↔ SameUpToCase x y := by
  unfold canonical SameUpToCase
  constructor
  · intro h
    have hchars : canonicalChars true x.toList = canonicalChars true y.toList :=
      String.ofList_injective h
    rw [← map_toLower_canonicalChars true x.toList, hchars, map_toLower_canonicalChars]
  · intro h
    rw [← canonicalChars_map_toLower, h, canonicalChars_map_toLower]

theorem sameUpToCase_iff_toLower_eq {x y : String} : SameUpToCase x y ↔ x.toLower = y.toLower := by
  unfold SameUpToCase String.toLower
  rw [← String.toList_inj, String.toList_map, String.toList_map]

/-! ### Character by character -/

/-- Characters that are equal, or one letter of ASCII in two cases. -/
def SameLetter (c d : Char) : Prop := d = c ∨ c.isAlpha = true ∧ (d = c.toUpper ∨ d = c.toLower)

theorem sameLetter_fold (start : Bool) (c : Char) :
    SameLetter c (if start then c.toUpper else c.toLower) := by
  by_cases halpha : c.isAlpha = true
  · cases start
    · exact .inr ⟨halpha, .inr rfl⟩
    · exact .inr ⟨halpha, .inl rfl⟩
  · rw [Char.isAlpha, Bool.or_eq_true, not_or] at halpha
    cases start
    · exact .inl (Char.toLower_eq_of_not_isUpper halpha.1)
    · exact .inl (Char.toUpper_eq_of_not_isLower halpha.2)

theorem forall₂_canonicalChars : ∀ (start : Bool) (cs : List Char),
    List.Forall₂ SameLetter cs (canonicalChars start cs)
  | _, [] => .nil
  | start, c :: cs => .cons (sameLetter_fold start c) (forall₂_canonicalChars (c == '-') cs)

/-! ### Part by part -/

/-- A part of a name with a capital in front and small letters after it. -/
def capitalized : List Char → List Char
  | [] => []
  | c :: cs => c.toUpper :: cs.map Char.toLower

/-- The part at the head of a name: it starts there, or it has started before. -/
def headPart (start : Bool) (part : List Char) : List Char :=
  if start then capitalized part else part.map Char.toLower

theorem headPart_nil (start : Bool) : headPart start [] = [] := by cases start <;> rfl

theorem headPart_cons (start : Bool) (c : Char) (part : List Char) :
    headPart start (c :: part) =
      (if start then c.toUpper else c.toLower) :: headPart false part := by
  cases start <;> rfl

theorem intercalate_cons_head {α : Type} (sep : List α) (x : α) (l : List α) (ls : List (List α)) :
    sep.intercalate ((x :: l) :: ls) = x :: sep.intercalate (l :: ls) := by
  cases ls with
  | nil => simp
  | cons l' ls => simp [List.intercalate_cons_cons]

/-- The walk over a name writes the part that it is in, and then capitalizes the others. -/
theorem canonicalChars_of_splitOn : ∀ {cs part : List Char} {parts : List (List Char)} (start : Bool),
    cs.splitOn '-' = part :: parts →
    canonicalChars start cs = ['-'].intercalate (headPart start part :: parts.map capitalized)
  | [], part, parts, start, h => by
    rw [List.splitOn_nil] at h
    obtain ⟨rfl, rfl⟩ := List.cons.inj h
    rw [headPart_nil]
    rfl
  | c :: cs, part, parts, start, h => by
    obtain ⟨part', parts', hcs⟩ := List.exists_cons_of_ne_nil (List.splitOnP_ne_nil (· == '-') cs)
    have ih := fun start => @canonicalChars_of_splitOn cs part' parts' start hcs
    have hstep : (c :: cs).splitOn '-' =
        if (c == '-') = true then [] :: part' :: parts' else (c :: part') :: parts' := by
      rw [List.splitOn_eq_splitOnP, List.splitOnP_cons_eq_if_modifyHead, hcs, List.modifyHead_cons]
    rw [hstep] at h
    rw [canonicalChars]
    by_cases hc : c = '-'
    · subst hc
      obtain ⟨rfl, rfl⟩ := List.cons.inj h
      -- the next part starts after the hyphen
      have hnext : canonicalChars ('-' == '-') cs =
          ['-'].intercalate (capitalized part' :: parts'.map capitalized) := ih true
      have hhyphen : (if start then Char.toUpper '-' else Char.toLower '-') = '-' := by
        cases start <;> rfl
      rw [hnext, hhyphen, headPart_nil, List.map_cons, List.intercalate_cons_cons]
      rfl
    · have hne : (c == '-') = false := by simpa using hc
      rw [hne] at h ⊢
      obtain ⟨rfl, rfl⟩ := List.cons.inj h
      rw [ih false, headPart_cons, intercalate_cons_head]

/-- **The parts of a canonical name.** Its parts between hyphens are those of the name, each with a
capital in front and small letters after it. -/
theorem canonicalChars_eq_intercalate (cs : List Char) :
    canonicalChars true cs = ['-'].intercalate ((cs.splitOn '-').map capitalized) := by
  obtain ⟨part, parts, hcs⟩ := List.exists_cons_of_ne_nil (List.splitOnP_ne_nil (· == '-') cs)
  have hsplit : cs.splitOn '-' = part :: parts := hcs
  rw [canonicalChars_of_splitOn true hsplit, hsplit]
  rfl

/-- **A canonical name folds case, and nothing else.** It is made of the parts of the name. Two names
have the same one exactly if they are equal after lower-casing, and it is its own. It is as long
as the name, and differs from it in the case of ASCII letters at most. -/
theorem canonical_folds_case (x y : String) :
    (canonical x).toList = ['-'].intercalate ((x.toList.splitOn '-').map capitalized) ∧
    (canonical x = canonical y ↔ x.toLower = y.toLower) ∧
    canonical (canonical x) = canonical x ∧
    (canonical x).length = x.length ∧
    List.Forall₂ SameLetter x.toList (canonical x).toList := by
  have hchars : (canonical x).toList = canonicalChars true x.toList := String.toList_ofList
  have hletters : List.Forall₂ SameLetter x.toList (canonical x).toList :=
    hchars ▸ forall₂_canonicalChars true x.toList
  refine ⟨?_, ?_, canonical_canonical x, ?_, hletters⟩
  · rw [hchars, canonicalChars_eq_intercalate]
  · rw [canonical_eq_iff, sameUpToCase_iff_toLower_eq]
  · rw [← String.length_toList, ← String.length_toList, hletters.length_eq]

example : canonical "-x--MAILER-İD-" = "-X--Mailer-İd-" := by decide

end Header
end AlertReceivers
