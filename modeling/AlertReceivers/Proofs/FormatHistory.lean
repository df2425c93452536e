/-
# The history of a format

The format of a chat room's messages is the only field with a memory. A word that names a format
replaces the one before and clears what was rejected; any other word is kept for validation and
leaves the format; a value without a text makes the call fail and leaves both. So a run of calls
makes of the format what its words make of it (`Block.setting_sets`).

A null is not one of these calls: it clears the word that is pending (`Block.set?_of_isNull`).

Key definitions: `Block.token`, `Block.setting`, `formatWord?`, `FormatSetting.chooseAll`.
Key theorems: `FormatSetting.rejected_chooseAll`, `Block.setting_setOrKeep`, `Block.setting_sets`,
`Block.sets_format`.
-/
import AlertReceivers.Proofs.Assignment
import AlertReceivers.Proofs.Wording

namespace AlertReceivers

/-! ### Words -/

/-- The word that a call gives for the format of messages: the text of its value. -/
def formatWord? (call : String × Node) : Option String :=
  if call.1 = "message_format" then call.2.wording? else none

theorem MessageFormat.ofName?_eq_none_iff {word : String} :
    ofName? word = none ↔ word ∉ names := by
  unfold ofName?
  have hnames : names = ["html", "text"] := rfl
  rw [hnames]
  by_cases hhtml : word = "html"
  · simp [hhtml]
  · by_cases htext : word = "text" <;> simp [hhtml, htext]

namespace FormatSetting

/-- The setting after words have been given one after the other. -/
def chooseAll (s : FormatSetting) (words : List String) : FormatSetting := words.foldl choose s

theorem chooseAll_concat (s : FormatSetting) (words : List String) (word : String) :
    s.chooseAll (words ++ [word]) = (s.chooseAll words).choose word := by
  unfold chooseAll
  rw [List.foldl_append]
  rfl

/-- The last word that names a format decides on the format. -/
theorem format_chooseAll (s : FormatSetting) (words : List String) :
    (s.chooseAll words).format =
      (words.filterMap MessageFormat.ofName?).getLast?.getD s.format := by
  induction words using List.reverseRecOn with
  | nil => rfl
  | append_singleton before word ih =>
    rw [chooseAll_concat, List.filterMap_append, choose]
    cases hname : MessageFormat.ofName? word with
    | none =>
      have hlast : [word].filterMap MessageFormat.ofName? = [] := by simp [hname]
      rw [hlast, List.append_nil]
      exact ih
    | some f =>
      have hlast : [word].filterMap MessageFormat.ofName? = [f] := by simp [hname]
      rw [hlast, List.getLast?_concat]
      rfl

/-- The last word is pending exactly if it names no format. -/
theorem rejected_chooseAll {s : FormatSetting} (hs : s.rejected = none) {words : List String}
    {word : String} : (s.chooseAll words).rejected = some word ↔
      words.getLast? = some word ∧ word ∉ MessageFormat.names := by
  cases words using List.reverseRecOn with
  | nil =>
    have hnone : (s.chooseAll []).rejected = none := hs
    simp [hnone]
  | append_singleton before last =>
    rw [chooseAll_concat, List.getLast?_concat, choose, ← MessageFormat.ofName?_eq_none_iff]
    cases hname : MessageFormat.ofName? last with
    | none =>
      constructor
      · intro h
        cases h
        exact ⟨rfl, hname⟩
      · rintro ⟨⟨⟩, -⟩
        rfl
    | some f =>
      constructor
      · intro h
        cases h
      · rintro ⟨⟨⟩, hnone⟩
        rw [hname] at hnone
        cases hnone

end FormatSetting

/-! ### Chat rooms -/

namespace Block

/-- The credential of a chat room. -/
def token : Block .hipchat → Secret
  | .cons token _ => token

/-- The format of a chat room's messages, with the word that is pending. -/
def setting : Block .hipchat → FormatSetting
  | .cons _ (.cons _ (.cons _ (.cons _ (.cons _ (.cons setting .nil))))) => setting

/-- The position of the format among the fields of a chat room. -/
def formatPosition : Fin Kind.hipchat.fields.length := ⟨5, by decide⟩

theorem get_formatPosition : ∀ b : Block .hipchat, Values.get b formatPosition = b.setting
  | .cons _ (.cons _ (.cons _ (.cons _ (.cons _ (.cons _ .nil))))) => rfl

theorem pending?_eq_rejected : ∀ b : Block .hipchat, b.pending? = b.setting.rejected
  | .cons _ (.cons _ (.cons _ (.cons _ (.cons _ (.cons _ .nil))))) => rfl

theorem missing?_chat : ∀ b : Block .hipchat,
    Values.missing? b = if b.token.isEmpty = true then some "auth_token" else none
  | .cons _ (.cons _ (.cons _ (.cons _ (.cons _ (.cons _ .nil))))) => rfl

theorem validate_chat [TextMap.Walk] (b : Block .hipchat) : b.validate =
    if b.token.isEmpty = true then .error (.missingField .hipchat "auth_token")
    else match b.setting.rejected with
      | some word => .error (.invalidValue .hipchat "message_format" word MessageFormat.names)
      | none => .ok b := by
  have hderive : b.derive = .ok b := derive_of_ne (by decide) b
  unfold validate
  rw [missing?_chat, rejected?_eq, pending?_eq_rejected, hderive]
  by_cases htoken : b.token.isEmpty = true
  · rw [if_pos htoken, if_pos htoken]
  · rw [if_neg htoken, if_neg htoken]
    cases b.setting.rejected <;> rfl

end Block

/-! ### Calls -/

namespace FieldType

theorem given?_format_of_some {n : Node} {word : String} (hn : n.isNull = false)
    (hword : n.wording? = some word) : format.given? n = .ok (some word) := by
  have hread : format.read n = .ok word := Node.readText_spelled_eq_ok_iff.mpr hword
  rw [given?, hn, hread]
  rfl

theorem given?_format_of_none {n : Node} (hn : n.isNull = false) (hword : n.wording? = none) :
    format.given? n = .error (.shape n.untagged .text) :=
  given?_eq_error_iff.mpr ⟨hn, Node.readText_spelled_of_none hword⟩

theorem snd_assign_format {n : Node} (hn : n.isNull = false) (s : FormatSetting) :
    (format.assign s n).2 = s.chooseAll n.wording?.toList := by
  rw [assign_eq]
  cases hword : n.wording? with
  | some word =>
    rw [given?_format_of_some hn hword]
    rfl
  | none =>
    rw [given?_format_of_none hn hword]
    rfl

end FieldType

namespace Block

/-- A call for the format is not refused exactly if it gives a word. -/
theorem fst_assign_format (b : Block .hipchat) {n : Node} (hn : n.isNull = false) :
    (b.assign "message_format" n).1 = .ok true ↔ ∃ word, n.wording? = some word := by
  cases hword : n.wording? with
  | some word => simp [assign_of_given Kind.format_mem (FieldType.given?_format_of_some hn hword)]
  | none => simp [assign_of_error Kind.format_mem (FieldType.given?_format_of_none hn hword)]

/-- **One call.** The format takes the word of a call, if it gives one. -/
theorem setting_setOrKeep (b : Block .hipchat) {call : String × Node}
    (hcall : call.1 = "message_format" → call.2.isNull = false) :
    (b.setOrKeep call).setting = b.setting.chooseAll (formatWord? call).toList := by
  obtain ⟨name, n⟩ := call
  rw [setOrKeep_eq_assign, ← get_formatPosition, ← get_formatPosition, formatWord?]
  by_cases hname : name = "message_format"
  · have hassign := get_assign_of_eq (i := formatPosition) b n hname.symm
    rw [if_pos hname, hassign]
    exact FieldType.snd_assign_format (hcall hname) _
  · have hother : (Kind.hipchat.fields.get formatPosition).name ≠ name := fun h => hname h.symm
    rw [if_neg hname, get_assign_of_ne b n hother]
    rfl

/-- **A run of calls.** It makes of the format what its words make of it one after the other. -/
theorem setting_sets : ∀ (calls : List (String × Node)) (b : Block .hipchat),
    (∀ call ∈ calls, call.1 = "message_format" → call.2.isNull = false) →
    (b.sets calls).setting = b.setting.chooseAll (calls.filterMap formatWord?)
  | [], _, _ => rfl
  | call :: calls, b, h => by
    have hstep := setting_setOrKeep b (h call List.mem_cons_self)
    have hrun := setting_sets calls (b.setOrKeep call) fun c hc => h c (List.mem_cons_of_mem call hc)
    have hsets : b.sets (call :: calls) = (b.setOrKeep call).sets calls := rfl
    rw [hsets, hrun, hstep, List.filterMap_cons]
    cases formatWord? call <;> rfl

/-- **What a history of the format leaves.** In a run of calls on a chat room that starts without a
pending word and has no null for the format, a call for the format is not refused exactly if it
gives a word. At the end the format is that of the last word which names one, or the one from the
start. Without a credential this is what is missing, whatever the words were. With one, a word is
reported exactly if it is the last of all and names no format, and otherwise the room is valid as it
is. All other calls of the run, and those that are refused, have no part in this. -/
theorem sets_format [TextMap.Walk] (b : Block .hipchat) (hb : b.pending? = none) {calls : List (String × Node)}
    (hcalls : ∀ call ∈ calls, call.1 = "message_format" → call.2.isNull = false) :
    let words := calls.filterMap formatWord?
    let c := b.sets calls
    (∀ call ∈ calls, call.1 = "message_format" → ∀ v : Block .hipchat,
      (v.assign call.1 call.2).1 = .ok true ↔ ∃ word, formatWord? call = some word) ∧
    c.setting.format = (words.filterMap MessageFormat.ofName?).getLast?.getD b.setting.format ∧
    (c.token.isEmpty = true → c.validate = .error (.missingField .hipchat "auth_token")) ∧
    (c.token.isEmpty = false →
      (∀ word, c.validate = .error (.invalidValue .hipchat "message_format" word ["html", "text"]) ↔
        words.getLast? = some word ∧ word ∉ ["html", "text"]) ∧
      (c.validate = .ok c ↔ ∀ word, words.getLast? = some word → word ∈ ["html", "text"])) := by
  intro words c
  have hsetting : c.setting = b.setting.chooseAll words := setting_sets calls b hcalls
  have hstart : b.setting.rejected = none := by rw [← pending?_eq_rejected, hb]
  have hpending : ∀ word, c.setting.rejected = some word ↔
      words.getLast? = some word ∧ word ∉ ["html", "text"] := fun word => by
    rw [hsetting]
    exact FormatSetting.rejected_chooseAll hstart
  refine ⟨?_, ?_, ?_, ?_⟩
  · rintro ⟨name, n⟩ hmem rfl v
    rw [fst_assign_format v (hcalls _ hmem rfl), formatWord?, if_pos rfl]
  · rw [hsetting, FormatSetting.format_chooseAll]
  · intro htoken
    rw [validate_chat, if_pos htoken]
  · intro htoken
    have hvalidate : c.validate = match c.setting.rejected with
        | some word => .error (.invalidValue .hipchat "message_format" word ["html", "text"])
        | none => .ok c := by
      rw [validate_chat, htoken]
      rfl
    have hsettled : c.setting.rejected = none ↔
        ∀ word, words.getLast? = some word → word ∈ ["html", "text"] := by
      rw [Option.eq_none_iff_forall_ne_some]
      refine forall_congr' fun word => ?_
      rw [ne_eq, hpending, not_and, not_not]
    refine ⟨fun word => ?_, ?_⟩
    · rw [hvalidate, ← hpending]
      cases c.setting.rejected <;> simp
    · rw [hvalidate, ← hsettled]
      cases c.setting.rejected <;> simp

section
attribute [local instance] TextMap.Walk.ascending

/-- A format that is refused after a good one is reported, though the last call was refused itself;
the good one stays. -/
theorem sets_format_markdown :
    let calls : List (String × Node) := [("auth_token", .text "t"), ("message_format", .text "text"),
      ("room_id", .text "ops"), ("message_format", .tagged "x" (.text "markdown")),
      ("prefix", .null), ("message_format", .seq [])]
    let c := (defaults .hipchat).sets calls
    c.setting.format = .text ∧
      c.validate = .error (.invalidValue .hipchat "message_format" "markdown" ["html", "text"]) := by
  intro calls c
  have hcalls : ∀ call ∈ calls, call.1 = "message_format" → call.2.isNull = false := by
    simp [calls, Node.isNull, Node.untagged]
  obtain ⟨-, hformat, -, hfilled⟩ := sets_format (defaults .hipchat) rfl hcalls
  have htoken : c.token.isEmpty = false := by decide
  exact ⟨hformat.trans (by decide), ((hfilled htoken).1 "markdown").mpr (by decide)⟩

end

end Block
end AlertReceivers
