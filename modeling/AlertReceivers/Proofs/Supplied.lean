/-
# Headers that a mail is given

Every name in the table of a mail's headers stands under its canonical form, and two names with one
form are refused. But the table itself keeps one value for each name: where the keys of two entries
have one text, such as `1` and `"1"`, the mail is accepted and one of the two headers is lost.

Key definitions: `headersField`, `headersPosition`.
Key theorems: `Header.get?_of_normalize`, `Block.tabulates_headers_laid`,
`Block.get?_headers_of_decode`.
-/
import AlertReceivers.Proofs.Collision
import AlertReceivers.Proofs.Seed
import AlertReceivers.Proofs.Table

namespace AlertReceivers

/-! ### Names under their canonical form -/

namespace Header

variable {m headers : TextMap} {recipient sender : String}

theorem eq_of_canonical_eq (h : normalize m.toList recipient sender = .ok headers)
    {e e' : String × String} (he : e ∈ m.toList) (he' : e' ∈ m.toList)
    (hname : canonical e.1 = canonical e'.1) : e = e' := by
  obtain ⟨hnodup, -⟩ := normalize_eq_ok_iff.mp h
  exact List.inj_on_of_nodup_map hnodup he he' hname

theorem get?_of_normalize (h : normalize m.toList recipient sender = .ok headers)
    {name value : String} (hget : m.get? name = some value) :
    headers.get? (canonical name) = some value :=
  (completes_of_normalize (.refl _) h).kept name value hget

end Header

/-! ### The table of headers -/

/-- The field for the headers of a mail. -/
def headersField : Field := .optional "headers" .table

/-- The position of the headers among the fields of a mail. -/
def headersPosition : Fin Kind.email.fields.length := ⟨3, by decide⟩

namespace Block

theorem normalize_headers_of_decode [TextMap.Walk] {es : Entries} {b : Block .email}
    (h : decode .email (.map es) = .ok b) :
    Header.normalize (Kind.email.laid es).headers.toList (Kind.email.laid es).recipient
      (Kind.email.laid es).sender = .ok b.headers := by
  obtain ⟨-, hvalidate⟩ := decode_map_eq_ok_iff.mp h
  obtain ⟨-, -, hderive⟩ := validate_eq_ok_iff.mp hvalidate
  obtain ⟨m, hm, rfl⟩ := derive_mail_eq_ok_iff.mp hderive
  rw [headers_withHeaders, hm]

theorem get_headersPosition : ∀ b : Block .email, Values.get b headersPosition = b.headers
  | .cons _ (.cons _ (.cons _ (.cons _ _))) => rfl

/-- If one entry of a mail names the headers, and it holds a mapping, the headers that are laid
over the defaults are the table of this mapping. -/
theorem tabulates_headers_laid [TextMap.Walk] {es given : Entries} {key : Node} {b : Block .email}
    (honly : es.filter headersField.isNamedBy = [(key, .map given)])
    (h : decode .email (.map es) = .ok b) : Tabulates given (Kind.email.laid es).headers := by
  obtain ⟨hbinds, -⟩ := decode_map_eq_ok_iff.mp h
  have hread : FieldType.table.overlay TextMap.empty (.map given) =
      .ok (Values.get (Kind.email.laid es) headersPosition) :=
    overlay_of_only (i := headersPosition) (by decide) honly rfl hbinds.typed TextMap.empty
  rw [get_headersPosition] at hread
  exact tabulates_of_read (FieldType.read_table_of_overlay hread)

/-- **What becomes of the headers that a mail is given.** If a mail is accepted and one entry of it
names the headers, every name in the table of this entry stands among the headers, under its
canonical form, with the text of an entry that has the name. Different names have different
canonical forms. So if no two entries have one name, each of them has its own text among the
headers, under a canonical form of its own. -/
theorem get?_headers_of_decode [TextMap.Walk] {es given : Entries} {key : Node} {b : Block .email}
    (honly : es.filter (fun e => e.1.asText? == some "headers") = [(key, .map given)])
    (h : decode .email (.map es) = .ok b) :
    (∀ e ∈ given, ∃ name value, e.1.wording? = some name ∧
      b.headers.get? (Header.canonical name) = some value ∧
      ∃ e' ∈ given, e'.1.wording? = some name ∧ e'.2.wording? = some value) ∧
    (∀ e ∈ given, ∀ e' ∈ given, e.1.wording?.map Header.canonical = e'.1.wording?.map Header.canonical →
      e.1.wording? = e'.1.wording?) ∧
    ((given.map fun e => e.1.wording?).Nodup →
      (∀ e ∈ given, ∃ name value, e.1.wording? = some name ∧ e.2.wording? = some value ∧
        b.headers.get? (Header.canonical name) = some value) ∧
      (given.map fun e => e.1.wording?.map Header.canonical).Nodup) := by
  have htable := tabulates_headers_laid honly h
  have hnormal := normalize_headers_of_decode h
  have hforms : ∀ e ∈ given, ∀ e' ∈ given,
      e.1.wording?.map Header.canonical = e'.1.wording?.map Header.canonical →
      e.1.wording? = e'.1.wording? := by
    intro e he e' he' hcanonical
    obtain ⟨name, value, hname, hget⟩ := htable.named e he
    obtain ⟨name', value', hname', hget'⟩ := htable.named e' he'
    rw [hname, hname'] at hcanonical ⊢
    have hpair := Header.eq_of_canonical_eq hnormal (TextMap.mem_toList_iff.mpr hget)
      (TextMap.mem_toList_iff.mpr hget') (Option.some_inj.mp hcanonical)
    exact congrArg (fun p => some p.1) hpair
  refine ⟨fun e he => ?_, hforms, fun hnodup => ⟨fun e he => ?_, ?_⟩⟩
  · obtain ⟨name, value, hname, hget⟩ := htable.named e he
    exact ⟨name, value, hname, Header.get?_of_normalize hnormal hget, htable.given name value hget⟩
  · obtain ⟨name, value, hname, hvalue, hget⟩ := htable.get?_of_nodup hnodup he
    exact ⟨name, value, hname, hvalue, Header.get?_of_normalize hnormal hget⟩
  · rw [List.Nodup, List.pairwise_map] at hnodup ⊢
    refine hnodup.imp_of_mem fun {e e'} he he' hne hcanonical => ?_
    exact hne (hforms e he e' he' hcanonical)

section
attribute [local instance] TextMap.Walk.ascending

/-- A number and a text are two names of headers, and both are kept. -/
theorem get?_headers_of_decode_priority :
    ∃ b : Block .email, decode .email (.map [(.text "to", .text "ops@example.com"),
      (.text "headers", .map [(.int 1, .bool true), (.tagged "t" (.text "x-team"), .text "db")])]) = .ok b ∧
      b.headers.get? (Header.canonical "x-team") = some "db" := by
  let given : Entries := [(.int 1, .bool true), (.tagged "t" (.text "x-team"), .text "db")]
  obtain ⟨b, hb⟩ : ∃ b, decode .email (.map [(.text "to", .text "ops@example.com"),
      (.text "headers", .map given)]) = .ok b := ⟨_, rfl⟩
  obtain ⟨-, -, hkept⟩ := @get?_headers_of_decode _ _ given (.text "headers") b rfl hb
  obtain ⟨name, value, hname, hvalue, hget⟩ :=
    (hkept (by decide +kernel)).1 _ (List.mem_cons_of_mem _ List.mem_cons_self)
  cases hname
  cases hvalue
  exact ⟨b, hb, hget⟩

/-- Of two headers whose keys have one text, the first is lost. -/
theorem exists_headers_lost :
    let given : Entries := [(.int 1, .text "first"), (.text "1", .text "second")]
    ∃ b : Block .email, decode .email (.map [(.text "to", .text "ops@example.com"),
      (.text "headers", .map given)]) = .ok b ∧
      ∃ e ∈ given, ∃ name value, e.1.wording? = some name ∧ e.2.wording? = some value ∧
        b.headers.get? (Header.canonical name) ≠ some value := by
  intro given
  refine ⟨_, rfl, (.int 1, .text "first"), List.mem_cons_self, "1", "first", rfl, rfl, ?_⟩
  decide +kernel

end

end Block
end AlertReceivers
