/-
# Which records are logged

The environment may give rules for what is logged, with commas between them. A rule
about a part of the program is one for all parts whose names start with its name. Of
the rules for a record the one with the longest part counts, then the one with the
most fields. The program adds a rule of its own, `info` for all parts, in place of one
that the environment gives for them.

Key definitions: `Filter`, `Filter.ofText`, `Filter.refused`, `Filter.rule?`,
`Filter.allows`.
-/
import AlertReceivers.CommandLine.Directive

namespace AlertReceivers

namespace Directive

/-- Whether two rules are about the same records. -/
def rivals (d e : Directive) : Bool := d.target == e.target && d.fields == e.fields

/-- How long the name of the part is, one more than its octets, or zero without a part. -/
def reach (d : Directive) : Nat :=
  match d.target with
  | some t => t.utf8ByteSize + 1
  | none => 0

/-- Whether a rule counts before another. -/
def before (d e : Directive) : Bool :=
  if d.reach ≠ e.reach then decide (e.reach < d.reach)
  else if d.fields.length ≠ e.fields.length then decide (e.fields.length < d.fields.length)
  else decide (e.fields < d.fields)

/-- Whether a rule is about a record. -/
def appliesTo (d : Directive) (r : Record) : Bool :=
  (match d.target with
    | some t => r.target.startsWith t
    | none => true) &&
  d.fields.all ("message" :: r.values.map Prod.fst).contains

end Directive

/-- The rules for what is logged. -/
abbrev Filter := List Directive

namespace Filter

/-- Adds a rule, in place of one about the same records. -/
def insert (f : Filter) (d : Directive) : Filter := d :: f.filter fun e => !d.rivals e

/-- The rule that the program adds. -/
def own : Directive := ⟨none, [], false, Level.info.rank⟩

/-- The texts between commas that are not empty. -/
def words (s : String) : List String := (s.splitOn ",").filter (· != "")

/-- The rules in a text and the program's own. -/
def ofText (s : String) : Filter :=
  let given := (words s).filterMap fun word => (Directive.read word).toOption
  insert ((given.filter fun d => !d.inSpan).foldl insert []) own

/-- What is said of the texts that are no rules. -/
def refused (s : String) : List String :=
  (words s).filterMap fun word =>
    match Directive.read word with
    | .ok _ => none
    | .error e => some ("ignoring `" ++ word ++ "`: " ++ e.message)

/-- The rule that counts for a record. -/
def rule? (f : Filter) (r : Record) : Option Directive :=
  (f.filter (·.appliesTo r)).foldl (fun best d =>
    match best with
    | some b => if d.before b then some d else some b
    | none => some d) none

/-- Whether a record is logged. -/
def allows (f : Filter) (r : Record) : Bool := (f.rule? r).any fun d => r.level.rank ≤ d.rank

end Filter
end AlertReceivers
