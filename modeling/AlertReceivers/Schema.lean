/-
# The fields of every kind

Key definitions: `defaultSubject`, `Kind.fields`, `Kind.hasField`, `Block`,
`Block.defaults`, `Block.zero`.
-/
import AlertReceivers.Field
import AlertReceivers.Kind

namespace AlertReceivers

/-- An action of a template, between double braces. -/
def action (s : String) : String := "\x7b\x7b" ++ s ++ "\x7d\x7d"

/-- The subject of a mail that gives none. -/
def defaultSubject : String := action " template \"email.default.subject\" . "

/-- The details of an incident that gives none. -/
def incidentDetails : TextMap := .ofList [
  ("firing", action " template \"pagerduty.default.instances\" (.Alerts | firing) "),
  ("resolved", action " template \"pagerduty.default.instances\" (.Alerts | resolved) "),
  ("num_firing", action " .Alerts | firing | len "),
  ("num_resolved", action " .Alerts | resolved | len ")]

/-- The fields of a kind, in the order in which documents hold them. -/
def Kind.fields : Kind → List Field
  | email => [
    .needed "to" .text,
    .optional "from" .text,
    .optional "smarthost" .text,
    .optional "headers" .table,
    .preset "html" .text (action " template \"email.default.html\" . ")]
  | pagerduty => [
    .needed "service_key" .secret,
    .optional "url" .text,
    .preset "client" .text (action " template \"pagerduty.default.client\" . "),
    .preset "client_url" .text (action " template \"pagerduty.default.clientURL\" . "),
    .preset "description" .text (action " template \"pagerduty.default.description\" ."),
    .preset "details" .table incidentDetails]
  | hipchat => [
    .needed "auth_token" .secret,
    .optional "room_id" .integer,
    .preset "color" .text
      (action " if eq .Status \"firing\" " ++ "purple" ++ action " else " ++ "green" ++ action " end "),
    .optional "notify" .boolean,
    .optional "prefix" .text,
    .optional "message_format" .format]
  | slack => [
    .optional "url" .text,
    .needed "channel" .text,
    .preset "username" .text (action " template \"slack.default.username\" . "),
    .preset "color" .text
      (action " if eq .Status \"firing\" " ++ "danger" ++ action " else " ++ "good" ++ action " end "),
    .preset "title" .text (action " template \"slack.default.title\" . "),
    .preset "title_link" .text (action " template \"slack.default.titlelink\" . "),
    .preset "pretext" .text (action " template \"slack.default.pretext\" . "),
    .preset "text" .text (action " template \"slack.default.text\" . "),
    .preset "fallback" .text (action " template \"slack.default.fallback\" . ")]
  | webhook => [
    .needed "url" .text]
  | opsgenie => [
    .needed "api_key" .secret,
    .optional "api_host" .text,
    .preset "description" .text (action " template \"opsgenie.default.description\" . "),
    .preset "source" .text (action " template \"opsgenie.default.source\" . "),
    .optional "details" .table]
  | pushover => [
    .needed "token" .secret,
    .needed "user_key" .secret]
  | flowdock => [
    .needed "api_token" .secret,
    .needed "from_address" .text,
    .optional "tags" .tags]

/-- Whether a kind has a field of a name. -/
def Kind.hasField (k : Kind) (name : String) : Bool := k.fields.any fun f => f.name == name

/-- The names of the fields of a kind. -/
def Kind.fieldNames (k : Kind) : List String := k.fields.map Field.name

theorem Kind.fieldNames_nodup (k : Kind) : k.fieldNames.Nodup := by cases k <;> decide

/-- A block of a kind: a value for each of its fields. -/
abbrev Block (k : Kind) := Values k.fields

namespace Block

/-- The block that a receiver starts from. -/
def defaults (k : Kind) : Block k := Values.defaults k.fields

/-- The block that nothing is known of. -/
def zero (k : Kind) : Block k := Values.zero k.fields

/-- A block as a document holds it. -/
def toNode {k : Kind} (b : Block k) : Node := .map b.toEntries

/-- A block spelled out. -/
def shown [TextMap.Walk] {k : Kind} (b : Block k) : String :=
  k.shown ++ "Config \x7b " ++ ", ".intercalate (Values.shown b) ++ " \x7d"

end Block
end AlertReceivers
