/-
# Kinds of integrations

A receiver is notified by mail, in a chat room, through an incident or push
service, or by a request to a URL. A receiver lists the blocks of one kind under
the kind's block key.

Key definitions: `Kind`, `Kind.all`, `Kind.name`, `Kind.blockKey`, `Kind.ofBlockKey?`.
Key theorems: `Kind.ofBlockKey?_eq_some_iff`.
-/

namespace AlertReceivers

/-- The kinds of integrations. -/
inductive Kind where
  | email
  | pagerduty
  | hipchat
  | slack
  | webhook
  | opsgenie
  | pushover
  | flowdock
deriving DecidableEq, Repr

namespace Kind

/-- All kinds, in the order in which receivers list them. -/
def all : List Kind := [email, pagerduty, hipchat, slack, webhook, opsgenie, pushover, flowdock]

/-- The name of a kind. -/
def name : Kind → String
  | email => "email"
  | pagerduty => "pagerduty"
  | hipchat => "hipchat"
  | slack => "slack"
  | webhook => "webhook"
  | opsgenie => "opsgenie"
  | pushover => "pushover"
  | flowdock => "flowdock"

/-- The name of a kind where values are spelled out. -/
def shown : Kind → String
  | email => "Email"
  | pagerduty => "Pagerduty"
  | hipchat => "Hipchat"
  | slack => "Slack"
  | webhook => "Webhook"
  | opsgenie => "OpsGenie"
  | pushover => "Pushover"
  | flowdock => "Flowdock"

/-- The key under which a receiver lists the blocks of a kind. -/
def blockKey : Kind → String
  | email => "email_configs"
  | pagerduty => "pagerduty_configs"
  | hipchat => "hipchat_configs"
  | slack => "slack_configs"
  | webhook => "webhook_configs"
  | opsgenie => "opsgenie_configs"
  | pushover => "pushover_configs"
  | flowdock => "flowdock_configs"

/-- The kind with a block key. -/
def ofBlockKey? (key : String) : Option Kind := all.find? fun k => k.blockKey == key

/-- The kind with a name. -/
def ofName? (name : String) : Option Kind := all.find? fun k => k.name == name

theorem mem_all (k : Kind) : k ∈ all := by cases k <;> decide

/-- A key is the block key of the kind that it stands for, and of no other. -/
theorem ofBlockKey?_eq_some_iff {key : String} {k : Kind} :
    ofBlockKey? key = some k ↔ k.blockKey = key := by
  constructor
  · intro h
    simpa using List.find?_some h
  · rintro rfl
    cases k <;> decide

end Kind
end AlertReceivers
