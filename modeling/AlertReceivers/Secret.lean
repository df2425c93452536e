/-
# Credentials

A credential is held apart from other texts, so that a value that is spelled out
for a log shows `[REDACTED]` in its place, whatever the credential is
(`Secret.shown_eq`). Only a document that is written holds the credential itself.

Key definitions: `Secret`, `Secret.shown`.
-/

namespace AlertReceivers

/-- A credential of a receiver. -/
structure Secret where
  /-- The credential itself. -/
  expose : String
deriving DecidableEq

namespace Secret

/-- No credential. -/
def empty : Secret := ⟨""⟩

/-- Whether no credential was given. -/
def isEmpty (s : Secret) : Bool := s.expose = ""

/-- What a log shows of a credential. -/
def shown (_ : Secret) : String := "[REDACTED]"

theorem shown_eq (s t : Secret) : s.shown = t.shown := rfl

end Secret
end AlertReceivers
