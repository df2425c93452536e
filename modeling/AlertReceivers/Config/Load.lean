/-
# Loading

To load is to come to a result or to an error, and to report events on the way. The
events up to an error stay reported. The result does not depend on what is
reported: each operation has an equation for its outcome alone.

Key definitions: `Event`, `Load`, `Load.report`, `Load.fail`.
Key theorems: `Load.outcome_bind`, `Load.events_bind`.
-/
import AlertReceivers.Config.Error

namespace AlertReceivers

/-- What happens while a configuration is loaded. -/
inductive Event where
  /-- A block of a receiver is decoded. -/
  | decoded (receiver : String) (kind : Kind) (index : Nat)
  /-- A section of other components is left aside. -/
  | skipped (key : String)
  /-- All receivers are decoded. -/
  | loaded (receivers blocks : Nat)
deriving DecidableEq

/-- The events of a load and what it comes to. -/
structure Load (α : Type) where
  events : List Event
  outcome : Except ConfigError α

namespace Load

/-- Comes to a result without an event. -/
def done {α : Type} (a : α) : Load α := ⟨[], .ok a⟩

/-- Goes on with a result. -/
def andThen {α β : Type} (x : Load α) (f : α → Load β) : Load β :=
  match x.outcome with
  | .ok a => ⟨x.events ++ (f a).events, (f a).outcome⟩
  | .error e => ⟨x.events, .error e⟩

instance : Monad Load where
  pure := done
  bind := andThen

/-- Reports an event. -/
def report (e : Event) : Load Unit := ⟨[e], .ok ()⟩

/-- Ends with an error. -/
def fail {α : Type} (e : ConfigError) : Load α := ⟨[], .error e⟩

@[simp] theorem outcome_pure {α : Type} (a : α) : (pure a : Load α).outcome = .ok a := rfl

@[simp] theorem outcome_report (e : Event) : (report e).outcome = .ok () := rfl

@[simp] theorem outcome_fail {α : Type} (e : ConfigError) : (fail e : Load α).outcome = .error e := rfl

/-- The outcome of a sequence is a matter of the outcomes of its parts. -/
@[simp] theorem outcome_bind {α β : Type} (x : Load α) (f : α → Load β) :
    (x >>= f).outcome = x.outcome >>= fun a => (f a).outcome := by
  change (x.andThen f).outcome = _
  unfold andThen
  cases x.outcome <;> rfl

/-- The events of a sequence are those of its parts, up to the first error. -/
theorem events_bind {α β : Type} (x : Load α) (f : α → Load β) :
    (x >>= f).events = x.events ++
      match x.outcome with
      | .ok a => (f a).events
      | .error _ => [] := by
  change (x.andThen f).events = _
  unfold andThen
  cases x.outcome <;> simp

end Load
end AlertReceivers
