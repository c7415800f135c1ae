/-
# `Rule.Channel` — a channel for one value

Whoever waits for a validation to end holds the receiving end of a channel and hands the sending end
to the validation.  The sending end is used once at most.  When it is gone the receiver has the value
that was sent, or nothing if it was never used.
-/
namespace FieldRules

/-- A channel for one value: what was sent through it so far. -/
structure Channel (α : Type) where
  sent : Option α := none

namespace Channel

variable {α : Type} {m : Type → Type} [Monad m]

/-- Sends a value; a channel that has one keeps it. -/
def send (value : α) : StateT (Channel α) m Unit := modify fun c => ⟨c.sent.or (some value)⟩

/-- Runs what has the sending end of a new channel, and receives. -/
def receive (sender : StateT (Channel α) m Unit) : m (Option α) := return (← sender.run {}).2.sent

end Channel

end FieldRules
