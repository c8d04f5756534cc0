/-
  Log events. Everything the tool does can leave events behind; which of them are shown is
  decided by a threshold, at the end.
-/

namespace BulkSuppress

/-- How much an event matters, least first. -/
inductive Level where
  | trace | debug | info | warn
deriving DecidableEq, Repr

/-- The levels as numbers, more for what matters more. -/
def Level.weight : Level → Nat
  | .trace => 0
  | .debug => 1
  | .info => 2
  | .warn => 3

/-- The level as it stands in front of a shown event. -/
def Level.label : Level → String
  | .trace => "TRACE"
  | .debug => "DEBUG"
  | .info => "INFO"
  | .warn => "WARN"

/-- One thing that was reported while the tool ran. -/
structure Event where
  level : Level
  message : String
deriving DecidableEq, Repr

namespace Event

def trace (message : String) : Event := ⟨.trace, message⟩
def debug (message : String) : Event := ⟨.debug, message⟩
def info (message : String) : Event := ⟨.info, message⟩
def warn (message : String) : Event := ⟨.warn, message⟩

/-- The event as one line. -/
def line (e : Event) : String :=
  e.level.label ++ " " ++ e.message

/-- The lines of the events that matter at least as much as `threshold`, in order. -/
def shown (threshold : Level) (events : List Event) : List String :=
  (events.filter fun e => threshold.weight ≤ e.level.weight).map line

end Event

/-- A value and the events that were reported on the way to it. -/
@[ext] structure Logged (α : Type) where
  value : α
  events : List Event := []
deriving DecidableEq, Repr

namespace Logged

/-- Go on with the value; the events of both parts follow each other. -/
def andThen {α β : Type} (x : Logged α) (f : α → Logged β) : Logged β :=
  let y := f x.value
  ⟨y.value, x.events ++ y.events⟩

instance : Monad Logged where
  pure a := ⟨a, []⟩
  bind := andThen

/-- Report one event. -/
def report (e : Event) : Logged Unit := ⟨(), [e]⟩

@[simp] theorem value_pure {α : Type} (a : α) : (pure a : Logged α).value = a := rfl

@[simp] theorem events_pure {α : Type} (a : α) : (pure a : Logged α).events = [] := rfl

@[simp] theorem value_bind {α β : Type} (x : Logged α) (f : α → Logged β) :
    (x >>= f).value = (f x.value).value := rfl

@[simp] theorem events_bind {α β : Type} (x : Logged α) (f : α → Logged β) :
    (x >>= f).events = x.events ++ (f x.value).events := rfl

end Logged
end BulkSuppress
