import CellWidth.Summary

/-!
# Runs

A `Run` is a result together with what was logged on the way to it, also when the result is a
fault. Events are data; their wording is `Event.message`.

Runs form a monad: the first fault ends a run, and what had been logged before stays.
-/

namespace CellWidth

/-- How much a log line matters. -/
inductive Level where
  | debug
  | info
deriving DecidableEq, Repr

/-- Something worth a log line. -/
inductive Event where
  /-- A file was read to its end and gave this many ranges of a width. -/
  | surveyed (file : String) (count : Nat) (width : Width)
  /-- A table was made. -/
  | tabled (summary : Summary)
  /-- A file was written. -/
  | written (path : String) (bytes : Nat)
deriving DecidableEq, Repr

namespace Event

/-- How much an event matters. -/
def level : Event → Level
  | surveyed .. => .debug
  | tabled _ => .info
  | written .. => .info

/-- The wording of an event. -/
def message : Event → String
  | surveyed file count width =>
    file ++ ": " ++ toString count ++ " raw ranges of " ++ width.name
  | tabled summary => summary.display
  | written path bytes => path ++ ": " ++ toString bytes ++ " bytes written"

end Event

/-- A result and the events on the way to it, oldest first. -/
structure Run (α : Type) where
  log : List Event
  result : Except Fault α

namespace Run

variable {α β : Type}

/-- A result reached without an event. -/
def ofExcept (result : Except Fault α) : Run α :=
  ⟨[], result⟩

/-- A run that logs some events and has nothing else to say. -/
def note (events : List Event) : Run Unit :=
  ⟨events, .ok ()⟩

/-- One run after another; a fault ends the whole. -/
def bind (run : Run α) (next : α → Run β) : Run β :=
  match run.result with
  | .error fault => ⟨run.log, .error fault⟩
  | .ok a => ⟨run.log ++ (next a).log, (next a).result⟩

instance : Monad Run where
  pure a := ⟨[], .ok a⟩
  bind := bind

@[simp] theorem log_pure (a : α) : (pure a : Run α).log = [] := rfl

@[simp] theorem result_pure (a : α) : (pure a : Run α).result = .ok a := rfl

theorem bind_of_ok {run : Run α} {a : α} (h : run.result = .ok a) (next : α → Run β) :
    run >>= next = ⟨run.log ++ (next a).log, (next a).result⟩ := by
  show bind run next = _
  simp [bind, h]

theorem bind_of_error {run : Run α} {fault : Fault} (h : run.result = .error fault)
    (next : α → Run β) : run >>= next = ⟨run.log, .error fault⟩ := by
  show bind run next = _
  simp [bind, h]

end Run

end CellWidth
