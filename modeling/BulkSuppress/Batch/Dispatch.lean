import BulkSuppress.Batch.Run

/-
  The dispatch loop with the semaphore that it asks for permits. A semaphore may be closed: it
  then refuses every permit, and the loop puts the file among the failures and goes on without a
  pipeline for it. An open semaphore lets a batch take its moves as they are.
-/

namespace BulkSuppress.Batch

/-- A batch and the semaphore that its permits come from. -/
structure Loop where
  batch : State
  /-- The semaphore was closed, and hands out no permits any more. -/
  closed : Bool := false
  /-- The files that were refused a permit, in order. -/
  refused : List Path := []

namespace Loop

/-- The loop over the files before its first move, with a semaphore of its own. -/
def start (u : Setup) (d : Disk) (files : List Path) : Loop :=
  { batch := Batch.start u d files }

/-- The next file is refused a permit. -/
def refuse (l : Loop) : Option Loop :=
  match l.batch.held, l.batch.waiting with
  | false, p :: rest =>
    some { l with batch := { l.batch with waiting := rest }, refused := l.refused ++ [p] }
  | _, _ => none

/-- The state of the loop after a move, if the move is enabled. -/
def apply (u : Setup) (l : Loop) (m : Move) : Option Loop :=
  if l.closed && m == .acquire then l.refuse
  else (Batch.apply u l.batch m).map fun s => { l with batch := s }

/-- The failure of a file that was refused a permit. -/
def refusal (p : Path) : FileFailure :=
  ⟨p, .pipeline p.text (.other "semaphore closed")⟩

/-- The report of a loop that is done: the refused files, then the endings that were found. -/
def report (l : Loop) : BatchReport :=
  let r := collect 1 l.batch.joined
  { r with failures := l.refused.map refusal ++ r.failures }.sort

end Loop
end BulkSuppress.Batch
