import InterruptControl.Program

/-!
Values that reads are to see instead of what is there. Each register has a queue of its own,
and every read takes one value until the queue is empty.
-/

namespace InterruptControl.Bus

inductive FeedTarget where
  | address (a : Nat)
  | register (r : SystemRegister)
deriving DecidableEq, Repr

/-- Queues of values, each with how many times it is still to be seen. -/
structure Feeds where
  queues : List (FeedTarget × List (BitVec 64 × Nat)) := []
deriving DecidableEq, Repr

namespace Feeds

/-- Values seen no times are left out. -/
def add (f : Feeds) (t : FeedTarget) (values : List (BitVec 64 × Nat)) : Feeds :=
  let old := (f.queues.lookup t).getD []
  let new := old ++ values.filter fun v => v.2 ≠ 0
  ⟨(t, new) :: f.queues.filter fun q => q.1 ≠ t⟩

/-- The value that a read of `t` sees, and the queues after it. -/
def next? (f : Feeds) (t : FeedTarget) : Option (BitVec 64 × Feeds) :=
  match f.queues.lookup t with
  | some ((v, n) :: rest) =>
    let new := if n ≤ 1 then rest else (v, n - 1) :: rest
    some (v, ⟨(t, new) :: f.queues.filter fun q => q.1 ≠ t⟩)
  | _ => none

end Feeds

end InterruptControl.Bus
