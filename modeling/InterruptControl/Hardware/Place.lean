import InterruptControl.Hardware.State

/-!
Where the state of an interrupt is kept. A number means the same shared interrupt for every
core, but a private one of each core.
-/

namespace InterruptControl.Hardware

inductive Place where
  | shared (i : Nat)
  | own (cpu i : Nat)
  | lpi (cpu id : Nat)
deriving DecidableEq, Repr

/-- The number of the `i`-th private interrupt. -/
def privateNumber (i : Nat) : Nat := if i < 32 then i else i + 1024

/-- `f` at the entry with key `k`. -/
def modifyEntry (k : Nat) (f : Irq → Irq) : List (Nat × Irq) → List (Nat × Irq)
  | [] => []
  | (n, q) :: rest => if n = k then (n, f q) :: rest else (n, q) :: modifyEntry k f rest

/-- `f` at the entry with key `k`, which is put in order if it is new. -/
def insertEntry (k : Nat) (f : Irq → Irq) : List (Nat × Irq) → List (Nat × Irq)
  | [] => [(k, f {})]
  | (n, q) :: rest =>
    if n = k then (n, f q) :: rest
    else if k < n then (k, f {}) :: (n, q) :: rest
    else (n, q) :: insertEntry k f rest

namespace State

/-- The place of interrupt `id` as core `cpu` sees it, if it is implemented. -/
def place? (s : State) (id cpu : Nat) : Option Place :=
  match s.cores[cpu]? with
  | none => none
  | some c =>
    if 8192 ≤ id then if (c.lpis.lookup id).isSome then some (.lpi cpu id) else none
    else if id < 32 then some (.own cpu id)
    else if s.isRouted && decide (1056 ≤ id) && decide (id < 1024 + s.options.privateCount) then
      some (.own cpu (id - 1024))
    else if id < s.options.sharedLimit then some (.shared id)
    else if 4096 ≤ id ∧ id < 4096 + s.options.extendedCount then some (.shared (id - 3072))
    else none

/-- What is kept at a place. -/
def at? (s : State) : Place → Option Irq
  | .shared i => s.shared[i]?
  | .own cpu i => s.cores[cpu]?.bind fun c => c.own[i]?
  | .lpi cpu id => s.cores[cpu]?.bind fun c => c.lpis.lookup id

/-- Changes what is kept at a place, if anything is. -/
def modify (s : State) (p : Place) (f : Irq → Irq) : State :=
  match p with
  | .shared i =>
    if h : i < 2048 then { s with shared := s.shared.set i (f s.shared[i]) h } else s
  | .own cpu i =>
    s.modifyCore cpu fun c => if h : i < 96 then { c with own := c.own.set i (f c.own[i]) h } else c
  | .lpi cpu id => s.modifyCore cpu fun c => { c with lpis := modifyEntry id f c.lpis }

/-- The interrupt as core `cpu` sees it. -/
def irq? (s : State) (id cpu : Nat) : Option Irq := (s.place? id cpu).bind s.at?

/-- Changes an interrupt as core `cpu` sees it, if it is implemented. -/
def modifyIrq (s : State) (id cpu : Nat) (f : Irq → Irq) : State :=
  match s.place? id cpu with
  | some p => s.modify p f
  | none => s

end State

end InterruptControl.Hardware
