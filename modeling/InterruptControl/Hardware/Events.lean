import InterruptControl.Hardware.SystemRegisters

/-!
What happens to the hardware from outside, and what can be seen of it from there:
interrupt lines, the choice of the core that acts, and bits that never change again.
-/

namespace InterruptControl.Hardware.State

/-- The accesses that follow are those of core `cpu`. -/
def setCurrent (s : State) (cpu : Nat) : Except Failure State :=
  if cpu < s.cores.size then .ok { s with current := cpu } else .error (.fault (.noSuchCpu cpu))

/-- Changes a core that has to exist. -/
def changeCore (s : State) (cpu : Nat) (f : Core → Core) : Except Failure State :=
  if cpu < s.cores.size then .ok (s.modifyCore cpu f) else .error .noSuchCore

/-- A core that has to exist. -/
def core (s : State) (cpu : Nat) : Except Failure Core :=
  match s.cores[cpu]? with
  | some c => .ok c
  | none => .error .noSuchCore

def setAffinity (s : State) (cpu : Nat) (v : BitVec 64) : Except Failure State :=
  s.changeCore cpu fun c => { c with affinityRegister := v }

/-- A line goes up; a private number means that of core `cpu`. -/
def raise (s : State) (id cpu : Nat) : Except Failure State :=
  match s.irq? id cpu with
  | some _ => .ok (s.modifyIrq id cpu fun q => { q with pending := true })
  | none => .error (.fault (.raiseUnimplemented id))

/-- An LPI arrives at a core. It is always in group 1 and enabled. -/
def raiseLpi (s : State) (id : Nat) (p : Priority) (cpu : Nat) : Except Failure State :=
  if s.options.lpis && decide (8192 ≤ id) && decide (cpu < s.cores.size) then
    .ok (s.modifyCore cpu fun c =>
      { c with
        lpis := insertEntry id
          (fun q => { q with group1 := true, enabled := true, pending := true, priority := p })
          c.lpis })
  else .error (.fault (.raiseUnimplementedLpi id))

/-- An interrupt that has to be implemented. -/
def query (s : State) (id cpu : Nat) : Except Failure Irq :=
  match s.irq? id cpu with
  | some q => .ok q
  | none => .error (.fault (.queryUnimplemented id))

/-- Whether writes to the distributor never complete. -/
def stickDistributor (s : State) (stuck : Bool) : State := { s with writeStuck := stuck }

/-- Whether writes to the redistributor of a core never complete. -/
def stickRedistributor (s : State) (cpu : Nat) (stuck : Bool) : Except Failure State :=
  s.changeCore cpu fun c => { c with writeStuck := stuck }

/-- Whether a core never wakes up. -/
def stickWaker (s : State) (cpu : Nat) (stuck : Bool) : Except Failure State :=
  s.changeCore cpu fun c => { c with wakerStuck := stuck }

/-- What core `cpu` would read, but nothing is acknowledged by it. -/
def peekSystem (s : State) (cpu : Nat) (r : SystemRegister) : Except Failure (BitVec 64) :=
  (s.core cpu).map fun c => s.systemWord cpu c r

end InterruptControl.Hardware.State
