import InterruptControl.CpuInterface.Mapped
import InterruptControl.Distributor.Banked

/-!
Bringing up a GICv2: the distributor once, then the banked state and the CPU interface of
every core.
-/

namespace InterruptControl.Banked

open Program

structure Driver where
  distributor : Distributor
  cpu : CpuInterface
  /-- How many interrupts the lines make, known once started. -/
  lines : Nat := 0
  started : Bool := false
deriving DecidableEq, Repr

namespace Driver

def ofBases (distributor cpu : Nat) : Driver := ⟨⟨distributor⟩, ⟨cpu⟩, 0, false⟩

/-- Every interrupt ends up disabled, neither pending nor active, in group 1 with the
default priority; the shared ones are level triggered and go to core 0. -/
def startDistributor (d : Distributor) : Program Nat := do
  d.disable
  let lines ← d.lines
  let cpus ← d.cpuCount
  notify (.bankedStarting lines cpus)
  let bound := BitVec.ofNat 32 lines
  d.clearAll .enabled bound
  d.clearAll .pending bound
  d.clearAll .active bound
  notify .bankedCleared
  d.setGroup1All bound
  d.setPriorityAll bound Priority.default
  d.setTargetsAll bound ⟨1⟩
  d.setLevelAll bound
  notify .bankedDefaults
  d.enable
  notify .bankedReady
  pure lines

/-- Refused the second time. -/
def start (g : Driver) : Program (Except Refusal Driver) :=
  if g.started then pure (.error .bankedRepeated)
  else do
    let lines ← startDistributor g.distributor
    pure (.ok { g with lines := lines, started := true })

/-- The calling core; refused before the distributor was started. -/
def startCore (g : Driver) (twoStep : Bool) : Program (Except Refusal Unit) :=
  if g.started then do
    g.distributor.resetPrivate
    g.cpu.start
    g.cpu.setTwoStep twoStep
    notify (.bankedCore twoStep)
    pure (.ok ())
  else pure (.error .bankedNotReady)

end Driver

end InterruptControl.Banked
