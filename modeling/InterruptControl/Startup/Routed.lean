import InterruptControl.CpuInterface.System
import InterruptControl.Distributor.Routed
import InterruptControl.Redistributor

/-!
Bringing up a GICv3 or v4: the distributor once, then the redistributor and the CPU
interface of every core. A register write that never completes is fatal, so nothing is
built on it.
-/

namespace InterruptControl.Routed

open Program

structure Driver where
  distributor : Distributor
  /-- Where the redistributors begin. -/
  region : Nat
  stride : Nat := Routed.stride
  started : Bool := false
deriving DecidableEq, Repr

namespace Driver

/-- A stride of zero stands for that of a GICv3. -/
def ofBases (distributor region stride : Nat) : Driver where
  distributor := { base := distributor }
  region := region
  stride := if stride = 0 then Routed.stride else stride

/-- Fails for an affinity that no redistributor reports. -/
def redistributor (g : Driver) (a : Affinity) : Program Redistributor := do
  let found ← Redistributor.find g.region g.stride a
  match found with
  | .ok r => pure r
  | .error _ => fail (.noRedistributor a)

/-- The redistributor of the calling core. -/
def currentRedistributor (g : Driver) : Program Redistributor := do
  let a ← Affinity.current
  g.redistributor a

/-- Finds out about security and keeps what it found. -/
def detectSecurity (g : Driver) : Program Driver := do
  let security ← g.distributor.detectSecurity
  pure { g with distributor.security := security }

/-- Waits for writes to the distributor, which have to get there. -/
def awaitDistributor (d : Distributor) : Program Unit := do
  let r ← d.settle
  insist r

/-- Every shared interrupt ends up disabled, neither pending nor active, in the non-secure
group 1, level triggered, with the default priority; then group 1 and routing are enabled. -/
def startDistributor (d : Distributor) : Program Unit := do
  let lines ← d.lines
  notify (.routedStarting d.security.name lines)
  d.disableGroups
  barrier
  awaitDistributor d
  notify .groupsDisabled
  let bound := BitVec.ofNat 32 lines
  d.clearAll .enabled bound
  d.clearAll .pending bound
  d.clearAll .active bound
  d.setGroup1All bound
  d.clearModifierAll bound
  d.setPriorityAll bound Priority.default
  d.setLevelAll bound
  d.resetExtended Priority.default
  notify .spisReset
  d.enableGroups
  barrier
  awaitDistributor d

/-- Refused the second time. -/
def start (g : Driver) : Program (Except Refusal Driver) :=
  if g.started then pure (.error .routedRepeated)
  else do
    let g ← g.detectSecurity
    startDistributor g.distributor
    notify .routedReady
    pure (.ok { g with started := true })

/-- The redistributor of the calling core, awake and with its interrupts reset. -/
def startRedistributor (r : Redistributor) : Program Unit := do
  let woken ← r.wake
  insist woken
  notify (.awake r.address)
  r.resetPrivate Priority.default
  let settled ← r.settle
  insist settled

def startInterface (twoStep : Bool) : Program Unit := do
  CpuInterface.enableRegisters
  CpuInterface.setPriorityMask Priority.allowAll
  CpuInterface.setGroup1 true
  CpuInterface.setTwoStep twoStep

/-- The calling core; refused before the distributor was started. -/
def startCore (g : Driver) (twoStep : Bool) : Program (Except Refusal Unit) :=
  if g.started then do
    let r ← g.currentRedistributor
    startRedistributor r
    startInterface twoStep
    notify (.routedCore twoStep)
    pure (.ok ())
  else pure (.error .routedNotReady)

end Driver

end InterruptControl.Routed
