import InterruptControl.Gic.Handlers
import InterruptControl.Startup.Banked
import InterruptControl.Startup.Routed

/-!
One front end for GICv2, v3 and v4: which version is there, and the operations that both
families offer.

A front end whose version is unknown drives nothing: its operations fail before they reach
any register.
-/

namespace InterruptControl

open Program

/-- The versions of the architecture; `unknown` asks for detection. -/
inductive Version where
  | unknown
  | v1
  | v2
  | v3
  | v4
deriving DecidableEq, Repr

def Version.name : Version → String
  | unknown => "auto"
  | v1 => "GICv1"
  | v2 => "GICv2"
  | v3 => "GICv3"
  | v4 => "GICv4"

/-- The controller behind the front end. -/
inductive Engine where
  | none
  | banked (g : Banked.Driver)
  | routed (g : Routed.Driver)
deriving DecidableEq, Repr

structure Gic (H : Type) where
  version : Version
  engine : Engine
  /-- Completion takes a deactivation of its own. -/
  twoStep : Bool
  handlers : Handlers H

namespace Gic

variable {H : Type}

/-! ### Construction -/

/-- Version 1 and 2 keep their revision where later versions have other registers. -/
def detect (distributor : Nat) : Program Version := do
  let banked ← (Banked.Distributor.mk distributor).architecture
  match banked with
  | 1 => pure .v1
  | 2 => pure .v2
  | _ => do
    let routed ← (Routed.Distributor.mk distributor .nonSecure).architecture
    match routed with
    | 3 => pure .v3
    | 4 => pure .v4
    | _ => do
      notify (.undetected distributor)
      pure .unknown

/-- `interface` is the CPU interface of a banked controller and the first redistributor of a
routed one. -/
def engineOf (version : Version) (distributor interface : Nat) : Engine :=
  match version with
  | .unknown => .none
  | .v1 | .v2 => .banked (.ofBases distributor interface)
  | .v3 => .routed (.ofBases distributor interface Routed.stride)
  | .v4 => .routed (.ofBases distributor interface Routed.virtualStride)

/-- An unknown version is looked up in the hardware. -/
def construct (distributor interface : Nat) (version : Version) (twoStep : Bool) :
    Program (Gic H) := do
  let version ← if version = .unknown then detect distributor else pure version
  pure ⟨version, engineOf version distributor interface, twoStep, .empty⟩

/-! ### The controller behind -/

def banked (g : Gic H) : Program Banked.Driver :=
  match g.engine with
  | .banked d => pure d
  | _ => fail .assertion

def routed (g : Gic H) : Program Routed.Driver :=
  match g.engine with
  | .routed d => pure d
  | _ => fail .assertion

/-- The code of the designer of the architecture. -/
def designer : Nat := 0x43b

def nameOf (version : Version) (implementer : Nat) : String :=
  if implementer = designer then "Arm-" ++ version.name else version.name

def name (g : Gic H) : Program String :=
  match g.engine with
  | .none => pure "GIC"
  | .banked d => do
    let implementer ← d.distributor.implementer
    pure (nameOf g.version implementer)
  | .routed d => do
    let implementer ← d.distributor.implementer
    pure (nameOf g.version implementer)

def isStarted (g : Gic H) : Bool :=
  match g.engine with
  | .none => false
  | .banked d => d.started
  | .routed d => d.started

/-! ### Bring-up -/

def start (g : Gic H) : Program (Except Refusal (Gic H)) := do
  notify (.starting g.version.name g.twoStep)
  match g.engine with
  | .none => pure (.error .unknownVersion)
  | .banked d => do
    let r ← d.start
    pure (r.map fun d => { g with engine := .banked d })
  | .routed d => do
    let r ← d.start
    pure (r.map fun d => { g with engine := .routed d })

def startCore (g : Gic H) : Program (Except Refusal Unit) :=
  match g.engine with
  | .none => pure (.error .unknownVersion)
  | .banked d => d.startCore g.twoStep
  | .routed d => d.startCore g.twoStep

/-! ### One interrupt -/

/-- The block in charge of an interrupt: private ones of a routed controller belong to the
redistributor of the calling core. -/
def block (g : Gic H) (id : IntId) : Program Block :=
  match g.engine with
  | .none => fail .assertion
  | .banked d => pure d.distributor.block
  | .routed d =>
    if id.isPrivate then do
      let r ← d.currentRedistributor
      pure r.block
    else pure d.distributor.block

def setFlag (g : Gic H) (f : Flag) (id : IntId) (value : Bool) : Program Unit := do
  let b ← g.block id
  b.setFlag f id value

def hasFlag (g : Gic H) (f : Flag) (id : IntId) : Program Bool := do
  let b ← g.block id
  b.hasFlag f id

def setPriority (g : Gic H) (id : IntId) (p : Priority) : Program Unit := do
  let b ← g.block id
  b.setPriority id p

def priority (g : Gic H) (id : IntId) : Program Priority := do
  let b ← g.block id
  b.priority id

def setTrigger (g : Gic H) (id : IntId) (t : Trigger) : Program Unit := do
  let b ← g.block id
  b.setTrigger id t

def trigger (g : Gic H) (id : IntId) : Program Trigger := do
  let b ← g.block id
  b.trigger id

/-- The interrupt no longer reaches any core. -/
def maskInterrupt (g : Gic H) (id : IntId) : Program Unit := g.setFlag .enabled id false

def unmaskInterrupt (g : Gic H) (id : IntId) : Program Unit := g.setFlag .enabled id true

/-- On a banked controller only the lowest level counts, and selects the core. -/
def routeTo (g : Gic H) (id : IntId) (a : Affinity) : Program Unit :=
  match g.engine with
  | .none => fail .assertion
  | .banked d => do
    let s ← expect (CpuSet.empty.add? a.aff0.toNat)
    d.distributor.setTargets id s
  | .routed d => d.distributor.setRoute id a

/-- The cores `0` to `n - 1`, as far as they have a bit. -/
def firstCores (n : Nat) : CpuSet := ⟨(BitVec.allOnes n).setWidth 8⟩

def routeToAny (g : Gic H) (id : IntId) : Program Unit :=
  match g.engine with
  | .none => fail .assertion
  | .banked d => do
    let cpus ← d.distributor.cpuCount
    d.distributor.setTargets id (firstCores cpus)
  | .routed d => d.distributor.setRouteAny id

/-- Core 0 of a banked controller, the calling core of a routed one. -/
def routeByDefault (g : Gic H) (id : IntId) : Program Unit :=
  match g.engine with
  | .none => fail .assertion
  | .banked d => d.distributor.setTargets id ⟨1⟩
  | .routed d => do
    let a ← Affinity.current
    d.distributor.setRoute id a

/-- How an interrupt is to be set up. -/
structure Setup where
  id : IntId
  trigger : Trigger
  priority : Priority
  /-- The core that serves a shared interrupt. -/
  target : Option Affinity
deriving DecidableEq, Repr

/-- Sets an interrupt up while it is disabled, and enables it. -/
def configure (g : Gic H) (c : Setup) : Program Unit := do
  g.setFlag .enabled c.id false
  g.setTrigger c.id c.trigger
  g.setPriority c.id c.priority
  if c.id.isPrivate then pure ()
  else match c.target with
    | some a => g.routeTo c.id a
    | none => g.routeByDefault c.id
  notify (.configured c.id.number c.trigger.name c.priority.toNat)
  g.setFlag .enabled c.id true

/-! ### Interrupts between cores -/

def sendToCurrent (g : Gic H) (id : IntId) : Program Unit :=
  match g.engine with
  | .none => fail .assertion
  | .banked d => d.distributor.sendSgi id .current
  | .routed _ => Routed.CpuInterface.sendSgi id .current

def sendToAllOther (g : Gic H) (id : IntId) : Program Unit :=
  match g.engine with
  | .none => fail .assertion
  | .banked d => d.distributor.sendSgi id .allOther
  | .routed _ => Routed.CpuInterface.sendSgi id .allOther

/-- For a banked controller. -/
def sendToSet (g : Gic H) (id : IntId) (s : CpuSet) : Program Unit := do
  let d ← g.banked
  d.distributor.sendSgi id (.listed s)

/-- For a routed controller. -/
def sendToCluster (g : Gic H) (id : IntId) (l : ClusterList) : Program Unit := do
  let _ ← g.routed
  Routed.CpuInterface.sendSgi id (.listed l)

/-! ### The CPU interface of the calling core -/

def acknowledge (g : Gic H) : Program (Option Ack) :=
  match g.engine with
  | .none => fail .assertion
  | .banked d => d.cpu.acknowledge
  | .routed _ => Routed.CpuInterface.acknowledge

def complete (g : Gic H) (a : Ack) : Program Unit :=
  match g.engine with
  | .none => fail .assertion
  | .banked d => d.cpu.complete a
  | .routed _ => Routed.CpuInterface.complete a

/-- Only where completion takes two steps. -/
def deactivate (g : Gic H) (a : Ack) : Program Unit := do
  require g.twoStep
  match g.engine with
  | .none => fail .assertion
  | .banked d => d.cpu.deactivate a
  | .routed _ => Routed.CpuInterface.deactivate a

def setPriorityMask (g : Gic H) (mask : Priority) : Program Unit :=
  match g.engine with
  | .none => fail .assertion
  | .banked d => d.cpu.setPriorityMask mask
  | .routed _ => Routed.CpuInterface.setPriorityMask mask

def priorityMask (g : Gic H) : Program Priority :=
  match g.engine with
  | .none => fail .assertion
  | .banked d => d.cpu.priorityMask
  | .routed _ => Routed.CpuInterface.priorityMask

/-! ### Handlers -/

/-- Fails for a number that cannot have a handler. -/
def install (g : Gic H) (id : IntId) (h : Option H) : Except Failure (Gic H) :=
  match g.handlers.replace? id h with
  | some t => .ok { g with handlers := t }
  | none => .error (.noHandlerSlot id.number)

end Gic

end InterruptControl
