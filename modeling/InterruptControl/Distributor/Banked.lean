import InterruptControl.Block
import InterruptControl.Registers.Fields
import InterruptControl.Targets.CpuSet
import InterruptControl.Targets.Destination

/-!
The distributor of a GICv2. It is in charge of every interrupt below 1020; the registers of
the private ones are banked, each core reaches its own copy.
-/

namespace InterruptControl.Banked

open Program

structure Distributor where
  base : Nat
deriving DecidableEq, Repr

/-- The first number that the distributor does not serve. -/
def idLimit : Nat := 1020

namespace Distributor

def layout (d : Distributor) : Layout := .ordinary d.base 32 64

def block (d : Distributor) : Block where
  locate id := do
    require (id.number < idLimit)
    pure ⟨d.layout, id.number⟩

def controlAddress (d : Distributor) : Nat := d.base
def typeAddress (d : Distributor) : Nat := d.base + 0x4
def identityAddress (d : Distributor) : Nat := d.base + 0x8
def revisionAddress (d : Distributor) : Nat := d.base + 0xfe8
def sgiAddress (d : Distributor) : Nat := d.base + 0xf00
def targetAddress (d : Distributor) (i : Nat) : Nat := d.base + 0x800 + i

def enable (d : Distributor) : Program Unit :=
  write32 d.controlAddress
    (DistributorControl.enableGroup0.mask ||| DistributorControl.enableGroup1.mask)

def disable (d : Distributor) : Program Unit := write32 d.controlAddress 0

def isEnabled (d : Distributor) : Program Bool := do
  let v ← read32 d.controlAddress
  pure (v != 0)

/-- How many interrupts the implemented lines make, private ones included. -/
def lines (d : Distributor) : Program Nat := do
  let v ← read32 d.typeAddress
  pure (min (((DistributorType.linesNumber.get v).toNat + 1) * 32) idLimit)

def cpuCount (d : Distributor) : Program Nat := do
  let v ← read32 d.typeAddress
  pure ((DistributorType.cpuNumber.get v).toNat + 1)

def hasSecurity (d : Distributor) : Program Bool := do
  let v ← read32 d.typeAddress
  pure (DistributorType.securityExtension.isSet v)

def implementer (d : Distributor) : Program Nat := do
  let v ← read32 d.identityAddress
  pure (DistributorIdentity.implementer.get v).toNat

def architecture (d : Distributor) : Program Nat := do
  let v ← read32 d.revisionAddress
  pure (DistributorIdentity.architecture.get v).toNat

def setTargets (d : Distributor) (id : IntId) (targets : CpuSet) : Program Unit := do
  require (id.number < idLimit)
  require !id.isPrivate
  write8 (d.targetAddress id.number) targets.mask

def targets (d : Distributor) (id : IntId) : Program CpuSet := do
  require (id.number < idLimit)
  let v ← read8 (d.targetAddress id.number)
  pure ⟨v⟩

/-- The first of `n` target registers from the `i`-th on that is not zero. -/
def firstTarget (d : Distributor) : (i n : Nat) → Program (BitVec 8)
  | _, 0 => pure 0
  | i, n + 1 => do
    let v ← read8 (d.targetAddress i)
    if v ≠ 0 then pure v else d.firstTarget (i + 1) n

/-- The targets of a private interrupt read as the bit of the reading core. -/
def currentMask (d : Distributor) : Program (BitVec 8) := d.firstTarget 0 32

open SoftwareInterrupt in
/-- The word that requests an SGI. -/
def sgiWord (id : IntId) (dest : Destination CpuSet) : BitVec 32 :=
  SoftwareInterrupt.id.val id.raw |||
    match dest with
    | .listed s => filter.val 0 ||| SoftwareInterrupt.targets.val (s.mask.setWidth 32)
    | .allOther => filter.val 1
    | .current => filter.val 2

def sendSgi (d : Distributor) (id : IntId) (dest : Destination CpuSet) : Program Unit := do
  require id.isSgi
  write32 d.sgiAddress (sgiWord id dest)

/-! ### All interrupts below a bound -/

def clearAll (d : Distributor) (f : Flag) (bound : BitVec 32) : Program Unit :=
  (d.layout.clearingTable f).fill bound (.allOnes 32)

def setGroup1All (d : Distributor) (bound : BitVec 32) : Program Unit :=
  (d.layout.plainTable .group1).fill bound (.allOnes 32)

def setPriorityAll (d : Distributor) (bound : BitVec 32) (p : Priority) : Program Unit :=
  each (fun i => write8 (d.layout.priorities + i) p) 0 (min bound.toNat idLimit)

def setTargetsAll (d : Distributor) (bound : BitVec 32) (targets : CpuSet) : Program Unit :=
  each (fun i => write8 (d.targetAddress i) targets.mask) 32 (min bound.toNat idLimit - 32)

/-- The first two words of triggers belong to the private interrupts. -/
def setLevelAll (d : Distributor) (bound : BitVec 32) : Program Unit :=
  d.layout.triggerTable.fillLevel 2 bound

/-- The private interrupts of the calling core: disabled, neither pending nor active, in
group 1, with the default priority. -/
def resetPrivate (d : Distributor) : Program Unit := do
  write32 (d.layout.clearing .enabled) (.allOnes 32)
  write32 (d.layout.clearing .pending) (.allOnes 32)
  write32 (d.layout.clearing .active) (.allOnes 32)
  write32 (d.layout.plain .group1) (.allOnes 32)
  each (fun i => write8 (d.layout.priorities + i) Priority.default) 0 32
  let mask ← d.currentMask
  notify (.bankedPrivate mask.toNat)

end Distributor

end InterruptControl.Banked
