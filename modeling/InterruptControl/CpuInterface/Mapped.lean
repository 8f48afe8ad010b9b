import InterruptControl.IntId
import InterruptControl.Program
import InterruptControl.Registers.Fields

/-!
The CPU interface of a GICv2, a block of registers that each core reaches its own copy of.
-/

namespace InterruptControl.Banked

open Program

structure CpuInterface where
  base : Nat
deriving DecidableEq, Repr

namespace CpuInterface

def controlAddress (c : CpuInterface) : Nat := c.base
def priorityMaskAddress (c : CpuInterface) : Nat := c.base + 0x4
def binaryPointAddress (c : CpuInterface) : Nat := c.base + 0x8
def acknowledgeAddress (c : CpuInterface) : Nat := c.base + 0xc
def endAddress (c : CpuInterface) : Nat := c.base + 0x10
def runningPriorityAddress (c : CpuInterface) : Nat := c.base + 0x14
def highestPendingAddress (c : CpuInterface) : Nat := c.base + 0x18
def binaryPoint1Address (c : CpuInterface) : Nat := c.base + 0x1c
def deactivateAddress (c : CpuInterface) : Nat := c.base + 0x1000

/-- Opens the priority mask and enables both groups; the whole priority decides about
preemption. -/
def start (c : CpuInterface) : Program Unit := do
  write32 c.controlAddress 0
  write32 c.priorityMaskAddress (Priority.allowAll.setWidth 32)
  write32 c.binaryPointAddress 2
  write32 c.binaryPoint1Address 3
  write32 c.controlAddress (CpuControl.enableGroup0.mask ||| CpuControl.enableGroup1.mask)

def disable (c : CpuInterface) : Program Unit := do
  let v ← read32 c.controlAddress
  write32 c.controlAddress (CpuControl.enableGroup1.clear (CpuControl.enableGroup0.clear v))

def setPriorityMask (c : CpuInterface) (mask : Priority) : Program Unit :=
  write32 c.priorityMaskAddress (mask.setWidth 32)

def priorityMask (c : CpuInterface) : Program Priority := do
  let v ← read32 c.priorityMaskAddress
  pure ((Banked.priorityMask.get v).setWidth 8)

def setBinaryPoint (c : CpuInterface) (value : BitVec 8) : Program Unit :=
  write32 c.binaryPointAddress (Banked.binaryPoint.val (value.setWidth 32))

def binaryPoint (c : CpuInterface) : Program (BitVec 8) := do
  let v ← read32 c.binaryPointAddress
  pure ((Banked.binaryPoint.get v).setWidth 8)

def runningPriority (c : CpuInterface) : Program Priority := do
  let v ← read32 c.runningPriorityAddress
  pure (v.setWidth 8)

/-- The interrupt that an acknowledge would return, left as it is. -/
def highestPending (c : CpuInterface) : Program IntId := do
  let v ← read32 c.highestPendingAddress
  pure ⟨Acknowledge.id.get v⟩

/-- What a word of the acknowledge register says, if it names an interrupt. Only SGIs have
a source. -/
def decode (v : BitVec 32) : Option Ack :=
  let id : IntId := ⟨Acknowledge.id.get v⟩
  if 1020 ≤ id.number then none
  else some ⟨id, if id.isSgi then some (Acknowledge.cpu.get v) else none⟩

/-- The word that completes an interrupt. -/
def encode (a : Ack) : BitVec 32 :=
  match a.source with
  | some cpu => Acknowledge.id.val a.id.raw ||| Acknowledge.cpu.val cpu
  | none => Acknowledge.id.val a.id.raw

def acknowledge (c : CpuInterface) : Program (Option Ack) := do
  let v ← read32 c.acknowledgeAddress
  pure (decode v)

def complete (c : CpuInterface) (a : Ack) : Program Unit := do
  require !a.id.isSpecial
  write32 c.endAddress (encode a)

def deactivate (c : CpuInterface) (a : Ack) : Program Unit := do
  require !a.id.isSpecial
  write32 c.deactivateAddress (encode a)

def setTwoStep (c : CpuInterface) (twoStep : Bool) : Program Unit := do
  let v ← read32 c.controlAddress
  write32 c.controlAddress (CpuControl.twoStep.set v (if twoStep then 1 else 0))

def isTwoStep (c : CpuInterface) : Program Bool := do
  let v ← read32 c.controlAddress
  pure (CpuControl.twoStep.isSet v)

end CpuInterface

end InterruptControl.Banked
