import InterruptControl.IntId
import InterruptControl.Program
import InterruptControl.Registers.Fields
import InterruptControl.Targets.ClusterList
import InterruptControl.Targets.Destination

/-!
The CPU interface of a GICv3 or v4: system registers of the calling core. Only group 1 is
used.
-/

namespace InterruptControl

open Program

/-- The affinity of the calling core. -/
def Affinity.current : Program Affinity := do
  let v ← readSystem .coreAffinity
  pure (.ofCoreRegister v)

namespace Routed.CpuInterface

/-- Nothing else works before this. -/
def enableRegisters : Program Unit := do
  let v ← readSystem .systemEnable
  writeSystem .systemEnable
    (v ||| SystemEnable.registers.mask ||| SystemEnable.disableFastBypass.mask
      ||| SystemEnable.disableBypass.mask)
  barrier

def registersEnabled : Program Bool := do
  let v ← readSystem .systemEnable
  pure (SystemEnable.registers.isSet v)

def setPriorityMask (mask : Priority) : Program Unit :=
  writeSystem .priorityMask (mask.setWidth 64)

def priorityMask : Program Priority := do
  let v ← readSystem .priorityMask
  pure (v.setWidth 8)

def setBinaryPoint (value : BitVec 8) : Program Unit :=
  writeSystem .binaryPoint1 (value.setWidth 64 &&& 7)

def binaryPoint : Program (BitVec 8) := do
  let v ← readSystem .binaryPoint1
  pure ((v &&& 7).setWidth 8)

def runningPriority : Program Priority := do
  let v ← readSystem .runningPriority
  pure (v.setWidth 8)

/-- The interrupt that an acknowledge would return, left as it is. -/
def highestPending : Program IntId := do
  let v ← readSystem .highestPending1
  pure ⟨(acknowledgedId.get v).setWidth 32⟩

def setGroup1 (enabled : Bool) : Program Unit := do
  writeSystem .groupEnable1 (if enabled then 1 else 0)
  barrier

def group1Enabled : Program Bool := do
  let v ← readSystem .groupEnable1
  pure (v &&& 1 != 0)

/-- What a word of the acknowledge register says, if it names an interrupt. -/
def decode (v : BitVec 64) : Option Ack :=
  let id : IntId := ⟨(acknowledgedId.get v).setWidth 32⟩
  if id.isSpecial then none else some ⟨id, none⟩

def acknowledge : Program (Option Ack) := do
  let v ← readSystem .acknowledge1
  pure (decode v)

def complete (a : Ack) : Program Unit := do
  require !a.id.isSpecial
  writeSystem .endOfInterrupt1 (a.id.raw.setWidth 64)

def deactivate (a : Ack) : Program Unit := do
  require !a.id.isSpecial
  writeSystem .deactivate (a.id.raw.setWidth 64)

def setTwoStep (twoStep : Bool) : Program Unit := do
  let v ← readSystem .control
  writeSystem .control (CpuControl.twoStep.set v (if twoStep then 1 else 0))
  barrier

def isTwoStep : Program Bool := do
  let v ← readSystem .control
  pure (CpuControl.twoStep.isSet v)

open SoftwareInterrupt in
/-- The part of the request that says which cores. -/
def targetWord (l : ClusterList) : BitVec 64 :=
  aff1.val (l.aff1.setWidth 64) ||| aff2.val (l.aff2.setWidth 64)
    ||| aff3.val (l.aff3.setWidth 64) ||| SoftwareInterrupt.range.val (l.range.setWidth 64)
    ||| targets.val (l.bitmap.setWidth 64)

/-- The cores of a destination, as the request puts them. The sender is a list of one. -/
def destinationWord : Destination ClusterList → Program (BitVec 64)
  | .allOther => pure SoftwareInterrupt.allOther.mask
  | .current => do
    let self ← Affinity.current
    let l ← expect ((ClusterList.around self).add? self)
    pure (targetWord l)
  | .listed l => pure (targetWord l)

def sendSgi (id : IntId) (dest : Destination ClusterList) : Program Unit := do
  require id.isSgi
  let cores ← destinationWord dest
  writeSystem .softwareInterrupt1 (SoftwareInterrupt.id.val (id.raw.setWidth 64) ||| cores)
  barrier

end Routed.CpuInterface

end InterruptControl
