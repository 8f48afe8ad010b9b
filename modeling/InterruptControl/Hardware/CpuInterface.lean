import InterruptControl.Hardware.Delivery
import InterruptControl.Program

/-!
The memory-mapped CPU interface of the current core, by offset. It answers reads of whole
words only, but takes writes of any width.
-/

namespace InterruptControl.Hardware.State

def currentCore? (s : State) : Option Core := s.cores[s.current]?

def readInterfaceWord (s : State) (c : Core) (offset : Nat) : BitVec 32 × State :=
  if offset = 0x0 then (c.mappedControl, s)
  else if offset = 0x4 then (c.mappedPriorityMask, s)
  else if offset = 0x8 then (c.mappedBinaryPoint, s)
  else if offset = 0xc then s.acknowledge s.current
  else if offset = 0x14 then (BitVec.ofNat 32 c.runningPriority, s)
  else if offset = 0x18 then (s.acknowledgeWord s.current (s.highestPending s.current), s)
  else if offset = 0x1c then (c.mappedBinaryPoint1, s)
  else if offset = 0xfc then (BitVec.ofNat 32 s.options.implementer, s)
  else (0, s)

def readInterface (s : State) (offset : Nat) (w : Width) : BitVec w.bits × State :=
  match w, s.currentCore? with
  | .word, some c => s.readInterfaceWord c offset
  | _, _ => (0, s)

def writeInterface (s : State) (offset : Nat) (v : BitVec 32) : Except Fault State :=
  if offset = 0x0 then .ok (s.modifyCurrent fun c => { c with mappedControl := v &&& 0x21f })
  else if offset = 0x4 then
    .ok (s.modifyCurrent fun c => { c with mappedPriorityMask := v &&& 0xff })
  else if offset = 0x8 then
    .ok (s.modifyCurrent fun c => { c with mappedBinaryPoint := v &&& 7 })
  else if offset = 0x10 then
    let twoStep := (s.currentCore?.map fun c => c.mappedControl.getLsbD 9).getD false
    s.endInterrupt s.current (v &&& 0x3ff).toNat twoStep
  else if offset = 0x1c then
    .ok (s.modifyCurrent fun c => { c with mappedBinaryPoint1 := v &&& 7 })
  else if offset = 0x1000 then s.deactivate s.current (v &&& 0x3ff).toNat
  else .ok s

end InterruptControl.Hardware.State
