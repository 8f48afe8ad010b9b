import InterruptControl.Hardware.Distributor

/-!
The system registers of a core. A core that does not exist has none.
-/

namespace InterruptControl.Hardware.State

/-- Registers whose reading leaves everything as it is. -/
def systemWord (s : State) (cpu : Nat) (c : Core) : SystemRegister → BitVec 64
  | .coreAffinity => c.affinityRegister
  | .systemEnable => c.systemEnable
  | .control => c.control
  | .priorityMask => c.priorityMask
  | .binaryPoint1 => c.binaryPoint1
  | .runningPriority => BitVec.ofNat 64 c.runningPriority
  | .groupEnable0 => c.groupEnable0
  | .groupEnable1 => c.groupEnable1
  | .highestPending1 | .acknowledge1 => BitVec.ofNat 64 (s.highestPending cpu)
  | .endOfInterrupt1 | .deactivate | .softwareInterrupt1 => 0

/-- A read by the current core. -/
def readSystem (s : State) (r : SystemRegister) : Except Failure (BitVec 64) × State :=
  match s.cores[s.current]? with
  | none => (.error .noSuchCore, s)
  | some c =>
    if r = .acknowledge1 then
      let (v, s) := s.acknowledge s.current
      (.ok (v.setWidth 64), s)
    else (.ok (s.systemWord s.current c r), s)

/-- The cores that a request for an SGI names. -/
def sgiTargets (s : State) (v : BitVec 64) : List Nat :=
  if v.getLsbD 40 then (List.range s.cores.size).filter (· ≠ s.current)
  else
    (List.range s.cores.size).filter fun cpu =>
      match s.cores[cpu]? with
      | none => false
      | some c =>
        let a := packAffinity c.affinityRegister
        let aff0 := (a &&& 0xff).toNat
        let cluster : BitVec 32 :=
          (((v >>> 48).setWidth 8).setWidth 32 <<< 24)
            ||| (((v >>> 32).setWidth 8).setWidth 32 <<< 16)
            ||| (((v >>> 16).setWidth 8).setWidth 32 <<< 8)
        (a &&& ~~~0xff) == cluster && aff0 / 16 == ((v >>> 44) &&& 0xf).toNat
          && (v &&& 0xffff).getLsbD (aff0 % 16)

/-- A write by the current core. -/
def writeSystem (s : State) (r : SystemRegister) (v : BitVec 64) : Except Failure State :=
  match s.cores[s.current]? with
  | none => .error .noSuchCore
  | some c =>
    match r with
    | .systemEnable => .ok (s.modifyCurrent fun c => { c with systemEnable := v &&& 7 })
    | .control => .ok (s.modifyCurrent fun c => { c with control := v &&& 3 })
    | .priorityMask => .ok (s.modifyCurrent fun c => { c with priorityMask := v &&& 0xff })
    | .binaryPoint1 => .ok (s.modifyCurrent fun c => { c with binaryPoint1 := v &&& 7 })
    | .groupEnable0 => .ok (s.modifyCurrent fun c => { c with groupEnable0 := v &&& 1 })
    | .groupEnable1 => .ok (s.modifyCurrent fun c => { c with groupEnable1 := v &&& 1 })
    | .endOfInterrupt1 =>
      (s.endInterrupt s.current (v &&& 0xffffff).toNat (c.control.getLsbD 1)).mapError .fault
    | .deactivate => (s.deactivate s.current (v &&& 0xffffff).toNat).mapError .fault
    | .softwareInterrupt1 => .ok (s.sendTo ((v >>> 24) &&& 0xf).toNat (s.sgiTargets v))
    | .coreAffinity | .runningPriority | .acknowledge1 | .highestPending1 => .ok s

end InterruptControl.Hardware.State
