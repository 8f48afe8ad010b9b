/-!
Sets of at most eight cores, one bit per core: the targets of a shared interrupt and of an
SGI on a banked controller.
-/

namespace InterruptControl

structure CpuSet where
  mask : BitVec 8
deriving DecidableEq, Repr

namespace CpuSet

/-- The number of cores that a banked controller serves. -/
def capacity : Nat := 8

def empty : CpuSet := ⟨0⟩

/-- Refused for a core without a bit. -/
def add? (s : CpuSet) (cpu : Nat) : Option CpuSet :=
  if cpu < capacity then some ⟨s.mask ||| (1#8 <<< cpu)⟩ else none

def addAll? (s : CpuSet) (cpus : List Nat) : Option CpuSet := cpus.foldlM add? s

def ofList? (cpus : List Nat) : Option CpuSet := empty.addAll? cpus

def contains (s : CpuSet) (cpu : Nat) : Bool := decide (cpu < capacity) && s.mask.getLsbD cpu

def isEmpty (s : CpuSet) : Bool := s.mask == 0

/-- The members in ascending order. -/
def toList (s : CpuSet) : List Nat := (List.range capacity).filter s.contains

end CpuSet

end InterruptControl
