import InterruptControl.Hardware.Irq

/-!
A controller as hardware: what is built in, and the registers and interrupts of the
distributor and of every core.

The shared interrupts stand by number, the extended ones from 1024 on. A core has its SGIs
and PPIs by number and its extended PPIs after them, and keeps LPIs once they were raised.
-/

namespace InterruptControl.Hardware

/-- GICv2 on the one hand, GICv3 and v4 on the other. -/
inductive Generation where
  | banked
  | routed
deriving DecidableEq, Repr

/-- What is built into the hardware. The part from `singleSecurity` on is for a routed
controller. -/
structure Options where
  generation : Generation
  cpus : Nat
  lines : Nat
  revision : Nat
  implementer : Nat := 0x43b
  singleSecurity : Bool := false
  secureAccess : Bool := false
  extendedSpi : Bool := false
  extendedSpiRange : Nat := 0
  ppiNumber : Nat := 0
  lpis : Bool := false
  coresPerCluster : Nat
deriving DecidableEq, Repr

namespace Options

/-- A GICv2 with four cores. -/
def banked : Options where
  generation := .banked
  cpus := 4
  lines := 2
  revision := 2
  coresPerCluster := 8

/-- A GICv3 with four cores. -/
def routed : Options where
  generation := .routed
  cpus := 4
  lines := 3
  revision := 3
  coresPerCluster := 16

/-- Nothing at all. -/
def absent : Options where
  generation := .banked
  cpus := 0
  lines := 0
  revision := 0
  implementer := 0
  coresPerCluster := 0

def isRouted (o : Options) : Bool := o.generation == .routed

/-- The first number past the SPIs. -/
def sharedLimit (o : Options) : Nat := min ((o.lines + 1) * 32 % 0x100000000) 1020

def extendedCount (o : Options) : Nat :=
  if o.isRouted && o.extendedSpi then (o.extendedSpiRange + 1) * 32 % 0x100000000 else 0

def privateCount (o : Options) : Nat :=
  if o.isRouted then
    match o.ppiNumber with
    | 1 => 64
    | 2 => 96
    | _ => 32
  else 32

/-- The distance of two redistributors. -/
def stride (o : Options) : Nat := if 4 ≤ o.revision then 0x40000 else 0x20000

end Options

/-- An interrupt that was acknowledged, and its priority at that time. -/
structure Running where
  id : Nat
  priority : Priority
deriving DecidableEq, Repr

/-- One core: its private interrupts, its CPU interface and its redistributor. -/
structure Core where
  own : Vector Irq 96
  affinityRegister : BitVec 64
  /-- The affinity that the redistributor reports, whatever becomes of the register. -/
  redistributorAffinity : BitVec 32
  -- the memory-mapped interface
  mappedControl : BitVec 32 := 0
  mappedPriorityMask : BitVec 32 := 0
  mappedBinaryPoint : BitVec 32 := 0
  mappedBinaryPoint1 : BitVec 32 := 0
  -- the system registers
  systemEnable : BitVec 64 := 0
  control : BitVec 64 := 0
  priorityMask : BitVec 64 := 0
  binaryPoint1 : BitVec 64 := 0
  groupEnable0 : BitVec 64 := 0
  groupEnable1 : BitVec 64 := 0
  /-- Acknowledged interrupts whose priority was not dropped yet, the latest first. -/
  running : List Running := []
  /-- LPIs by ascending number. -/
  lpis : List (Nat × Irq) := []
  -- the redistributor
  redistributorControl : BitVec 32 := 0
  asleep : Bool := true
  accessControl : BitVec 32 := 0
  writeStuck : Bool := false
  wakerStuck : Bool := false
deriving DecidableEq, Repr

structure State where
  options : Options
  shared : Vector Irq 2048
  cores : Array Core
  /-- The core whose accesses follow. -/
  current : Nat
  control : BitVec 32
  accessControl : Vector (BitVec 32) 64
  writeStuck : Bool
deriving DecidableEq, Repr

/-- Three levels as they are, and the fourth from the upper half. -/
def packAffinity (v : BitVec 64) : BitVec 32 :=
  (((v >>> 32).setWidth 8).setWidth 32 <<< 24) ||| (v &&& 0xffffff).setWidth 32

/-- Cores are numbered through the clusters. -/
def Options.affinityRegister (o : Options) (cpu : Nat) : BitVec 64 :=
  let per := if o.coresPerCluster = 0 then 1 else o.coresPerCluster
  BitVec.twoPow 64 31 ||| BitVec.ofNat 64 (cpu % per) ||| BitVec.ofNat 64 (cpu / per) <<< 8

/-- SGIs are edge triggered from the start. -/
def Core.ofRegister (v : BitVec 64) : Core where
  own := Vector.ofFn fun i => { edge := decide (i.val < 16) }
  affinityRegister := v
  redistributorAffinity := packAffinity v

namespace State

/-- The state after power-up. -/
def reset (o : Options) : State where
  options := o
  shared := Vector.replicate 2048 {}
  cores := Array.ofFn fun i : Fin o.cpus => .ofRegister (o.affinityRegister i)
  current := 0
  control := 0
  accessControl := Vector.replicate 64 0
  writeStuck := false

def isRouted (s : State) : Bool := s.options.isRouted

/-- Changes one core, if it exists. -/
def modifyCore (s : State) (cpu : Nat) (f : Core → Core) : State :=
  { s with cores := s.cores.modify cpu f }

/-- Changes the core whose accesses follow. -/
def modifyCurrent (s : State) (f : Core → Core) : State := s.modifyCore s.current f

end State

end InterruptControl.Hardware
