import InterruptControl.Block
import InterruptControl.Registers.Fields
import InterruptControl.Retry

/-!
Redistributors: each core has one, in charge of its private interrupts. Its first frame of
registers is about the core, its second one about the interrupts.

The redistributors of all cores follow each other in memory, and the last one says so. The
one of a core is found by its affinity.
-/

namespace InterruptControl.Routed

open Program

def frameSize : Nat := 0x10000

/-- The distance of two redistributors of a GICv3. -/
def stride : Nat := 2 * frameSize

/-- A GICv4 has two more frames per core, for virtual interrupts. -/
def virtualStride : Nat := 4 * frameSize

structure Redistributor where
  base : Nat
deriving DecidableEq, Repr

/-- What a redistributor tells about itself. -/
structure RedistributorInfo where
  affinity : Affinity
  processor : Nat
  last : Bool
  physicalLpis : Bool
  virtualLpis : Bool
  /-- The private interrupts of the core, extended ones included. -/
  privateCount : Nat
deriving DecidableEq, Repr

namespace RedistributorInfo

open RedistributorType in
def ofWord (v : BitVec 64) : RedistributorInfo where
  affinity := .ofPacked ((RedistributorType.affinity.get v).setWidth 32)
  processor := (RedistributorType.processor.get v).toNat
  last := RedistributorType.last.isSet v
  physicalLpis := RedistributorType.physicalLpis.isSet v
  virtualLpis := RedistributorType.virtualLpis.isSet v
  privateCount :=
    match (ppiNumber.get v).toNat with
    | 1 => 64
    | 2 => 96
    | _ => 32

end RedistributorInfo

namespace Redistributor

def controlAddress (r : Redistributor) : Nat := r.base
def infoAddress (r : Redistributor) : Nat := r.base + 0x8
def wakerAddress (r : Redistributor) : Nat := r.base + 0x14

def layout (r : Redistributor) : Layout := .ordinary (r.base + frameSize) 3 6

/-- Where it is on the bus. -/
def address (r : Redistributor) : Nat := wrapAddress r.base

def info (r : Redistributor) : Program RedistributorInfo := do
  let v ← read64 r.infoAddress
  pure (.ofWord v)

/-! ### The core -/

def maxPolls : Nat := 1000

def isAwake (r : Redistributor) : Program Bool := do
  let v ← read32 r.wakerAddress
  pure !Waker.childrenAsleep.isSet v

/-- Until this succeeds, no setting of a private interrupt is sure to stay. -/
def wake (r : Redistributor) : Program (Except Refusal Unit) := do
  let v ← read32 r.wakerAddress
  write32 r.wakerAddress (Waker.processorSleep.clear v)
  let woken ← retry r.isAwake maxPolls
  match woken with
  | .ok () => pure woken
  | .error _ => do
    notify (.wakeTimeout r.address)
    pure woken

/-- No write to the redistributor is still on its way. -/
def isSettled (r : Redistributor) : Program Bool := do
  let v ← read32 r.controlAddress
  pure !RedistributorControl.writePending.isSet v

def settle (r : Redistributor) : Program (Except Refusal Unit) := do
  let settled ← retry r.isSettled maxPolls
  match settled with
  | .ok () => pure settled
  | .error _ => do
    notify (.redistributorTimeout r.address)
    pure settled

def setLpis (r : Redistributor) (enabled : Bool) : Program (Except Refusal Unit) := do
  let i ← r.info
  if i.physicalLpis then do
    let v ← read32 r.controlAddress
    write32 r.controlAddress (RedistributorControl.enableLpis.set v (if enabled then 1 else 0))
    r.settle
  else pure (.error .noPhysicalLpis)

def lpisEnabled (r : Redistributor) : Program Bool := do
  let v ← read32 r.controlAddress
  pure (RedistributorControl.enableLpis.isSet v)

/-! ### The private interrupts -/

/-- The extended PPIs follow the PPIs in every table. -/
def index (r : Redistributor) (id : IntId) : Program Nat := do
  require id.isPrivate
  if id.isExtendedPpi then do
    let i ← r.info
    require (id.number - 1024 < i.privateCount)
    pure (id.number - 1024)
  else pure id.number

def block (r : Redistributor) : Block where
  locate id := do
    let i ← r.index id
    pure ⟨r.layout, i⟩

/-- All of them: disabled, neither pending nor active, in the non-secure group 1, with the
given priority. -/
def resetPrivate (r : Redistributor) (p : Priority) : Program Unit := do
  let i ← r.info
  let l := r.layout
  let bound := BitVec.ofNat 32 i.privateCount
  (l.clearingTable .enabled).fill bound (.allOnes 32)
  (l.clearingTable .pending).fill bound (.allOnes 32)
  (l.clearingTable .active).fill bound (.allOnes 32)
  (l.plainTable .group1).fill bound (.allOnes 32)
  (l.plainTable .groupModifier).fill bound 0
  each (fun n => write8 (l.priorities + n) p) 0 (min i.privateCount 96)

/-! ### The redistributors of all cores -/

/-- As many as there are affinities. -/
def maxEntries : Nat := 0x100000000

/-- The first of `n` redistributors from `address` on that has the affinity. -/
def scan (stride : Nat) (a : Affinity) : (n address : Nat) →
    Program (Except Refusal Redistributor)
  | 0, _ => fail .endless
  | n + 1, address => do
    let i ← (Redistributor.mk address).info
    if i.affinity = a then pure (.ok ⟨address⟩)
    else if i.last then pure (.error .noRedistributor)
    else scan stride a n (address + stride)

def find (region stride : Nat) (a : Affinity) : Program (Except Refusal Redistributor) :=
  scan stride a maxEntries region

end Redistributor

end InterruptControl.Routed
