import InterruptControl.Hardware.Delivery
import InterruptControl.Hardware.Tables
import InterruptControl.Program

/-!
The registers of the distributor, by offset. With affinity routing the private interrupts
below 32 are out of its reach.
-/

namespace InterruptControl.Hardware

namespace Options

/-- The register that tells how much is built in. -/
def typeWord (o : Options) : BitVec 32 :=
  let common := (BitVec.ofNat 32 o.lines &&& 0x1f) ||| BitVec.ofNat 32 (min o.cpus 8 - 1) <<< 5
  if o.isRouted then
    common
      ||| (if o.extendedSpi then 0x100#32 ||| BitVec.ofNat 32 o.extendedSpiRange <<< 27 else 0#32)
      ||| (if o.singleSecurity then 0#32 else 0x400#32)
      ||| (if o.lpis then 0x20000#32 ||| 15#32 <<< 19 else 9#32 <<< 19)
  else common

/-- The architecture revision in its identification register. -/
def revisionWord (o : Options) : BitVec 32 := BitVec.ofNat 32 o.revision <<< 4

end Options

namespace State

/-- The distributor's view of the numbers, for the current core. -/
def distributorView (s : State) (id : Nat) : Option Place :=
  if s.isRouted && decide (id < 32) then none else s.place? id s.current

def distributorIrq? (s : State) (id : Nat) : Option Irq := s.irqAt? s.distributorView id

def modifyDistributorIrq (s : State) (id : Nat) (f : Irq → Irq) : State :=
  match s.distributorView id with
  | some p => s.modify p f
  | none => s

/-! ### Bytes: priorities and targets -/

def readDistributorByte (s : State) (offset : Nat) : BitVec 8 :=
  if 0x400 ≤ offset ∧ offset < 0x7fc then
    ((s.distributorIrq? (offset - 0x400)).map (·.priority)).getD 0
  else if s.isRouted then
    if 0x2000 ≤ offset ∧ offset < 0x2400 then
      ((s.distributorIrq? (4096 + (offset - 0x2000))).map (·.priority)).getD 0
    else 0
  else if 0x800 ≤ offset ∧ offset < 0xbfc then
    if offset - 0x800 < 32 then 1#8 <<< s.current
    else ((s.distributorIrq? (offset - 0x800)).map (·.targets)).getD 0
  else 0

def writeDistributorByte (s : State) (offset : Nat) (v : BitVec 8) : State :=
  if 0x400 ≤ offset ∧ offset < 0x7fc then
    s.modifyDistributorIrq (offset - 0x400) fun q => { q with priority := v }
  else if s.isRouted then
    if 0x2000 ≤ offset ∧ offset < 0x2400 then
      s.modifyDistributorIrq (4096 + (offset - 0x2000)) fun q => { q with priority := v }
    else s
  else if 0x800 ≤ offset ∧ offset < 0xbfc then
    if offset - 0x800 < 32 then s
    else s.modifyDistributorIrq (offset - 0x800) fun q => { q with targets := v }
  else s

/-! ### Doublewords: routes -/

/-- The interrupt whose route is at an offset. -/
def routeNumber? (s : State) (offset : Nat) : Option Nat :=
  if s.isRouted then
    if 0x6000 ≤ offset ∧ offset < 0x7fe0 then some ((offset - 0x6000) / 8)
    else if 0x8000 ≤ offset ∧ offset < 0xa000 then some (4096 + (offset - 0x8000) / 8)
    else none
  else none

/-- The bits that a route keeps. -/
def routeMask : BitVec 64 := 0xff80ffffff

def readRoute (s : State) (offset : Nat) : BitVec 64 :=
  match s.routeNumber? offset with
  | some id => ((s.distributorIrq? id).map (·.route)).getD 0
  | none => 0

def writeRoute (s : State) (offset : Nat) (v : BitVec 64) : State :=
  match s.routeNumber? offset with
  | some id => s.modifyDistributorIrq id fun q => { q with route := v &&& routeMask }
  | none => s

/-! ### Words -/

def readControl (s : State) : BitVec 32 :=
  s.control ||| (if s.writeStuck then 1#32 <<< 31 else 0)
    ||| (if s.isRouted && s.options.singleSecurity then 1#32 <<< 6 else 0)

/-- Registers outside of the tables. -/
def readDistributorRegister (s : State) (offset : Nat) : BitVec 32 :=
  if offset = 0x0 then s.readControl
  else if offset = 0x4 then s.options.typeWord
  else if offset = 0x8 then BitVec.ofNat 32 s.options.implementer
  else if offset = if s.isRouted then 0xffe8 else 0xfe8 then s.options.revisionWord
  else 0

def readDistributorWord (s : State) (offset : Nat) : BitVec 32 :=
  match findTable? distributorTables s.isRouted 0x80 offset with
  | some (t, first) => s.readBits s.distributorView first t.field
  | none =>
    if 0xc00 ≤ offset ∧ offset < 0xd00 then
      s.readTriggers s.distributorView ((offset - 0xc00) / 4 * 16)
    else if s.isRouted ∧ 0x3000 ≤ offset ∧ offset < 0x3100 then
      s.readTriggers s.distributorView (4096 + (offset - 0x3000) / 4 * 16)
    else if 0xe00 ≤ offset ∧ offset < 0xf00 then
      (s.accessControl[(offset - 0xe00) / 4]?).getD 0
    else s.readDistributorRegister offset

/-- The cores that a request for an SGI names. -/
def sgiMask (s : State) (v : BitVec 32) : BitVec 32 :=
  match ((v >>> 24) &&& 3).toNat with
  | 0 => (v >>> 16) &&& 0xff
  | 1 => 0xff &&& ~~~(1#32 <<< s.current)
  | 2 => 1#32 <<< s.current
  | _ => 0

/-- The SGI becomes pending on the listed cores, which learn who sent it. -/
def sendTo (s : State) (sgi : Nat) (cores : List Nat) : State :=
  cores.foldl (fun t cpu => t.receiveSgi cpu sgi s.current) s

def writeSgi (s : State) (v : BitVec 32) : State :=
  s.sendTo (v &&& 0xf).toNat
    ((List.range s.cores.size).filter fun cpu => (s.sgiMask v).getLsbD cpu)

/-- Registers outside of the tables. -/
def writeDistributorRegister (s : State) (offset : Nat) (v : BitVec 32) : State :=
  if offset = 0x0 then
    { s with control := if s.isRouted then v &&& 0x7fffffbf else v &&& 3 }
  else if offset = 0x40 ∨ offset = 0x48 then
    if s.isRouted then
      s.modifyDistributorIrq (v &&& 0x1fff).toNat fun q =>
        { q with pending := decide (offset = 0x40) }
    else s
  else if offset = 0xf00 then if s.isRouted then s else s.writeSgi v
  else s

/-- The triggers of the SGIs, in the first word, stay as they are. Where there are two
security states, only the secure one reaches the access control. -/
def writeDistributorWord (s : State) (offset : Nat) (v : BitVec 32) : State :=
  match findTable? distributorTables s.isRouted 0x80 offset with
  | some (t, first) => s.writeBits s.distributorView first t.field t.rule v
  | none =>
    if 0xc00 ≤ offset ∧ offset < 0xd00 then
      if offset = 0xc00 then s
      else s.writeTriggers s.distributorView ((offset - 0xc00) / 4 * 16) v
    else if s.isRouted ∧ 0x3000 ≤ offset ∧ offset < 0x3100 then
      s.writeTriggers s.distributorView (4096 + (offset - 0x3000) / 4 * 16) v
    else if 0xe00 ≤ offset ∧ offset < 0xf00 then
      if s.isRouted && !s.options.secureAccess then s
      else { s with accessControl := s.accessControl.setIfInBounds ((offset - 0xe00) / 4) v }
    else s.writeDistributorRegister offset v

def readDistributor (s : State) (offset : Nat) : (w : Width) → BitVec w.bits
  | .byte => s.readDistributorByte offset
  | .word => s.readDistributorWord offset
  | .doubleword => s.readRoute offset

def writeDistributor (s : State) (offset : Nat) : (w : Width) → BitVec w.bits → State
  | .byte, v => s.writeDistributorByte offset v
  | .word, v => s.writeDistributorWord offset v
  | .doubleword, v => s.writeRoute offset v

end State

end InterruptControl.Hardware
