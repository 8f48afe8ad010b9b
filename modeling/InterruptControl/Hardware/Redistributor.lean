import InterruptControl.Hardware.Distributor

/-!
The registers of the redistributors, by the core they belong to and the offset in its
frames. The first frame is about the core and does not look at the width of an access; the
second one is about its private interrupts; there is nothing in further frames.
-/

namespace InterruptControl.Hardware.State

/-- The private interrupts of a core, in order. -/
def redistributorView (s : State) (cpu i : Nat) : Option Place :=
  if i < s.options.privateCount then s.place? (privateNumber i) cpu else none

def redistributorType (s : State) (cpu : Nat) (c : Core) : BitVec 64 :=
  c.redistributorAffinity.setWidth 64 <<< 32
    ||| BitVec.ofNat 64 cpu <<< 8
    ||| (BitVec.ofNat 64 s.options.ppiNumber &&& 0x1f) <<< 27
    ||| (if s.options.lpis then 1 else 0)
    ||| (if cpu + 1 = s.cores.size then 1#64 <<< 4 else 0)

def readWaker (c : Core) : BitVec 64 :=
  (if c.asleep then 2 else 0) ||| (if c.asleep || c.wakerStuck then 4 else 0)

def readCoreFrame (s : State) (cpu : Nat) (c : Core) (offset : Nat) (w : Width) : BitVec 64 :=
  if offset = 0x0 then
    c.redistributorControl.setWidth 64 ||| (if c.writeStuck then 8 else 0)
  else if offset = 0x4 then (BitVec.ofNat 32 s.options.implementer).setWidth 64
  else if offset = 0x8 then
    if w = .doubleword then s.redistributorType cpu c
    else s.redistributorType cpu c &&& 0xffffffff
  else if offset = 0xc then s.redistributorType cpu c >>> 32
  else if offset = 0x14 then readWaker c
  else if offset = 0xffe8 then s.options.revisionWord.setWidth 64
  else 0

def readPrivateByte (s : State) (cpu offset : Nat) : BitVec 8 :=
  if 0x400 ≤ offset ∧ offset < 0x460 then
    ((s.irqAt? (s.redistributorView cpu) (offset - 0x400)).map (·.priority)).getD 0
  else 0

def readPrivateWord (s : State) (cpu : Nat) (c : Core) (offset : Nat) : BitVec 32 :=
  match findTable? redistributorTables s.isRouted 0xc offset with
  | some (t, first) => s.readBits (s.redistributorView cpu) first t.field
  | none =>
    if 0xc00 ≤ offset ∧ offset < 0xc18 then
      s.readTriggers (s.redistributorView cpu) ((offset - 0xc00) / 4 * 16)
    else if offset = 0xe00 then c.accessControl
    else 0

def readRedistributor (s : State) (offset : Nat) (w : Width) : BitVec w.bits :=
  let cpu := offset / s.options.stride
  let inner := offset % s.options.stride
  match s.cores[cpu]? with
  | none => 0
  | some c =>
    if inner < 0x10000 then (s.readCoreFrame cpu c inner w).setWidth w.bits
    else if inner < 0x20000 then
      match w with
      | .byte => s.readPrivateByte cpu (inner - 0x10000)
      | .word | .doubleword => (s.readPrivateWord cpu c (inner - 0x10000)).setWidth _
    else 0

def writeCoreFrame (s : State) (cpu offset : Nat) (v : BitVec 32) : State :=
  if offset = 0x0 then
    if s.options.lpis then s.modifyCore cpu fun c => { c with redistributorControl := v &&& 1 }
    else s
  else if offset = 0x14 then s.modifyCore cpu fun c => { c with asleep := v.getLsbD 1 }
  else s

def writePrivateByte (s : State) (cpu offset : Nat) (v : BitVec 8) : State :=
  if 0x400 ≤ offset ∧ offset < 0x460 then
    match s.redistributorView cpu (offset - 0x400) with
    | some p => s.modify p fun q => { q with priority := v }
    | none => s
  else s

def writePrivateWord (s : State) (cpu offset : Nat) (v : BitVec 32) : State :=
  match findTable? redistributorTables s.isRouted 0xc offset with
  | some (t, first) => s.writeBits (s.redistributorView cpu) first t.field t.rule v
  | none =>
    if 0xc00 ≤ offset ∧ offset < 0xc18 then
      if offset = 0xc00 then s
      else s.writeTriggers (s.redistributorView cpu) ((offset - 0xc00) / 4 * 16) v
    else if offset = 0xe00 ∧ s.options.secureAccess then
      s.modifyCore cpu fun c => { c with accessControl := v }
    else s

def writeRedistributor (s : State) (offset : Nat) (w : Width) (v : BitVec w.bits) : State :=
  let cpu := offset / s.options.stride
  let inner := offset % s.options.stride
  if inner < 0x10000 then s.writeCoreFrame cpu inner (v.setWidth 32)
  else if inner < 0x20000 then
    if w = .byte then s.writePrivateByte cpu (inner - 0x10000) (v.setWidth 8)
    else s.writePrivateWord cpu (inner - 0x10000) (v.setWidth 32)
  else s

end InterruptControl.Hardware.State
