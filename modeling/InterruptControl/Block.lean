import InterruptControl.IntId
import InterruptControl.Registers.Table

/-!
Blocks of registers that hold the state of interrupts.

Every block lays its tables out in the same way; only the extended SPIs have tables of
their own. A block knows for each interrupt that it is in charge of which tables hold it
and at which index, and the operations on one interrupt follow from that.
-/

namespace InterruptControl

open Program

/-- State that one table sets and another one clears. -/
inductive Flag where
  | enabled
  | pending
  | active
deriving DecidableEq, Repr

/-- State in a plain table. -/
inductive Attribute where
  | group1
  | groupModifier
  | nonMaskable
deriving DecidableEq, Repr

/-- The addresses of the tables, and how many words those with one bit and those with two
bits per interrupt have. -/
structure Layout where
  setting : Flag → Nat
  clearing : Flag → Nat
  plain : Attribute → Nat
  priorities : Nat
  triggers : Nat
  bitWords : Nat
  triggerWords : Nat

namespace Layout

/-- The tables of a distributor or of the private interrupts of a core. -/
def ordinary (base bitWords triggerWords : Nat) : Layout where
  setting
    | .enabled => base + 0x100
    | .pending => base + 0x200
    | .active => base + 0x300
  clearing
    | .enabled => base + 0x180
    | .pending => base + 0x280
    | .active => base + 0x380
  plain
    | .group1 => base + 0x80
    | .groupModifier => base + 0xd00
    | .nonMaskable => base + 0xf80
  priorities := base + 0x400
  triggers := base + 0xc00
  bitWords := bitWords
  triggerWords := triggerWords

/-- The tables of the extended SPIs. -/
def extended (base : Nat) : Layout where
  setting
    | .enabled => base + 0x1200
    | .pending => base + 0x1600
    | .active => base + 0x1a00
  clearing
    | .enabled => base + 0x1400
    | .pending => base + 0x1800
    | .active => base + 0x1c00
  plain
    | .group1 => base + 0x1000
    | .groupModifier => base + 0x3400
    | .nonMaskable => base + 0x3b00
  priorities := base + 0x2000
  triggers := base + 0x3000
  bitWords := 32
  triggerWords := 64

def settingTable (l : Layout) (f : Flag) : Table := ⟨l.setting f, l.bitWords⟩
def clearingTable (l : Layout) (f : Flag) : Table := ⟨l.clearing f, l.bitWords⟩
def plainTable (l : Layout) (a : Attribute) : Table := ⟨l.plain a, l.bitWords⟩
def triggerTable (l : Layout) : Table := ⟨l.triggers, l.triggerWords⟩

end Layout

/-- The place of an interrupt in a block. -/
structure Slot where
  layout : Layout
  index : Nat

/-- `locate` fails for an interrupt that the block is not in charge of. -/
structure Block where
  locate : IntId → Program Slot

namespace Block

def setFlag (b : Block) (f : Flag) (id : IntId) (value : Bool) : Program Unit := do
  let s ← b.locate id
  if value then (s.layout.settingTable f).set s.index
  else (s.layout.clearingTable f).clear s.index

def hasFlag (b : Block) (f : Flag) (id : IntId) : Program Bool := do
  let s ← b.locate id
  (s.layout.settingTable f).test s.index

def setAttribute (b : Block) (a : Attribute) (id : IntId) (value : Bool) : Program Unit := do
  let s ← b.locate id
  (s.layout.plainTable a).assign s.index value

def hasAttribute (b : Block) (a : Attribute) (id : IntId) : Program Bool := do
  let s ← b.locate id
  (s.layout.plainTable a).test s.index

def setPriority (b : Block) (id : IntId) (p : Priority) : Program Unit := do
  let s ← b.locate id
  write8 (s.layout.priorities + s.index) p

def priority (b : Block) (id : IntId) : Program Priority := do
  let s ← b.locate id
  read8 (s.layout.priorities + s.index)

/-- An SGI stays edge triggered. -/
def setTrigger (b : Block) (id : IntId) (t : Trigger) : Program Unit := do
  let s ← b.locate id
  if id.isSgi then pure () else s.layout.triggerTable.setEdge s.index t.isEdge

def trigger (b : Block) (id : IntId) : Program Trigger := do
  let s ← b.locate id
  if id.isSgi then pure .edge
  else do
    let edge ← s.layout.triggerTable.isEdge s.index
    pure (.ofIsEdge edge)

end Block

end InterruptControl
