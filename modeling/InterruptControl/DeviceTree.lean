import InterruptControl.Failure
import InterruptControl.IntId

/-!
Device-tree interrupt specifiers. One cell alone is the number of an SGI; three cells are
a type, a number within the type, and flags whose low four bits say how the line signals.
-/

namespace InterruptControl.DeviceTree

/-- The interrupt that a specifier names and how it is triggered. -/
structure Line where
  id : IntId
  trigger : Trigger
deriving DecidableEq, Repr

/-- The meaning of the first of three cells. -/
inductive CellType where
  | spi
  | ppi
  | extendedSpi
  | extendedPpi
  | lpi
  | partition
deriving DecidableEq, Repr

def CellType.ofCell? (cell : BitVec 32) : Option CellType :=
  match cell.toNat with
  | 0 => some .spi
  | 1 => some .ppi
  | 2 => some .extendedSpi
  | 3 => some .extendedPpi
  | 4 => some .lpi
  | 5 => some .partition
  | _ => none

/-- Sums wrap at 32 bits. The numbers of a partition go on from the private interrupts to
the extended ones. -/
def CellType.id (t : CellType) (n : BitVec 32) : IntId :=
  match t with
  | spi => ⟨32 + n⟩
  | ppi => ⟨16 + n⟩
  | extendedSpi => ⟨4096 + n⟩
  | extendedPpi => ⟨1056 + n⟩
  | lpi => ⟨n⟩
  | partition => if 16 ≤ n.toNat then ⟨1056 + n - 16⟩ else ⟨16 + n⟩

/-- Only a partition may leave the sense open, and is then level triggered. -/
def trigger? (t : CellType) (flags : BitVec 32) : Except Refusal Trigger :=
  match (flags &&& 0xf).toNat with
  | 1 | 2 | 3 => .ok .edge
  | 4 | 8 => .ok .level
  | 0 => if t = .partition then .ok .level else .error .missingSense
  | _ => .error .sense

def typed (cell n flags : BitVec 32) : Except Refusal Line :=
  match CellType.ofCell? cell with
  | none => .error .cellType
  | some t => (trigger? t flags).map fun trigger => ⟨t.id n, trigger⟩

def decode : List (BitVec 32) → Except Refusal Line
  | [n] => if n.toNat < 16 then .ok ⟨⟨n⟩, .edge⟩ else .error .tooFewCells
  | cell :: n :: flags :: _ => typed cell n flags
  | _ => .error .tooFewCells

/-- Decodes a specifier into the line at hand, which stays as it is if the specifier is refused. -/
def decodeInto (cells : List (BitVec 32)) : ExceptT Refusal (StateM Line) Unit := do
  let l ← (decode cells : Except Refusal Line)
  set l

end InterruptControl.DeviceTree
