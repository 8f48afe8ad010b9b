import InterruptControl.IntId

/-!
The table of interrupt handlers. SGIs, PPIs and SPIs have their own number as slot, the
extended PPIs follow them, and then the extended SPIs. LPIs, special numbers and numbers
outside of every range have none.
-/

namespace InterruptControl

/-- SGIs, PPIs and SPIs, then extended PPIs, then extended SPIs. -/
def Handlers.slotCount : Nat := 1020 + 64 + 1024

/-- A table of handlers, which are values of `H`. -/
structure Handlers (H : Type) where
  slots : Vector (Option H) Handlers.slotCount

namespace Handlers

variable {H : Type}

def empty : Handlers H := ⟨Vector.replicate _ none⟩

def slot? (id : IntId) : Option (Fin slotCount) :=
  let n := id.number
  if h : n < 1020 then some ⟨n, by unfold slotCount; omega⟩
  else if h : 1056 ≤ n ∧ n < 1056 + 64 then some ⟨1020 + (n - 1056), by unfold slotCount; omega⟩
  else if h : 4096 ≤ n ∧ n < 4096 + 1024 then some ⟨1020 + 64 + (n - 4096), by unfold slotCount; omega⟩
  else none

/-- The handler of an interrupt, if it can have one and has. -/
def find? (t : Handlers H) (id : IntId) : Option H := (slot? id).bind fun i => t.slots[i]

/-- Replaces the handler of an interrupt that can have one. -/
def replace? (t : Handlers H) (id : IntId) (h : Option H) : Option (Handlers H) :=
  (slot? id).map fun i => ⟨t.slots.set i.val h i.isLt⟩

end Handlers

end InterruptControl
