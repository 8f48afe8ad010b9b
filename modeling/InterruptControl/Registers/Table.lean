import InterruptControl.Program
import InterruptControl.Word

/-!
Tables of registers with an entry per interrupt: one bit per interrupt, or two bits of
which the upper one tells edge from level.

A table that sets or clears flags takes a one for each flag it is to change and leaves the
others alone, so one write changes one interrupt. A plain table is read, changed and
written back, and only if it changes.
-/

namespace InterruptControl

namespace Program

/-- `f` at `n` numbers in a row, from `start` on. -/
def each (f : Nat → Program Unit) : (start n : Nat) → Program Unit
  | _, 0 => pure ()
  | start, n + 1 => do
    f start
    each f (start + 1) n

end Program

open Program

/-- `words` words of 32 bits from address `base`. -/
structure Table where
  base : Nat
  words : Nat
deriving DecidableEq, Repr

namespace Table

def word (t : Table) (i : Nat) : Nat := t.base + 4 * i

/-! ### One bit per interrupt -/

def bit (index : Nat) : BitVec 32 := 1#32 <<< (index % 32)

/-- The address of the word that holds the bit. -/
def locateBit (t : Table) (index : Nat) : Program Nat := do
  require (index / 32 < t.words)
  pure (t.word (index / 32))

def test (t : Table) (index : Nat) : Program Bool := do
  let address ← t.locateBit index
  let v ← read32 address
  pure (v &&& bit index != 0)

/-- A one for the interrupt alone. -/
def set (t : Table) (index : Nat) : Program Unit := do
  let address ← t.locateBit index
  write32 address (bit index)

/-- A one for the interrupt alone, and no write if the flag is down already. -/
def clear (t : Table) (index : Nat) : Program Unit := do
  let address ← t.locateBit index
  let v ← read32 address
  if v &&& bit index = 0 then pure () else write32 address (bit index)

/-- Written back only if it changes. -/
def assign (t : Table) (index : Nat) (value : Bool) : Program Unit := do
  let address ← t.locateBit index
  let old ← read32 address
  let new := if value then old ||| bit index else old &&& ~~~bit index
  if new ≠ old then write32 address new else pure ()

/-- `value` into every word that an interrupt below `bound` has a bit in. -/
def fill (t : Table) (bound : BitVec 32) (value : BitVec 32) : Program Unit :=
  each (fun i => write32 (t.word i) value) 0 (min ((bound.toNat + 31) / 32) t.words)

/-! ### Two bits per interrupt -/

def edgeBit (index : Nat) : BitVec 32 := 1#32 <<< (index % 16 * 2 + 1)

def locateTrigger (t : Table) (index : Nat) : Program Nat := do
  require (index / 16 < t.words)
  pure (t.word (index / 16))

def setEdge (t : Table) (index : Nat) (edge : Bool) : Program Unit := do
  let address ← t.locateTrigger index
  let old ← read32 address
  write32 address (if edge then old ||| edgeBit index else old &&& ~~~edgeBit index)

def isEdge (t : Table) (index : Nat) : Program Bool := do
  let address ← t.locateTrigger index
  let v ← read32 address
  pure (v &&& edgeBit index != 0)

/-- How many words hold the triggers below `bound`, rounded up in 32 bits: the sum wraps for
the largest bounds, which cover nothing. -/
def triggerWordsBelow (t : Table) (bound : BitVec 32) : Nat :=
  (Word.min (Word.ceilDiv bound 16) (BitVec.ofNat 32 t.words)).toNat

/-- Level into every word that an interrupt below `bound` has its trigger in, but for the
first `skip` words. -/
def fillLevel (t : Table) (skip : Nat) (bound : BitVec 32) : Program Unit :=
  each (fun i => write32 (t.word i) 0) skip (t.triggerWordsBelow bound - skip)

end Table

end InterruptControl
