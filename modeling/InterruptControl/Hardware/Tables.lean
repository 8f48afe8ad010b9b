import InterruptControl.Hardware.Place
import InterruptControl.Word

/-!
Tables of bits as the hardware decodes them: which offsets they answer at, what a read
shows and what a write changes.
-/

namespace InterruptControl.Hardware

/-- What a one and a zero do to a bit that is written. -/
inductive WriteRule where
  | plain
  | set
  | clear
deriving DecidableEq, Repr

def WriteRule.apply (r : WriteRule) (f : Field) (b : Bool) (q : Irq) : Irq :=
  match r with
  | .plain => q.put f b
  | .set => if b then q.put f true else q
  | .clear => if b then q.put f false else q

structure BitTable where
  offset : Nat
  field : Field
  rule : WriteRule
  first : Nat
  routedOnly : Bool
deriving DecidableEq, Repr

/-- The tables of the distributor; the extended SPIs start at 4096. -/
def distributorTables : List BitTable :=
  [⟨0x080, .group1, .plain, 0, false⟩,
   ⟨0x100, .enabled, .set, 0, false⟩,
   ⟨0x180, .enabled, .clear, 0, false⟩,
   ⟨0x200, .pending, .set, 0, false⟩,
   ⟨0x280, .pending, .clear, 0, false⟩,
   ⟨0x300, .active, .set, 0, false⟩,
   ⟨0x380, .active, .clear, 0, false⟩,
   ⟨0xd00, .groupModifier, .plain, 0, true⟩,
   ⟨0xf80, .nonMaskable, .plain, 0, true⟩,
   ⟨0x1000, .group1, .plain, 4096, true⟩,
   ⟨0x1200, .enabled, .set, 4096, true⟩,
   ⟨0x1400, .enabled, .clear, 4096, true⟩,
   ⟨0x1600, .pending, .set, 4096, true⟩,
   ⟨0x1800, .pending, .clear, 4096, true⟩,
   ⟨0x1a00, .active, .set, 4096, true⟩,
   ⟨0x1c00, .active, .clear, 4096, true⟩,
   ⟨0x3400, .groupModifier, .plain, 4096, true⟩,
   ⟨0x3b00, .nonMaskable, .plain, 4096, true⟩]

/-- The tables of a redistributor, over its private interrupts in order. -/
def redistributorTables : List BitTable :=
  [⟨0x080, .group1, .plain, 0, true⟩,
   ⟨0x100, .enabled, .set, 0, true⟩,
   ⟨0x180, .enabled, .clear, 0, true⟩,
   ⟨0x200, .pending, .set, 0, true⟩,
   ⟨0x280, .pending, .clear, 0, true⟩,
   ⟨0x300, .active, .set, 0, true⟩,
   ⟨0x380, .active, .clear, 0, true⟩,
   ⟨0xd00, .groupModifier, .plain, 0, true⟩,
   ⟨0xf80, .nonMaskable, .plain, 0, true⟩]

/-- The table that answers at an offset, and the first of the 32 interrupts of the word.
Only whole words within `span` bytes answer. -/
def findTable? (tables : List BitTable) (routed : Bool) (span offset : Nat) :
    Option (BitTable × Nat) :=
  (tables.find? fun t =>
      (routed || !t.routedOnly) && decide (t.offset ≤ offset) && decide (offset < t.offset + span)
        && decide ((offset - t.offset) % 4 = 0)).map
    fun t => (t, t.first + (offset - t.offset) / 4 * 32)

namespace State

/-- Changes the interrupts that `view` finds from `first` on, each by its own rule. -/
def modifyMany (s : State) (view : Nat → Option Place) (first : Nat)
    (rule : Nat → Irq → Irq) : List Nat → State
  | [] => s
  | i :: rest =>
    match view (first + i) with
    | some p => (s.modify p (rule i)).modifyMany view first rule rest
    | none => s.modifyMany view first rule rest

def irqAt? (s : State) (view : Nat → Option Place) (i : Nat) : Option Irq := (view i).bind s.at?

/-- One bit per interrupt, zero where none is implemented. -/
def readBits (s : State) (view : Nat → Option Place) (first : Nat) (f : Field) : BitVec 32 :=
  Word.ofBits 32 fun i => ((s.irqAt? view (first + i)).map (·.get f)).getD false

def writeBits (s : State) (view : Nat → Option Place) (first : Nat) (f : Field)
    (r : WriteRule) (v : BitVec 32) : State :=
  s.modifyMany view first (fun i => r.apply f (v.getLsbD i)) (List.range 32)

/-- The upper of two bits per interrupt tells edge from level. -/
def readTriggers (s : State) (view : Nat → Option Place) (first : Nat) : BitVec 32 :=
  Word.ofBits 32 fun i =>
    decide (i % 2 = 1) && ((s.irqAt? view (first + i / 2)).map (·.edge)).getD false

def writeTriggers (s : State) (view : Nat → Option Place) (first : Nat) (v : BitVec 32) : State :=
  s.modifyMany view first (fun i q => { q with edge := v.getLsbD (2 * i + 1) }) (List.range 16)

end State

end InterruptControl.Hardware
