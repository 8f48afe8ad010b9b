import InterruptControl.IntId

/-!
The state that the hardware keeps for one interrupt.
-/

namespace InterruptControl.Hardware

structure Irq where
  group1 : Bool := false
  enabled : Bool := false
  pending : Bool := false
  active : Bool := false
  groupModifier : Bool := false
  nonMaskable : Bool := false
  edge : Bool := false
  priority : Priority := 0
  /-- One bit per core, on a banked controller. -/
  targets : BitVec 8 := 0
  /-- On a routed controller. -/
  route : BitVec 64 := 0
  /-- The core that sent it last, if it is an SGI. -/
  source : BitVec 32 := 0
deriving DecidableEq, Repr, Inhabited

/-- The parts of the state that tables of bits show. -/
inductive Field where
  | group1
  | enabled
  | pending
  | active
  | groupModifier
  | nonMaskable
deriving DecidableEq, Repr

namespace Irq

def get (q : Irq) : Field → Bool
  | .group1 => q.group1
  | .enabled => q.enabled
  | .pending => q.pending
  | .active => q.active
  | .groupModifier => q.groupModifier
  | .nonMaskable => q.nonMaskable

def put (q : Irq) (f : Field) (value : Bool) : Irq :=
  match f with
  | .group1 => { q with group1 := value }
  | .enabled => { q with enabled := value }
  | .pending => { q with pending := value }
  | .active => { q with active := value }
  | .groupModifier => { q with groupModifier := value }
  | .nonMaskable => { q with nonMaskable := value }

theorem get_put (q : Irq) (f g : Field) (b : Bool) :
    (q.put f b).get g = if g = f then b else q.get g := by
  cases f <;> cases g <;> rfl

@[simp] theorem get_put_self (q : Irq) (f : Field) (b : Bool) : (q.put f b).get f = b := by
  simp [get_put]

theorem get_put_of_ne (q : Irq) {f g : Field} (h : g ≠ f) (b : Bool) :
    (q.put f b).get g = q.get g := by
  simp [get_put, h]

end Irq

end InterruptControl.Hardware
