/-!
Where an SGI goes: to listed cores, to all cores but the sender, or to the sender.
-/

namespace InterruptControl

inductive Destination (Listed : Type) where
  | listed (l : Listed)
  | allOther
  | current
deriving DecidableEq, Repr

end InterruptControl
