import InterruptControl.Script.Step

/-!
What steps result in, and the answers that a script gives.
-/

namespace InterruptControl.Script

inductive Result where
  | nothing
  | flag (b : Bool)
  | number (n : Nat)
  | hex (n : Nat)
  | text (s : String)
  | outcome (r : Except Refusal Unit)
  | acknowledged (ok : Bool) (a : Ack)
  | affinity (a : Affinity)
  | status (s : Routed.Status)
  | route (any : Bool) (a : Affinity)
  | redistributor (i : Routed.RedistributorInfo)
  | located (r : Except Refusal Unit) (base : Nat)
  | polled (r : Except Refusal Unit) (polls : Nat)
  | counts (ns : List Nat)
  | irq (q : Hardware.Irq)

/-- A call of a handler, with the results of the steps it ran. -/
structure Call where
  tag : String
  ack : Ack
  frame : Nat
  acts : List Result

/-- What became of a step, and what happened while it ran. -/
structure Answer where
  outcome : Except Failure Result
  calls : List Call
  trace : List Bus.Access
  log : List Notice

end InterruptControl.Script
