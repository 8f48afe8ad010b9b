import InterruptControl.Failure

/-!
Polling with a bound: a condition is evaluated until it holds, but no more than a given
number of times.
-/

namespace InterruptControl

/-- Refused with a timeout when none of the first `n` evaluations is true. -/
def retry {m : Type → Type} [Monad m] (condition : m Bool) : Nat → m (Except Refusal Unit)
  | 0 => pure (.error .timeout)
  | n + 1 => do
    if ← condition then pure (.ok ()) else retry condition n

end InterruptControl
