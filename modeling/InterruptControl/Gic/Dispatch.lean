import InterruptControl.Gic.Basic

/-!
Serving interrupts: one after the other is acknowledged, handled and completed, until none
is left.

An interrupt without a handler is masked, so that it does not come again at once; an LPI
cannot be masked here and is only completed. What a handler does is left to the
surroundings, and it may change the front end while the loop runs.
-/

namespace InterruptControl

open Program

/-- What the loop needs: the front end as it stands, a way to perform calls, and a way to
run a handler for an interrupt. -/
structure Surroundings (m : Type → Type) (H : Type) where
  frontEnd : m (Gic H)
  perform : {α : Type} → Program α → m α
  handle : H → Ack → m Unit

namespace Gic

variable {H : Type} {m : Type → Type} [Monad m]

/-- An LPI has no active state to leave. -/
def finish (g : Gic H) (a : Ack) : Program Unit := do
  g.complete a
  if g.twoStep && !a.id.isLpi then g.deactivate a else pure ()

/-- What becomes of an interrupt that no handler is there for. -/
def reject (g : Gic H) (a : Ack) : Program Unit :=
  if a.id.isLpi then notify (.unhandledLpi a.id.number)
  else do
    notify (.unhandled a.id.number)
    g.maskInterrupt a.id

/-- The handler that an acknowledged interrupt is given to. -/
def handler? (g : Gic H) (a : Ack) : Option H :=
  if a.id.isLpi then none else g.handlers.find? a.id

def serve (s : Surroundings m H) (g : Gic H) (a : Ack) : m Unit := do
  match g.handler? a with
  | some h => s.handle h a
  | none => s.perform (g.reject a)
  let g ← s.frontEnd
  s.perform (g.finish a)

/-- At most `n` rounds of the loop, the last of which finds nothing to serve. -/
def dispatch (s : Surroundings m H) : (n : Nat) → m Unit
  | 0 => s.perform (fail .endless)
  | n + 1 => do
    let g ← s.frontEnd
    let a ← s.perform g.acknowledge
    match a with
    | none => pure ()
    | some a => do
      serve s g a
      dispatch s n

end Gic

end InterruptControl
