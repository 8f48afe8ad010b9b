import InterruptControl.Gic.Dispatch
import InterruptControl.Script.Result

/-!
The state that a script runs in: the machine, the software under test, and the redistributor
at hand. A session is a computation over that state which may fail; what it changed before
it failed stays changed.
-/

namespace InterruptControl.Script

/-- The software under test. -/
inductive Subject where
  | none
  | frontEnd (g : Gic Handler)
  | banked (d : Banked.Driver)
  | routed (d : Routed.Driver)

structure World where
  machine : Bus.Machine
  subject : Subject := .none
  redistributor : Option Routed.Redistributor := none
  /-- The handlers called since the step began. -/
  calls : Array Call := #[]

abbrev Session := ExceptT Failure (StateM World)

namespace Session

/-- Performs a call of the software on the machine. -/
def perform {α : Type} (p : Program α) : Session α := fun w =>
  let (r, machine) := p.run Bus.Machine.answer w.machine
  (r, { w with machine := machine })

def setSubject (s : Subject) : Session Unit := modify fun w => { w with subject := s }

/-- The front end, if that is under test. -/
def currentFrontEnd : Session (Gic Handler) := do
  match (← get).subject with
  | .frontEnd g => pure g
  | _ => throw .assertion

/-- The driver of a GICv2, by itself or behind the front end. -/
def currentBanked : Session Banked.Driver := do
  match (← get).subject with
  | .frontEnd g => perform g.banked
  | .banked d => pure d
  | _ => throw .assertion

/-- The driver of a GICv3 or v4, by itself or behind the front end. -/
def currentRouted : Session Routed.Driver := do
  match (← get).subject with
  | .frontEnd g => perform g.routed
  | .routed d => pure d
  | _ => throw .assertion

def setBanked (d : Banked.Driver) : Session Unit := do
  match (← get).subject with
  | .frontEnd g => setSubject (.frontEnd { g with engine := .banked d })
  | _ => setSubject (.banked d)

def setRouted (d : Routed.Driver) : Session Unit := do
  match (← get).subject with
  | .frontEnd g => setSubject (.frontEnd { g with engine := .routed d })
  | _ => setSubject (.routed d)

/-- The redistributor at hand; without one, nothing answers. -/
def heldRedistributor : Session Routed.Redistributor := do
  match (← get).redistributor with
  | some r => pure r
  | none => throw (.unmapped 0)

def modifyMachine (f : Bus.Machine → Bus.Machine) : Session Unit :=
  modify fun w => { w with machine := f w.machine }

end Session

end InterruptControl.Script
