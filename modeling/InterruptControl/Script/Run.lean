import InterruptControl.Script.Perform

/-!
Running a script, step by step until one fails.

A dispatch calls handlers, whose steps may dispatch in turn. Rounds of the dispatch loop are
bounded: a controller has fewer interrupts to hand out than the bound, and each level of
nesting takes one off it.
-/

namespace InterruptControl.Script

open Session

/-- The call is noted, and the handler has one round less to go. Returns the steps of the
round and where the call is noted. -/
def enter (frame : Nat) (h : Handler) (a : Ack) : Session (List Step × Nat) := do
  let place := (← get).calls.size
  modify fun w => { w with calls := w.calls.push ⟨h.tag, a, frame, []⟩ }
  match h.rounds with
  | [] => pure ([], place)
  | round :: rest => do
    let g ← ofExcept ((← currentFrontEnd).install a.id (some { h with rounds := rest }))
    setSubject (.frontEnd g)
    pure (round, place)

/-- A handler reports a result to the note of its call. -/
def addAct (place : Nat) (r : Result) : Session Unit :=
  modify fun w =>
    { w with calls := w.calls.modify place fun c => { c with acts := c.acts ++ [r] } }

/-- Runs the next round of a handler, its steps by `perform`. -/
def callHandler (perform : Step → Session Result) (frame : Nat) (h : Handler) (a : Ack) :
    Session Unit := do
  let (round, place) ← enter frame h a
  round.forM fun step => do
    let r ← perform step
    addAct place r

/-- Puts a handler of the given rounds into the table. -/
def installHandler (id : IntId) (h : Handler) : Session Unit := do
  let g ← currentFrontEnd
  let g ← ofExcept (g.install id (some h))
  setSubject (.frontEnd g)

/-- One step, with at most `bound` rounds of a dispatch loop. -/
def Step.perform : (bound : Nat) → Step → Session Result
  | _, .op o => o.perform
  | _, .install id tag rounds => silently (installHandler id ⟨tag, rounds⟩)
  | 0, .dispatch _ => throw .endless
  | bound + 1, .dispatch frame => silently do
    let _ ← currentFrontEnd
    Gic.dispatch
      { frontEnd := currentFrontEnd
        perform := Session.perform
        handle := callHandler (Step.perform bound) frame }
      (bound + 1)

/-- More rounds than a controller has interrupts. -/
def dispatchBound : Nat := 0x1000000

/-- The answer to a step, with what was recorded while it ran. The notices of the whole step
are shown if logging is on at its end, even if the step itself turned it on. -/
def answerOf (s : Session Result) (w : World) : Answer × World :=
  let (r, w) := s { w with calls := #[], machine := w.machine.forget }
  (⟨r, w.calls.toList, w.machine.trace.toList, w.machine.shownLog⟩, w)

/-- The answers up to the first one that is a failure. -/
def answersFrom : List (Session Result) → World → List Answer
  | [], _ => []
  | s :: rest, w =>
    let (a, w) := answerOf s w
    match a.outcome with
    | .ok _ => a :: answersFrom rest w
    | .error _ => [a]

/-- How the software under test is made. -/
inductive SubjectOptions where
  /-- Without a region for the registers of a core, it depends on the board as it stands when
  the software is made. -/
  | frontEnd (version : Version) (twoStep : Bool) (cpu : Option Bus.Region)
  | banked
  | routed (stride : Nat)
deriving DecidableEq, Repr

def SubjectOptions.construct : SubjectOptions → Session Subject
  | .frontEnd version twoStep cpu => do
    let cpu := cpu.getD (← get).machine.board.coreRegion
    let g ← Session.perform
      (Gic.construct Bus.Region.distributor.base cpu.base version twoStep)
    pure (.frontEnd g)
  | .banked =>
    pure (.banked (.ofBases Bus.Region.distributor.base Bus.Region.interface.base))
  | .routed stride =>
    pure (.routed (.ofBases Bus.Region.distributor.base Bus.Region.redistributors.base stride))

/-- What a script is about and what it does. -/
structure Plan where
  board : BoardOptions
  subject : SubjectOptions
  tracing : Bool
  logging : Bool
  /-- Steps before the software is made. -/
  before : List Step
  steps : List Step

def makeSubject (o : SubjectOptions) : Session Result := silently do
  let s ← o.construct
  setSubject s

/-- An answer to every step, and one to the making of the software in between. -/
def Plan.answers (s : Plan) : List Answer :=
  let machine : Bus.Machine :=
    { board := s.board.board, tracing := s.tracing, logging := s.logging }
  let run := Step.perform dispatchBound
  answersFrom (s.before.map run ++ makeSubject s.subject :: s.steps.map run) { machine }

end InterruptControl.Script
