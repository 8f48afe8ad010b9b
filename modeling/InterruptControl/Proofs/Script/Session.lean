import InterruptControl.Proofs.Bus.Trace
import InterruptControl.Script.Run

/-!
How sessions run, one lemma for each way to build one.
-/

namespace InterruptControl.Script

open Bus Hardware

/-- The world with another machine. -/
def World.withMachine (w : World) (m : Machine) : World := { w with machine := m }

namespace World

@[simp] lemma machine_withMachine (w : World) (m : Machine) : (w.withMachine m).machine = m := rfl

@[simp] lemma subject_withMachine (w : World) (m : Machine) :
    (w.withMachine m).subject = w.subject := rfl

@[simp] lemma withMachine_withMachine (w : World) (m m' : Machine) :
    (w.withMachine m).withMachine m' = w.withMachine m' := rfl

end World

namespace Session

variable {α β : Type} {x : Session α} {f : α → Session β} {w w' : World} {a : α} {e : Failure}

@[simp] lemma pure_apply (a : α) (w : World) : (pure a : Session α) w = (.ok a, w) := rfl

lemma bind_apply (x : Session α) (f : α → Session β) (w : World) : (x >>= f) w =
    match x w with
    | (.ok a, w') => f a w'
    | (.error e, w') => (.error e, w') := by
  show (match x w with | (r, w') => ExceptT.bindCont f r w') = _
  rcases x w with ⟨_ | a, w'⟩ <;> rfl

lemma bind_ok (h : x w = (.ok a, w')) : (x >>= f) w = f a w' := by rw [bind_apply, h]

lemma bind_error (h : x w = (.error e, w')) : (x >>= f) w = (.error e, w') := by
  rw [bind_apply, h]

lemma currentFrontEnd_eq {g : Gic Handler} (h : w.subject = .frontEnd g) :
    currentFrontEnd w = (.ok g, w) := by
  refine (bind_ok (show (get : Session World) w = (.ok w, w) from rfl)).trans ?_
  rw [h]
  rfl

lemma perform_eq {p : Program α} {r : Except Failure α} {m : Machine}
    (h : p.run Machine.answer w.machine = (r, m)) :
    perform p w = (r, w.withMachine m) := by
  rw [perform, h]
  rfl

lemma perform_bind (p : Program α) (f : α → Program β) :
    perform (p >>= f) = perform p >>= fun a => perform (f a) := by
  funext w
  rw [bind_apply, perform, Program.run_bind]
  unfold perform
  rcases p.run Machine.answer w.machine with ⟨e | a, m⟩ <;> rfl

/-- What a call does on any machine that has the controller, it does in a session. -/
lemma perform_runs {p : Program α} {s t : State} {r : Except Failure α} {v : List Completion}
    (h : Runs p s r t v) (hw : w.machine.Holds s) :
    ∃ m, perform p w = (r, w.withMachine m) ∧ m.Holds t
      ∧ m.completions = w.machine.completions ++ v := by
  obtain ⟨m, hrun, hm, hv⟩ := h w.machine hw
  exact ⟨m, perform_eq hrun, hm, hv⟩

end Session

/-- An operation of the front end on one interrupt, as one call. -/
def InterruptOp.call (g : Gic Handler) (id : IntId) : InterruptOp → Session Result
  | .setFlag f value => act (g.setFlag f id value)
  | .hasFlag f => ask (g.hasFlag f id) .flag
  | .setAttribute a value => act (g.block id >>= fun b => b.setAttribute a id value)
  | .hasAttribute a => ask (g.block id >>= fun b => b.hasAttribute a id) .flag
  | .setPriority p => act (g.setPriority id p)
  | .priority => ask (g.priority id) fun p => .number p.toNat
  | .setTrigger t => act (g.setTrigger id t)
  | .trigger => ask (g.trigger id) fun t => .text t.name

/-- First the block is looked for, and then it is asked. -/
lemma Op.perform_interrupt (id : IntId) (op : InterruptOp) :
    (Op.interrupt .frontEnd id op).perform
      = Session.currentFrontEnd >>= fun g => op.call g id := by
  show (Session.currentFrontEnd >>= fun g => Session.perform (g.block id)) >>= (op.perform · id) = _
  rw [bind_assoc]
  refine congrArg _ (funext fun g => ?_)
  have hcall {α : Type} (f : Block → Program α) (r : α → Result) :
      (Session.perform (g.block id) >>= fun b => ask (f b) r) = ask (g.block id >>= f) r := by
    rw [ask, Session.perform_bind, report, bind_assoc]
    rfl
  cases op <;> exact hcall _ _

lemma Op.perform_interface (op : InterfaceOp) : (Op.interface .frontEnd op).perform
    = Session.currentFrontEnd >>= fun g => op.perform
      ⟨g.acknowledge, g.complete, g.deactivate, g.setPriorityMask, g.priorityMask⟩ := by
  show (Session.currentFrontEnd >>= fun g => pure _) >>= op.perform = _
  simp only [bind_assoc, pure_bind]

/-- Something that happens to the controller. -/
lemma happen_apply {f : State → Except Failure State} {w : World} {s : State}
    (hw : w.machine.board = .controller s) :
    (do
      let t ← ofExcept (f (← get).machine.board.hardware)
      Session.modifyMachine fun m => { m with board := m.board.setHardware t } : Session Unit) w
      = match f s with
        | .ok t => (.ok (), w.withMachine { w.machine with board := .controller t })
        | .error e => (.error e, w) := by
  refine (Session.bind_ok (show (get : Session World) w = (.ok w, w) from rfl)).trans ?_
  rw [hw, Board.hardware]
  rcases f s with e | t
  · rfl
  · simp only [ofExcept, pure_bind]
    show (_, { w with machine := { w.machine with board := w.machine.board.setHardware t } }) = _
    rw [hw]
    rfl

/-! ### Steps and handlers -/

/-- All operations are in `P`, and so are those of the handlers that are installed. -/
inductive Step.Only (P : Op → Prop) : Step → Prop
  | op {o : Op} (h : P o) : Only P (.op o)
  | install (id : IntId) (tag : String) {rounds : List (List Step)}
    (h : ∀ round ∈ rounds, ∀ step ∈ round, Only P step) : Only P (.install id tag rounds)
  | dispatch (frame : Nat) : Only P (.dispatch frame)

def Handler.Only (P : Op → Prop) (h : Handler) : Prop :=
  ∀ round ∈ h.rounds, ∀ step ∈ round, step.Only P

/-- What a call of a handler with rounds left does, one part after the other. -/
lemma callHandler_cons (perform : Step → Session Result) (frame : Nat) (tag : String)
    (round : List Step) (rest : List (List Step)) (a : Ack) :
    callHandler perform frame ⟨tag, round :: rest⟩ a = get >>= fun w =>
      (modify fun w => { w with calls := w.calls.push ⟨tag, a, frame, []⟩ }) >>= fun _ =>
      (Session.currentFrontEnd >>= fun g =>
        ofExcept (g.install a.id (some ⟨tag, rest⟩)) >>= fun g =>
          Session.setSubject (.frontEnd g)) >>= fun _ =>
      round.forM fun step => perform step >>= fun r => addAct w.calls.size r := by
  unfold callHandler enter
  simp only [LawfulMonad.bind_assoc, pure_bind]

end InterruptControl.Script
