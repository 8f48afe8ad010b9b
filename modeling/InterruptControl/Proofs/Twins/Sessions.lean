import InterruptControl.Proofs.Twins.Interface

/-!
Scripts on twins. Two scripts that differ at most in who is said to have sent an interrupt give the
same answers, but for who is said to have sent one.

A step is an operation, which is some calls, or a loop of operations and of handlers, which run
steps again. So it is shown that sessions go on side by side, first of all that an operation begins,
and then by induction on how deep handlers may be nested.
-/

namespace InterruptControl

open Bus Hardware

namespace Script

/-! ### What is the same -/

/-- Only a banked controller tells who sent an interrupt. -/
def Result.unsourced : Result → Result
  | .acknowledged ok a => .acknowledged ok { a with source := none }
  | r => r

def Call.unsourced (c : Call) : Call :=
  { c with ack := { c.ack with source := none }, acts := c.acts.map Result.unsourced }

/-- What a script learns from a step, but for that. -/
def Answer.unsourced (a : Answer) : Except Failure Result × List Call :=
  (a.outcome.map Result.unsourced, a.calls.map Call.unsourced)

/-- The operations that both generations offer. Interrupts are routed to cores of the first cluster. -/
def Op.Common : Op → Prop
  | .hardware (.setCurrent _) | .hardware (.raise ..) => True
  | .interrupt .frontEnd _ (.setAttribute ..) | .interrupt .frontEnd _ (.hasAttribute _) => False
  | .interrupt .frontEnd .. => True
  | .frontEnd (.mask _) | .frontEnd (.unmask _) | .frontEnd (.routeToAny _)
  | .frontEnd (.sendToCurrent _) | .frontEnd (.sendToAllOther _) | .frontEnd (.uninstall _) => True
  | .frontEnd (.configure c) => ∃ a : Affinity, c.target = some a ∧ a.Near
  | .frontEnd (.routeTo _ a) => a.Near
  | .interface .frontEnd (.acknowledge _) | .interface .frontEnd (.setPriorityMask _)
  | .interface .frontEnd .priorityMask => True
  | _ => False

/-- The same operation. What is completed may come from different senders. -/
inductive Op.Alike : Op → Op → Prop
  | common {op : Op} (h : op.Common) : Alike op op
  | complete {a a' : Ack} (h : a.Alike a') :
    Alike (.interface .frontEnd (.complete a)) (.interface .frontEnd (.complete a'))
  | deactivate {a a' : Ack} (h : a.Alike a') :
    Alike (.interface .frontEnd (.deactivate a)) (.interface .frontEnd (.deactivate a'))

inductive Step.Alike : Step → Step → Prop
  | op {op op' : Op} (h : Op.Alike op op') : Alike (.op op) (.op op')
  | install (id : IntId) (tag : String) {rounds rounds' : List (List Step)}
    (h : List.Forall₂ (List.Forall₂ Alike) rounds rounds') :
    Alike (.install id tag rounds) (.install id tag rounds')
  | dispatch (frame : Nat) : Alike (.dispatch frame) (.dispatch frame)

structure Handler.Alike (h h' : Handler) : Prop where
  tag : h'.tag = h.tag
  rounds : List.Forall₂ (List.Forall₂ Step.Alike) h.rounds h'.rounds

/-- Two worlds with twins, whose front ends have handlers that belong together, and in which the same
handlers were called. -/
structure World.Twin (o o' : Options) (twoStep : Bool) (w w' : World) : Prop where
  boards : ∃ s s', w.machine.board = .controller s ∧ w'.machine.board = .controller s'
    ∧ State.Twin o o' twoStep s s'
  unfed : w.machine.feeds = {} ∧ w'.machine.feeds = {}
  subjects : ∃ g g', w.subject = .frontEnd g ∧ w'.subject = .frontEnd g'
    ∧ g.Twin o o' twoStep Handler.Alike g'
  calls : w'.calls.map Call.unsourced = w.calls.map Call.unsourced

/-! ### Sessions side by side -/

namespace Session

/-- In such worlds, the sessions fail in the same way or return what belongs together, and they leave
such worlds. -/
def Parallel (o o' : Options) (twoStep : Bool) {α β : Type} (A : α → β → Prop) (x : Session α)
    (x' : Session β) : Prop :=
  ∀ ⦃w w' : World⦄, World.Twin o o' twoStep w w' →
    Same A (x w).1 (x' w').1 ∧ World.Twin o o' twoStep (x w).2 (x' w').2

namespace Parallel

variable {o o' : Options} {twoStep : Bool} {α β γ δ : Type} {A : α → β → Prop} {B : γ → δ → Prop}
  {x : Session α} {x' : Session β} {f : α → Session γ} {f' : β → Session δ}

lemma pure {a : α} {b : β} (h : A a b) : Parallel o o' twoStep A (pure a) (pure b) :=
  fun _ _ hw => ⟨.ok h, hw⟩

lemma bind (hx : Parallel o o' twoStep A x x')
    (hf : ∀ {a b}, A a b → Parallel o o' twoStep B (f a) (f' b)) :
    Parallel o o' twoStep B (x >>= f) (x' >>= f') := by
  intro w w' hw
  obtain ⟨hr, hv⟩ := hx hw
  rw [bind_apply, bind_apply]
  rcases hxw : x w with ⟨r, v⟩
  rcases hxw' : x' w' with ⟨r', v'⟩
  rw [hxw, hxw'] at hr hv
  cases hr with
  | ok h => exact hf h hv
  | error e => exact ⟨.error e, hv⟩

/-- A call of the software is one on the board. -/
lemma perform {p : Program α} {p' : Program β} (hp : p.Parallel o o' twoStep A p') :
    Parallel o o' twoStep A (perform p) (perform p') := by
  intro w w' hw
  obtain ⟨⟨s, s', hb, hb', hs⟩, ⟨hf, hf'⟩, hsubjects, hcalls⟩ := hw
  obtain ⟨r, r', t, t', hrun, hrun', hr, ht⟩ := hp hs
  obtain ⟨m, hm, hmb, hmf⟩ := Machine.exists_run hb hf hrun
  obtain ⟨m', hm', hmb', hmf'⟩ := Machine.exists_run hb' hf' hrun'
  rw [perform_eq hm, perform_eq hm']
  exact ⟨hr, ⟨t, t', hmb, hmb', ht⟩, ⟨hmf, hmf'⟩, hsubjects, hcalls⟩

lemma currentFrontEnd :
    Parallel o o' twoStep (Gic.Twin o o' twoStep Handler.Alike) currentFrontEnd currentFrontEnd := by
  intro w w' hw
  obtain ⟨g, g', hg, hg', hgg⟩ := hw.subjects
  rw [currentFrontEnd_eq hg, currentFrontEnd_eq hg']
  exact ⟨.ok hgg, hw⟩

lemma setSubject {g g' : Gic Handler} (h : g.Twin o o' twoStep Handler.Alike g') :
    Parallel o o' twoStep Eq (setSubject (.frontEnd g)) (setSubject (.frontEnd g')) :=
  fun _ _ hw => ⟨.ok rfl, hw.boards, hw.unfed, ⟨g, g', rfl, rfl, h⟩, hw.calls⟩

lemma ofExcept {r : Except Failure α} {r' : Except Failure β} (h : Same A r r') :
    Parallel o o' twoStep A (ofExcept r) (ofExcept r') := by
  cases h with
  | ok h => exact pure h
  | error e => exact fun _ _ hw => ⟨.error e, hw⟩

/-- Something happens to both controllers. -/
lemma happen {f f' : State → Except Failure State}
    (hf : ∀ {s s'}, State.Twin o o' twoStep s s' → Same (State.Twin o o' twoStep) (f s) (f' s')) :
    Parallel o o' twoStep (fun r r' => r'.unsourced = r.unsourced) (happen f) (happen f') := by
  refine bind (A := Eq) (fun w w' hw => ?_) fun _ => pure rfl
  obtain ⟨s, s', hb, hb', hs⟩ := hw.boards
  rw [happen_apply hb, happen_apply hb']
  have hstep := hf hs
  generalize f s = r at hstep
  generalize f' s' = r' at hstep
  cases hstep with
  | ok ht => exact ⟨.ok rfl, ⟨_, _, rfl, rfl, ht⟩, hw.unfed, hw.subjects, hw.calls⟩
  | error e => exact ⟨.error e, hw⟩

/-- A call with a result that is reported. -/
lemma ask {p p' : Program α} (hp : p.Parallel o o' twoStep Eq p') (f : α → Result) :
    Parallel o o' twoStep (fun r r' => r'.unsourced = r.unsourced) (ask p f) (ask p' f) := by
  refine bind (perform hp) fun h => ?_
  subst h
  exact pure rfl

lemma act {p p' : Program Unit} (hp : p.Parallel o o' twoStep Eq p') :
    Parallel o o' twoStep (fun r r' => r'.unsourced = r.unsourced) (act p) (act p') :=
  ask hp fun _ => .nothing

lemma silently {x x' : Session Unit} (hx : Parallel o o' twoStep Eq x x') :
    Parallel o o' twoStep (fun r r' => r'.unsourced = r.unsourced) (silently x) (silently x') :=
  bind hx fun _ => pure rfl

end Parallel

end Session

open Session

/-- Handlers that belong together are put into both tables. -/
lemma same_install {o o' : Options} {twoStep : Bool} {H H' : Type} {A : H → H' → Prop} {g : Gic H}
    {g' : Gic H'} (hg : g.Twin o o' twoStep A g') (id : IntId) {h : Option H} {h' : Option H'}
    (hh : Option.Rel A h h') : Same (Gic.Twin o o' twoStep A) (g.install id h) (g'.install id h') := by
  rcases hslot : Handlers.slot? id with _ | i
  · simp only [Gic.install, Handlers.replace?, hslot, Option.map_none]
    exact .error _
  · have hsome : (Handlers.slot? id).isSome = true := by rw [hslot]; rfl
    obtain ⟨g₁, hg₁⟩ := g.exists_install h hsome
    obtain ⟨g₁', hg₁'⟩ := g'.exists_install h' hsome
    obtain ⟨hengine, htwo⟩ := Gic.parts_of_install hg₁
    obtain ⟨hengine', htwo'⟩ := Gic.parts_of_install hg₁'
    rw [hg₁, hg₁']
    refine .ok ⟨hengine ▸ hg.drives, hengine' ▸ hg.drives', htwo.trans hg.mode, htwo'.trans hg.mode',
      fun id' => ?_⟩
    rw [Gic.find?_install hg₁, Gic.find?_install hg₁']
    split
    · exact hh
    · exact hg.handlers id'

section Operations

variable {o o' : Options} {twoStep : Bool} (ho : o.Twins o') (hfit : o.Fits) (hfit' : o'.Fits)
include ho hfit hfit'

lemma parallel_interrupt {g g' : Gic Handler} (hg : g.Twin o o' twoStep Handler.Alike g') (id : IntId)
    {op : InterruptOp} (hop : (Op.interrupt .frontEnd id op).Common) :
    Session.Parallel o o' twoStep (fun r r' => r'.unsourced = r.unsourced) (op.call g id)
      (op.call g' id) := by
  cases op with
  | setAttribute | hasAttribute => exact hop.elim
  | setFlag f v => exact .act (Gic.parallel_setFlag ho hfit hfit' hg id f v)
  | hasFlag f => exact .ask (Gic.parallel_hasFlag ho hfit hfit' hg id f) _
  | setPriority p => exact .act (Gic.parallel_setPriority ho hfit hfit' hg id p)
  | priority => exact .ask (Gic.parallel_priority ho hfit hfit' hg id) _
  | setTrigger t => exact .act (Gic.parallel_setTrigger ho hfit hfit' hg id t)
  | trigger => exact .ask (Gic.parallel_trigger ho hfit hfit' hg id) _

lemma parallel_frontEnd {g g' : Gic Handler} (hg : g.Twin o o' twoStep Handler.Alike g')
    {op : FrontEndOp} (hop : (Op.frontEnd op).Common) :
    Session.Parallel o o' twoStep (fun r r' => r'.unsourced = r.unsourced) (op.perform g)
      (op.perform g') := by
  cases op with
  | mask id => exact .act (Gic.parallel_setFlag ho hfit hfit' hg id .enabled false)
  | unmask id => exact .act (Gic.parallel_setFlag ho hfit hfit' hg id .enabled true)
  | configure c => exact .act (Gic.parallel_configure ho hfit hfit' hg hop)
  | routeTo id a => exact .act (Gic.parallel_routeTo ho hfit' hg id hop)
  | routeToAny id => exact .act (Gic.parallel_routeToAny ho hfit hfit' hg id)
  | sendToCurrent id => exact .act (Gic.parallel_sendToCurrent ho hg id)
  | sendToAllOther id => exact .act (Gic.parallel_sendToAllOther ho hg id)
  | uninstall id =>
    exact .silently (.bind (.ofExcept (A := Gic.Twin o o' twoStep Handler.Alike)
      (same_install hg id .none)) fun hg => .setSubject hg)
  | _ => exact hop.elim

omit hfit hfit' in
lemma parallel_hardware {op : HardwareOp} (hop : (Op.hardware op).Common) :
    Session.Parallel o o' twoStep (fun r r' => r'.unsourced = r.unsourced) op.perform op.perform := by
  cases op with
  | setCurrent cpu =>
    show Session.Parallel _ _ _ _ (happen (·.setCurrent cpu)) (happen (·.setCurrent cpu))
    refine .happen fun {s s'} hs => ?_
    rw [State.setCurrent, State.setCurrent, hs.size ho]
    split
    next hcpu => exact .ok (hs.setCurrent ho (hs.sound.size ▸ hcpu))
    next => exact .error _
  | raise id cpu =>
    show Session.Parallel _ _ _ _ (happen (·.raise id cpu)) (happen (·.raise id cpu))
    exact .happen fun hs => hs.raise ho id cpu
  | _ => exact hop.elim

lemma parallel_op {op op' : Op} (h : op.Alike op') :
    Session.Parallel o o' twoStep (fun r r' => r'.unsourced = r.unsourced) op.perform op'.perform := by
  cases h with
  | complete ha =>
    rw [Op.perform_interface, Op.perform_interface]
    exact .bind .currentFrontEnd fun hg => .act (Gic.parallel_complete ho hg ha)
  | deactivate ha =>
    rw [Op.perform_interface, Op.perform_interface]
    exact .bind .currentFrontEnd fun hg => .act (Gic.parallel_deactivate ho hg ha)
  | common h =>
    cases op with
    | interrupt t id op =>
      cases t with
      | frontEnd =>
        rw [Op.perform_interrupt]
        exact .bind .currentFrontEnd fun hg => parallel_interrupt ho hfit hfit' hg id h
      | _ => exact h.elim
    | interface t op =>
      cases t with
      | interface => exact h.elim
      | frontEnd =>
        rw [Op.perform_interface]
        refine .bind .currentFrontEnd fun {g g'} hg => ?_
        cases op with
        | acknowledge before =>
          refine .bind (.perform (Gic.parallel_acknowledge ho hg)) fun {a a'} ha => ?_
          cases ha with
          | none => exact .pure rfl
          | some ha => exact .pure (by simp [Result.unsourced, ha.1])
        | setPriorityMask mask => exact .act (Gic.parallel_setPriorityMask ho hg mask)
        | priorityMask => exact .ask (Gic.parallel_priorityMask ho hg) _
        | _ => exact h.elim
    | frontEnd op => exact .bind .currentFrontEnd fun hg => parallel_frontEnd ho hfit hfit' hg h
    | hardware op => exact parallel_hardware ho h
    | _ => exact h.elim

end Operations

/-! ### Handlers -/

section Handlers

variable {o o' : Options} {twoStep : Bool}

/-- The notes of calls change in the same way. -/
lemma World.Twin.withCalls {w w' : World} (h : World.Twin o o' twoStep w w') {l l' : Array Call}
    (hl : l'.map Call.unsourced = l.map Call.unsourced) :
    World.Twin o o' twoStep { w with calls := l } { w' with calls := l' } :=
  ⟨h.boards, h.unfed, h.subjects, hl⟩

lemma World.Twin.size {w w' : World} (h : World.Twin o o' twoStep w w') :
    w'.calls.size = w.calls.size := by
  have hsize := congrArg Array.size h.calls
  rwa [Array.size_map, Array.size_map] at hsize

/-- Both handlers report the same to the note of their call. -/
lemma parallel_addAct (place : Nat) {r r' : Result} (hr : r'.unsourced = r.unsourced) :
    Session.Parallel o o' twoStep Eq (addAct place r) (addAct place r') := by
  intro w w' hw
  refine ⟨.ok rfl, hw.withCalls ?_⟩
  have hadd (c : Call) (r : Result) : Call.unsourced { c with acts := c.acts ++ [r] }
      = { c.unsourced with acts := c.unsourced.acts ++ [r.unsourced] } := by simp [Call.unsourced]
  refine Array.ext (by simp [hw.size]) fun i hi hi' => ?_
  have hcall : ∀ (hi : i < w.calls.size) (hi' : i < w'.calls.size),
      (w'.calls[i]).unsourced = (w.calls[i]).unsourced := by
    intro hi hi'
    have hget := congrArg (fun l => l[i]?) hw.calls
    simpa [hi, hi'] using hget
  rw [Array.getElem_map, Array.getElem_map, Array.getElem_modify, Array.getElem_modify]
  split
  · rw [hadd, hadd, hcall, hr]
  · exact hcall _ _

variable {h h' : Handler} (hh : h.Alike h') {a a' : Ack} (ha : a.Alike a') (frame : Nat)
include hh ha

lemma parallel_enter : Session.Parallel o o' twoStep
    (fun x x' => List.Forall₂ Step.Alike x.1 x'.1 ∧ x'.2 = x.2) (enter frame h a) (enter frame h' a') := by
  rcases h with ⟨tag, rounds⟩
  rcases h' with ⟨tag', rounds'⟩
  obtain ⟨rfl, hrounds⟩ : tag' = tag ∧ List.Forall₂ (List.Forall₂ Step.Alike) rounds rounds' :=
    ⟨hh.tag, hh.rounds⟩
  refine .bind (A := World.Twin o o' twoStep) (fun w w' hw => ⟨.ok hw, hw⟩) fun {v v'} hv => ?_
  rw [hv.size]
  refine .bind (A := Eq) (fun w w' hw => ⟨.ok rfl, hw.withCalls ?_⟩) fun _ => ?_
  · rw [Array.map_push, Array.map_push, hw.calls]
    simp [Call.unsourced, ha.1]
  · cases hrounds with
    | nil => exact .pure ⟨.nil, rfl⟩
    | cons hround hrest =>
      refine .bind .currentFrontEnd fun hg =>
        .bind (.ofExcept (A := Gic.Twin o o' twoStep Handler.Alike) ?_) fun hg =>
          .bind (.setSubject hg) fun _ => .pure ⟨hround, rfl⟩
      rw [ha.1]
      exact same_install hg a.id (.some ⟨rfl, hrest⟩)

/-- Both handlers run a round. -/
lemma parallel_callHandler {perform perform' : Step → Session Result}
    (hp : ∀ {step step'}, Step.Alike step step' → Session.Parallel o o' twoStep
      (fun r r' => r'.unsourced = r.unsourced) (perform step) (perform' step')) :
    Session.Parallel o o' twoStep Eq (callHandler perform frame h a) (callHandler perform' frame h' a') := by
  have hround {round round' : List Step} (hround : List.Forall₂ Step.Alike round round') (place : Nat) :
      Session.Parallel o o' twoStep Eq
        (round.forM fun step => perform step >>= fun r => addAct place r)
        (round'.forM fun step => perform' step >>= fun r => addAct place r) := by
    induction hround with
    | nil => exact .pure rfl
    | cons hstep _ ih =>
      exact .bind (.bind (hp hstep) fun hr => parallel_addAct place hr) fun _ => ih
  refine .bind (parallel_enter hh ha frame) fun {x x'} hx => ?_
  rcases x with ⟨round, place⟩
  rcases x' with ⟨round', place'⟩
  obtain ⟨hsteps, rfl⟩ := hx
  exact hround hsteps place'

omit hh ha in
lemma parallel_installHandler (id : IntId) {h h' : Handler} (hh : h.Alike h') :
    Session.Parallel o o' twoStep (fun r r' => r'.unsourced = r.unsourced)
      (silently (installHandler id h)) (silently (installHandler id h')) :=
  .silently (.bind .currentFrontEnd fun hg =>
    .bind (.ofExcept (A := Gic.Twin o o' twoStep Handler.Alike) (same_install hg id (.some hh)))
      fun hg => .setSubject hg)

end Handlers

/-! ### Dispatch -/

section Dispatch

variable {o o' : Options} {twoStep : Bool} (ho : o.Twins o') (hfit : o.Fits) (hfit' : o'.Fits)
  {handle handle' : Handler → Ack → Session Unit}
  (hhandle : ∀ {h h' a a'}, Handler.Alike h h' → Ack.Alike a a' →
    Session.Parallel o o' twoStep Eq (handle h a) (handle' h' a'))
include ho hfit hfit' hhandle

lemma parallel_serve {g g' : Gic Handler} (hg : g.Twin o o' twoStep Handler.Alike g') {a a' : Ack}
    (ha : a.Alike a') : Session.Parallel o o' twoStep Eq (Gic.serve (surroundings handle) g a)
      (Gic.serve (surroundings handle') g' a') := by
  have hcalled : Option.Rel Handler.Alike (g.handler? a) (g'.handler? a') := by
    rw [Gic.handler?, Gic.handler?, ha.1]
    split
    · exact .none
    · exact hg.handlers a.id
  rw [serve_eq, serve_eq]
  refine .bind (A := Eq) ?_ fun _ => .bind .currentFrontEnd fun hg =>
    .perform (Gic.parallel_finish ho hg ha)
  generalize g.handler? a = x at hcalled
  generalize g'.handler? a' = x' at hcalled
  cases hcalled with
  | none => exact .perform (Gic.parallel_reject ho hg ha hfit hfit')
  | some hh => exact hhandle hh ha

/-- The loops take the same interrupts, one after the other. -/
lemma parallel_dispatch (n : Nat) : Session.Parallel o o' twoStep Eq
    (Gic.dispatch (surroundings handle) n) (Gic.dispatch (surroundings handle') n) := by
  induction n with
  | zero => exact .perform (.fail _)
  | succ n ih =>
    rw [dispatch_succ, dispatch_succ]
    refine .bind .currentFrontEnd fun hg =>
      .bind (.perform (Gic.parallel_acknowledge ho hg)) fun {x x'} hx => ?_
    cases hx with
    | none => exact .pure rfl
    | some ha => exact .bind (parallel_serve ho hfit hfit' hhandle hg ha) fun _ => ih

end Dispatch

/-! ### Scripts -/

section Scripts

variable {o o' : Options} {twoStep : Bool} (ho : o.Twins o') (hfit : o.Fits) (hfit' : o'.Fits)
include ho hfit hfit'

/-- The induction is on how deep handlers may be nested. -/
lemma parallel_step (bound : Nat) {step step' : Step} (h : step.Alike step') :
    Session.Parallel o o' twoStep (fun r r' => r'.unsourced = r.unsourced) (step.perform bound)
      (step'.perform bound) := by
  induction bound generalizing step step' with
  | zero =>
    cases h with
    | op h => exact parallel_op ho hfit hfit' h
    | install id tag hrounds => exact parallel_installHandler id ⟨rfl, hrounds⟩
    | dispatch frame => exact fun w w' hw => ⟨.error _, hw⟩
  | succ n ih =>
    cases h with
    | op h => exact parallel_op ho hfit hfit' h
    | install id tag hrounds => exact parallel_installHandler id ⟨rfl, hrounds⟩
    | dispatch frame =>
      exact .silently (.bind .currentFrontEnd fun _ => parallel_dispatch ho hfit hfit'
        (fun hh ha => parallel_callHandler hh ha frame ih) (n + 1))

/-! ### Answers -/

omit ho hfit hfit' in
lemma map_unsourced {r r' : Except Failure Result}
    (h : Same (fun r r' : Result => r'.unsourced = r.unsourced) r r') :
    r'.map Result.unsourced = r.map Result.unsourced := by
  cases h with
  | ok h => exact congrArg Except.ok h
  | error e => rfl

omit ho hfit hfit' in
/-- One step, and what the world is then. -/
lemma answerOf_unsourced {x x' : Session Result}
    (hx : Session.Parallel o o' twoStep (fun r r' => r'.unsourced = r.unsourced) x x') {w w' : World}
    (hw : World.Twin o o' twoStep w w') :
    (answerOf x' w').1.unsourced = (answerOf x w).1.unsourced
      ∧ World.Twin o o' twoStep (answerOf x w).2 (answerOf x' w').2 := by
  have hfresh : World.Twin o o' twoStep { w with calls := #[], machine := w.machine.forget }
      { w' with calls := #[], machine := w'.machine.forget } :=
    ⟨hw.boards, hw.unfed, hw.subjects, rfl⟩
  obtain ⟨hr, hv⟩ := hx hfresh
  refine ⟨Prod.ext (map_unsourced hr) ?_, hv⟩
  · show (x' _).2.calls.toList.map Call.unsourced = (x _).2.calls.toList.map Call.unsourced
    rw [← Array.toList_map, ← Array.toList_map, hv.calls]

omit ho hfit hfit' in
/-- A step makes its own notes of calls. -/
lemma answersFrom_calls (l : List (Session Result)) (w : World) (calls : Array Call) :
    answersFrom l { w with calls := calls } = answersFrom l w := by
  cases l <;> rfl

/-- The induction is on the steps. -/
lemma answersFrom_unsourced (bound : Nat) {steps steps' : List Step}
    (hsteps : List.Forall₂ Step.Alike steps steps') {w w' : World}
    (hw : World.Twin o o' twoStep w w') :
    (answersFrom (steps'.map (Step.perform bound)) w').map Answer.unsourced
      = (answersFrom (steps.map (Step.perform bound)) w).map Answer.unsourced := by
  induction hsteps generalizing w w' with
  | nil => rfl
  | @cons step step' rest rest' hstep _ ih =>
    obtain ⟨ha, hv⟩ := answerOf_unsourced (parallel_step ho hfit hfit' bound hstep) hw
    simp only [List.map_cons, answersFrom]
    generalize answerOf (step.perform bound) w = y at ha hv
    generalize answerOf (step'.perform bound) w' = y' at ha hv
    have houtcome : y'.1.outcome.map Result.unsourced = y.1.outcome.map Result.unsourced :=
      congrArg Prod.fst ha
    rcases hr : y.1.outcome with e | r <;> rcases hr' : y'.1.outcome with e' | r' <;>
      rw [hr, hr'] at houtcome
    · simp only [List.map_cons, List.map_nil, ha]
    · exact absurd houtcome (by simp [Except.map])
    · exact absurd houtcome (by simp [Except.map])
    · simp only [List.map_cons, ha, ih hv]

end Scripts

/-- **Software cannot tell the generations apart.** A controller of each generation is brought up in
the same way. Then any script of the operations that both offer, with handlers that run such scripts
in turn, gets the same answers: the same results, the same calls of handlers in the same order, and
the same failure if one fails. Only who is said to have sent an SGI may differ. -/
theorem twins_answer_alike {o o' : Options} (ho : o.Twins o') (hfit : o.Fits) (hfit' : o'.Fits)
    {g g' : Gic Handler} (hg : g.engine = .fresh o) (hg' : g'.engine = .fresh o')
    (hmode : g'.twoStep = g.twoStep)
    (hhandlers : ∀ id, Option.Rel Handler.Alike (g.handlers.find? id) (g'.handlers.find? id))
    {first : Nat} {order : List Nat} (hfirst : first < o.cpus) (horder : order.Perm (List.range o.cpus))
    {steps steps' : List Step} (hsteps : List.Forall₂ Step.Alike steps steps') :
    ∃ g₁ s₁ g₁' s₁', g.bringUp (.reset o) first order = some (g₁, s₁)
      ∧ g'.bringUp (.reset o') first order = some (g₁', s₁')
      ∧ ∀ (bound : Nat) (w w' : World), w.subject = .frontEnd g₁ → w'.subject = .frontEnd g₁' →
        w.machine.board = .controller s₁ → w'.machine.board = .controller s₁' →
        w.machine.feeds = {} → w'.machine.feeds = {} →
          (answersFrom (steps'.map (Step.perform bound)) w').map Answer.unsourced
            = (answersFrom (steps.map (Step.perform bound)) w).map Answer.unsourced := by
  obtain ⟨s₁, hup, hstartable, hrenews⟩ := Gic.bringUp_of_perm hg
    (State.startable_reset fun hr => absurd (hr.symm.trans ho.banked) (by decide)) hfit hfirst horder
  obtain ⟨s₁', hup', hstartable', hrenews'⟩ := Gic.bringUp_of_perm hg'
    (State.startable_reset fun _ => ho.distinct) hfit' (ho.cpus ▸ hfirst) (ho.cpus ▸ horder)
  rw [hmode] at hrenews'
  have htwin : State.Twin o o' g.twoStep s₁ s₁' :=
    hrenews.twin ho hfit hfit' hstartable.sound hrenews' hstartable'.sound
  refine ⟨_, s₁, _, s₁', hup, hup', fun bound w w' hw hw' hb hb' hf hf' => ?_⟩
  have hworlds : World.Twin o o' g.twoStep { w with calls := #[] } { w' with calls := #[] } :=
    ⟨⟨s₁, s₁', hb, hb', htwin⟩, ⟨hf, hf'⟩, ⟨_, _, hw, hw', Engine.drives_running o,
      Engine.drives_running o', rfl, hmode, hhandlers⟩, rfl⟩
  rw [← answersFrom_calls _ w #[], ← answersFrom_calls _ w' #[]]
  exact answersFrom_unsourced ho hfit hfit' bound hsteps hworlds

/-- A device interrupts core 2, whose handler sends an SGI to its core and is called for it, too. Then
the SGI of another core is taken and completed, for which a sender may be given. -/
def deviceScript (sender : Option (BitVec 32)) : List Step :=
  [.op (.frontEnd (.configure ⟨.ofNat 40, .edge, 0x40, some ⟨2, 0, 0, 0⟩⟩)),
    .install (.ofNat 40) "device" [[.op (.frontEnd (.sendToCurrent (.ofNat 3)))]],
    .op (.hardware (.raise 40 0)), .op (.hardware (.setCurrent 2)),
    .op (.interrupt .frontEnd (.ofNat 3) (.setFlag .enabled true)), .dispatch 7,
    .op (.hardware (.raise 3 2)), .op (.interface .frontEnd (.acknowledge default)),
    .op (.interface .frontEnd (.complete ⟨.ofNat 3, sender⟩))]

theorem twins_answer_alike_device :
    let o' := { Options.routed with lines := 2 }
    let g : Gic Handler := ⟨.v2, .fresh .banked, false, .empty⟩
    let g' : Gic Handler := ⟨.v3, .fresh o', false, .empty⟩
    Options.Twins .banked o' ∧ ∃ g₁ s₁ g₁' s₁',
      g.bringUp (.reset .banked) 0 [1, 0, 2, 3] = some (g₁, s₁)
        ∧ g'.bringUp (.reset o') 0 [1, 0, 2, 3] = some (g₁', s₁')
        ∧ (answersFrom ((deviceScript none).map (Step.perform dispatchBound))
            { machine := { board := .controller s₁' }, subject := .frontEnd g₁' }).map Answer.unsourced
          = (answersFrom ((deviceScript (some 2)).map (Step.perform dispatchBound))
            { machine := { board := .controller s₁ }, subject := .frontEnd g₁ }).map Answer.unsourced := by
  intro o' g g'
  have ho : Options.Twins .banked o' :=
    ⟨by decide, by decide, by decide, by decide, by decide, by decide, by decide, by decide, by decide⟩
  have hnobody (id : IntId) : (Handlers.empty : Handlers Handler).find? id = none := by
    rw [Handlers.find?]
    cases Handlers.slot? id <;> simp [Handlers.empty]
  have hround : List.Forall₂ (List.Forall₂ Step.Alike)
      [[.op (.frontEnd (.sendToCurrent (.ofNat 3)))]] [[.op (.frontEnd (.sendToCurrent (.ofNat 3)))]] :=
    .cons (.cons (.op (.common trivial)) .nil) .nil
  have hsteps : List.Forall₂ Step.Alike (deviceScript (some 2)) (deviceScript none) :=
    .cons (.op (.common ⟨_, rfl, by decide⟩)) (.cons (.install _ _ hround)
      (.cons (.op (.common trivial)) (.cons (.op (.common trivial)) (.cons (.op (.common trivial))
      (.cons (.dispatch 7) (.cons (.op (.common trivial)) (.cons (.op (.common trivial))
      (.cons (.op (.complete ⟨rfl, by decide⟩)) .nil))))))))
  have hg : g.engine = .fresh .banked := rfl
  have hg' : g'.engine = .fresh o' := rfl
  obtain ⟨g₁, s₁, g₁', s₁', hup, hup', halike⟩ := twins_answer_alike ho
    ⟨by decide, by decide, by decide, by decide⟩ ⟨by decide, by decide, by decide, by decide⟩ hg hg' rfl
    (fun id => by rw [hnobody]; exact .none) (show 0 < 4 by decide)
    (show [1, 0, 2, 3].Perm (List.range 4) by decide) hsteps
  exact ⟨ho, g₁, s₁, g₁', s₁', hup, hup', halike _ _ _ rfl rfl rfl rfl rfl rfl⟩

end Script

end InterruptControl
