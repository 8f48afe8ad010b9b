import InterruptControl.Proofs.Gic.Dispatch

/-!
Dispatching with handlers that may do anything but complete interrupts and bring up the
controller. They may dispatch in turn, and take interrupts again that they were called for.

Whatever they do, each interrupt that is taken is completed, the last one first, and the
cores run afterwards what they ran before.
-/

namespace InterruptControl

open Bus Hardware Program Script

/-- The controller objects to how an interrupt is completed. -/
def Fault.ofCompletion : Fault → Bool
  | endOfSpecial _ | endOfIdle _ | deactivateSpecial _ | deactivateLpi _ => true
  | _ => false

namespace Bus

/-- Every interrupt that is taken is completed, and in between the same holds of others. -/
inductive Balanced (closing : Nat → List Completion) : List Completion → Prop
  | nil : Balanced closing []
  | cons (id : Nat) {v w : List Completion} (hv : Balanced closing v) (hw : Balanced closing w) :
    Balanced closing (.taken id :: (v ++ closing id ++ w))

lemma Balanced.append {closing : Nat → List Completion} {v w : List Completion}
    (hv : Balanced closing v) (hw : Balanced closing w) : Balanced closing (v ++ w) := by
  induction hv with
  | nil => exact hw
  | cons id hu _ _ ih =>
    have := Balanced.cons id hu ih
    simpa only [List.cons_append, List.append_assoc] using this

end Bus

/-! ### The controller -/

namespace Hardware.State

variable {o : Options} {s t u : State}

/-- The current core has no LPI whose number is too large for its CPU interface. -/
structure Serviceable (o : Options) (s : State) : Prop where
  sound : s.Sound o
  core : ∃ c, s.cores[s.current]? = some c ∧ ∀ n ∈ c.lpis.map Prod.fst, n < 0x1000000

lemma Serviceable.of_agree {α : Type} {P : Core → α} (h : s.Serviceable o) (ht : t.Sound o)
    (ha : Agree P s t) (hP : ∀ c c', P c = P c' → c.lpis.map Prod.fst = c'.lpis.map Prod.fst) :
    t.Serviceable o := by
  obtain ⟨c, hc, hlpis⟩ := h.core
  obtain ⟨c', hc', he⟩ := ha.symm.exists_core (ha.current ▸ hc)
  exact ⟨ht, c', hc', hP c' c he ▸ hlpis⟩

lemma Serviceable.of_wired (h : s.Serviceable o) (ha : Agree Core.wired s t) : t.Serviceable o :=
  h.of_agree (h.sound.of_agree (ha.mono fun _ _ => Core.kept_of_wired)) ha
    fun _ _ he => (congrArg Core.Wired.lpis he :)

lemma Serviceable.modifyCore (h : s.Serviceable o) {cpu : Nat} {f : Core → Core}
    (ht : (s.modifyCore cpu f).Sound o)
    (hf : ∀ c, (∀ n ∈ c.lpis.map Prod.fst, n < 0x1000000) →
      ∀ n ∈ (f c).lpis.map Prod.fst, n < 0x1000000) : (s.modifyCore cpu f).Serviceable o := by
  obtain ⟨c, hc, hlpis⟩ := h.core
  have hcore := getElem?_modifyCore s cpu f s.current
  rw [hc] at hcore
  by_cases hcpu : s.current = cpu
  · rw [if_pos hcpu] at hcore
    exact ⟨ht, f c, hcore, hf c hlpis⟩
  · rw [if_neg hcpu] at hcore
    exact ⟨ht, c, hcore, hlpis⟩

lemma running_of_bare (h : t.bare = s.bare) : Agree Core.running s t :=
  (Agree.of_bare h).mono fun _ _ he => (congrArg Core.running he :)

/-- Completing what was taken last leaves the cores with what they ran before it was taken. -/
lemma agree_finished {cpu : Nat} {e : Nat × Priority} (h : Agree Core.running (s.take cpu e) u)
    (hardware software : Bool) : Agree Core.running s (u.finished cpu e.1 hardware software) := by
  have hirq : Agree Core.running s (s.modifyIrq e.1 cpu fun q =>
      { q with pending := false, active := q.active || decide (e.1 < 8192) }) :=
    running_of_bare (bare_modifyIrq ..)
  have hdrop : Agree Core.running s (u.dropPriority cpu e.1) := by
    refine ⟨h.options.trans hirq.options, h.current.trans hirq.current, ?_⟩
    refine Array.ext_getElem? fun i => ?_
    have hi := congrArg (·[i]?) h.cores
    have hi' := congrArg (·[i]?) hirq.cores
    simp only [Array.getElem?_map, take, dropPriority, getElem?_modifyCore] at hi hi' ⊢
    rw [← hi']
    rcases eq_or_ne i cpu with rfl | hne
    · -- what was put on top of the rest is the first one with its number
      rw [if_pos rfl] at hi ⊢
      rw [Option.map_map] at hi ⊢
      have herase := congrArg (Option.map fun l : List Running => l.eraseP (·.id == e.1)) hi
      simpa [Option.map_map, Function.comp_def] using herase
    · rw [if_neg hne] at hi ⊢
      exact hi
  exact hdrop.trans (running_of_bare (bare_finished ..))

/-- Completing an interrupt changes nothing else about a core. -/
lemma wired_finished (s : State) (cpu id : Nat) (hardware software : Bool) :
    Agree Core.wired s (s.finished cpu id hardware software) := by
  have hdrop : Agree Core.wired s (s.dropPriority cpu id) := .modifyCore s cpu fun _ => rfl
  exact hdrop.trans (wired_of_bare _ (bare_finished ..))

/-! ### Interrupts that are raised -/

section Raise

variable {id cpu : Nat} {p : Priority} {f : Fault}

lemma agree_raise (h : s.Serviceable o) (ht : s.raise id cpu = .ok t) :
    t.Serviceable o ∧ Agree Core.running s t := by
  unfold raise at ht
  split at ht
  · obtain rfl := Except.ok.inj ht
    have hbare : (s.modifyIrq id cpu fun q => { q with pending := true }).bare = s.bare :=
      bare_modifyIrq ..
    exact ⟨h.of_wired (wired_of_bare s hbare), running_of_bare hbare⟩
  · simp at ht

lemma ofCompletion_of_raise (h : s.raise id cpu = .error (.fault f)) : f.ofCompletion = false := by
  unfold raise at h
  split at h
  · simp at h
  · obtain rfl := Failure.fault.inj (Except.error.inj h)
    rfl

lemma agree_raiseLpi (h : s.Serviceable o) (hid : id < 0x1000000)
    (ht : s.raiseLpi id p cpu = .ok t) : t.Serviceable o ∧ Agree Core.running s t := by
  have hsound := h.sound.after (.raiseLpi id p cpu)
  rw [after, ht] at hsound
  unfold raiseLpi at ht
  split at ht
  · obtain rfl := Except.ok.inj ht
    refine ⟨h.modifyCore hsound fun c hc n hn => ?_, .modifyCore s cpu fun _ => rfl⟩
    rcases fst_mem_insertEntry hn with rfl | hn
    · exact hid
    · exact hc n hn
  · simp at ht

lemma ofCompletion_of_raiseLpi (h : s.raiseLpi id p cpu = .error (.fault f)) :
    f.ofCompletion = false := by
  unfold raiseLpi at h
  split at h
  · simp at h
  · obtain rfl := Failure.fault.inj (Except.error.inj h)
    rfl

end Raise

end Hardware.State

namespace Script

/-! ### Sessions that keep order -/

variable {o : Options} {g₀ : Gic Handler} {kind : Handler → Prop}

/-- The world has a controller that traces, and the front end that drives it, whose handlers are
all of the kind. -/
structure Ready (o : Options) (g₀ : Gic Handler) (kind : Handler → Prop) (w : World) (s : State) :
    Prop where
  serviceable : s.Serviceable o
  holds : w.machine.Holds s
  subject : ∃ g, w.subject = .frontEnd g ∧ g.engine = g₀.engine ∧ g.twoStep = g₀.twoStep
    ∧ g.Staffed kind

/-- From one world to the other the cores came to run the same again, and each interrupt that was
taken was completed. -/
structure Settled (o : Options) (g₀ : Gic Handler) (kind : Handler → Prop) (w : World) (s : State)
    (w' : World) (t : State) : Prop where
  ready : Ready o g₀ kind w' t
  running : State.Agree Core.running s t
  trace : ∃ v, w'.machine.completions = w.machine.completions ++ v ∧ Balanced g₀.closing v

lemma Settled.refl {w : World} {s : State} (h : Ready o g₀ kind w s) :
    Settled o g₀ kind w s w s :=
  ⟨h, .refl s, [], (List.append_nil _).symm, .nil⟩

lemma Settled.trans {w w' w'' : World} {s t u : State} (h : Settled o g₀ kind w s w' t)
    (h' : Settled o g₀ kind w' t w'' u) : Settled o g₀ kind w s w'' u := by
  obtain ⟨v, hv, hbalanced⟩ := h.trace
  obtain ⟨v', hv', hbalanced'⟩ := h'.trace
  refine ⟨h'.ready, h.running.trans h'.running, v ++ v', ?_, hbalanced.append hbalanced'⟩
  rw [hv', hv, List.append_assoc]

/-- What comes out is settled, or else a failure that is not about completing interrupts. -/
def Settles (o : Options) (g₀ : Gic Handler) (kind : Handler → Prop) (w : World) (s : State)
    {α : Type} : Except Failure α × World → Prop
  | (.ok _, w') => ∃ t, Settled o g₀ kind w s w' t
  | (.error e, _) => ∀ f, e = .fault f → f.ofCompletion = false

/-- What goes on after a part that settles may make up for where that part began. -/
lemma Settles.bind {α β : Type} {x : Session α} {f : α → Session β} {w w₁ w₂ : World}
    {s s₂ : State} (hx : Settles o g₀ kind w s (x w₁))
    (hf : ∀ a w' t, Settled o g₀ kind w s w' t → Settles o g₀ kind w₂ s₂ (f a w')) :
    Settles o g₀ kind w₂ s₂ ((x >>= f) w₁) := by
  rw [Session.bind_apply]
  rcases hr : x w₁ with ⟨e | a, w'⟩ <;> rw [hr] at hx
  · exact hx
  · obtain ⟨t, ht⟩ := hx
    exact hf a w' t ht

lemma Settled.settles {α : Type} {w w₁ : World} {s s₁ : State} (h : Settled o g₀ kind w s w₁ s₁)
    {r : Except Failure α × World} (hr : Settles o g₀ kind w₁ s₁ r) : Settles o g₀ kind w s r := by
  rcases r with ⟨e | a, w'⟩
  · exact hr
  · obtain ⟨t, ht⟩ := hr
    exact ⟨t, h.trans ht⟩

/-- The session settles wherever it begins. -/
def Orderly (o : Options) (g₀ : Gic Handler) (kind : Handler → Prop) {α : Type} (x : Session α) :
    Prop :=
  ∀ ⦃w : World⦄ ⦃s : State⦄, Ready o g₀ kind w s → Settles o g₀ kind w s (x w)

namespace Orderly

variable {α β : Type} {x : Session α} {f : α → Session β}

lemma pure (a : α) : Orderly o g₀ kind (Pure.pure a : Session α) :=
  fun _ s h => ⟨s, .refl h⟩

lemma throw {e : Failure} (he : ∀ f, e ≠ .fault f) :
    Orderly o g₀ kind (MonadExcept.throw e : Session α) :=
  fun _ _ _ f hf => absurd hf (he f)

lemma bind (hx : Orderly o g₀ kind x) (hf : ∀ a, Orderly o g₀ kind (f a)) :
    Orderly o g₀ kind (x >>= f) :=
  fun _ _ h => (hx h).bind fun a _ _ ht => ht.settles (hf a ht.ready)

/-- What goes on with the front end. -/
lemma frontEnd {f : Gic Handler → Session β}
    (hf : ∀ g, g.engine = g₀.engine → g.twoStep = g₀.twoStep → g.Staffed kind →
      Orderly o g₀ kind (f g)) : Orderly o g₀ kind (Session.currentFrontEnd >>= f) := by
  intro w s h
  obtain ⟨g, hw, hengine, htwo, hstaffed⟩ := h.subject
  rw [Session.bind_ok (Session.currentFrontEnd_eq hw)]
  exact hf g hengine htwo hstaffed h

/-- A change of the world that nothing depends on. -/
lemma modifyWorld {f : World → World}
    (hf : ∀ w, (f w).machine = w.machine ∧ (f w).subject = w.subject) :
    Orderly o g₀ kind (modify f : Session Unit) := by
  intro w s h
  obtain ⟨hmachine, hsubject⟩ := hf w
  have hready : Ready o g₀ kind (f w) s :=
    ⟨h.serviceable, hmachine ▸ h.holds, hsubject ▸ h.subject⟩
  exact ⟨s, hready, .refl s, [], by rw [hmachine, List.append_nil], .nil⟩

/-- A call that neither takes nor completes interrupts. -/
lemma perform {p : Program α} (hp : p.Within (Quiet o.isRouted)) :
    Orderly o g₀ kind (Session.perform p) := by
  intro w s h
  obtain ⟨r, t, hruns, hsound, hagree, hfault⟩ := Runs.exists_of_quiet hp h.serviceable.sound
  obtain ⟨m, hperform, hm, hv⟩ := Session.perform_runs hruns h.holds
  rw [hperform]
  rcases r with e | a
  · exact fun f hf => absurd (congrArg _ hf) (hfault f)
  · have hready : Ready o g₀ kind (w.withMachine m) t :=
      ⟨h.serviceable.of_agree hsound hagree fun _ _ he => (Prod.mk.inj he).2, hm, h.subject⟩
    exact ⟨t, hready, hagree.mono fun _ _ he => (Prod.mk.inj he).1, [], hv, .nil⟩

lemma setSubject {g : Gic Handler} (hengine : g.engine = g₀.engine)
    (htwo : g.twoStep = g₀.twoStep) (hstaffed : g.Staffed kind) :
    Orderly o g₀ kind (Session.setSubject (.frontEnd g)) := by
  intro w s h
  have hready : Ready o g₀ kind { w with subject := .frontEnd g } s :=
    ⟨h.serviceable, h.holds, g, rfl, hengine, htwo, hstaffed⟩
  exact ⟨s, hready, .refl s, [], (List.append_nil _).symm, .nil⟩

/-- A handler of the kind is installed, or none. -/
lemma install {g : Gic Handler} (hengine : g.engine = g₀.engine) (htwo : g.twoStep = g₀.twoStep)
    (hstaffed : g.Staffed kind) (id : IntId) {h : Option Handler} (hh : ∀ h' ∈ h, kind h') :
    Orderly o g₀ kind
      (ofExcept (g.install id h) >>= fun g => Session.setSubject (.frontEnd g)) := by
  intro w s hw
  rcases hinstall : g.install id h with e | g'
  · rw [Session.bind_error (show (ofExcept (.error e) : Session (Gic Handler)) w = (.error e, w)
      from rfl)]
    rintro f rfl
    rw [Gic.install] at hinstall
    split at hinstall <;> simp at hinstall
  · obtain ⟨hengine', htwo', hstaffed'⟩ := hstaffed.install hinstall hh
    rw [Session.bind_ok (show (ofExcept (.ok g') : Session (Gic Handler)) w = (.ok g', w) from rfl)]
    exact setSubject (hengine'.trans hengine) (htwo'.trans htwo) hstaffed' hw

/-- Something happens to the controller that has nothing to do with what the cores run. -/
lemma happen {f : State → Except Failure State}
    (hok : ∀ s t, s.Serviceable o → f s = .ok t →
      t.Serviceable o ∧ State.Agree Core.running s t)
    (herror : ∀ s f', f s = .error (.fault f') → f'.ofCompletion = false) :
    Orderly o g₀ kind (Script.happen f) := by
  refine bind (fun w s h => ?_) fun _ => .pure _
  rw [happen_apply h.holds.board]
  rcases hf : f s with e | t
  · rintro f' rfl
    exact herror s f' hf
  · obtain ⟨hserviceable, hrunning⟩ := hok s t h.serviceable hf
    have hready : Ready o g₀ kind
        (w.withMachine { w.machine with board := .controller t }) t :=
      ⟨hserviceable, ⟨rfl, h.holds.unfed, h.holds.tracing⟩, h.subject⟩
    exact ⟨t, hready, hrunning, [], (List.append_nil _).symm, .nil⟩

/-! ### The loop -/

section Loop

variable {handle : Handler → Ack → Session Unit} (hg₀ : g₀.engine.Fronts o)
  (hhandle : ∀ h, kind h → ∀ a, Orderly o g₀ kind (handle h a))
include hg₀ hhandle

/-- The interrupt that was just taken is the first one to be completed. -/
lemma serve {w : World} {s : State} {g : Gic Handler} {m : Machine} {e : Nat × Priority}
    (h : Ready o g₀ kind w s) (hengine : g.engine = g₀.engine)
    (hstaffed : g.Staffed kind) (hn : s.next? s.current = some e)
    (hm : m.Holds (s.take s.current e))
    (hv : m.completions = w.machine.completions ++ [.taken e.1]) :
    Settles o g₀ kind w s
      (Gic.serve (surroundings handle) g (s.ack e.1) (w.withMachine m)) := by
  obtain ⟨c, hc, hlpis⟩ := h.serviceable.core
  obtain ⟨hnumber, hbound, hspecial⟩ :=
    State.ack_of_next? h.serviceable.sound hc hlpis hn
  have hready : Ready o g₀ kind (w.withMachine m) (s.take s.current e) :=
    ⟨h.serviceable.of_wired (State.agree_take ..), hm, h.subject⟩
  rw [serve_eq]
  refine Settles.bind (w := w.withMachine m) (s := s.take s.current e) ?handler fun _ w' u hu => ?_
  case handler =>
    rcases hh : g.handler? (s.ack e.1) with _ | h'
    · exact perform (Gic.reject_within (hengine ▸ hg₀) _) hready
    · exact hhandle h' (hstaffed _ _ (of_handler? hh).2) _ hready
  obtain ⟨g', hw', hengine', htwo', hstaffed'⟩ := hu.ready.subject
  obtain ⟨v, htrace, hbalanced⟩ := hu.trace
  -- whatever the handler did, the interrupt is on top of what the core runs again
  obtain ⟨c₁, hc₁, hrunning⟩ := State.running_of_take (s := s) (e := e) rfl hc
  obtain ⟨c₂, hc₂, he⟩ := hu.running.symm.exists_core hc₁
  have hcurrent : u.current = s.current :=
    hu.running.current.trans (State.idle_take s s.current e).current
  have hfinish := Gic.runs_finish (a := s.ack e.1) (hengine'.symm ▸ hg₀) hu.ready.serviceable.sound
    (hcurrent ▸ hc₂) (by rw [hnumber]; exact hbound) hspecial (he.trans hrunning) hnumber.symm
  obtain ⟨m', hperform, hm', hv'⟩ := Session.perform_runs hfinish hu.ready.holds
  rw [Session.bind_ok (Session.currentFrontEnd_eq hw'), hperform]
  rw [hnumber, hcurrent] at hm'
  have hready' : Ready o g₀ kind (w'.withMachine m') _ :=
    ⟨hu.ready.serviceable.of_wired (State.wired_finished ..), hm', g', hw', hengine', htwo', hstaffed'⟩
  refine ⟨_, hready', State.agree_finished hu.running _ _, _, ?_, .cons e.1 hbalanced .nil⟩
  rw [World.machine_withMachine, hv', htrace, World.machine_withMachine, hv, hnumber,
    Gic.closing_congr htwo']
  simp

/-- However often the loop goes round. -/
lemma dispatch (n : Nat) : Orderly o g₀ kind (Gic.dispatch (surroundings handle) n) := by
  induction n with
  | zero => exact perform (.fail (by simp))
  | succ n ih =>
    intro w s h
    obtain ⟨g, hw, hengine, htwo, hstaffed⟩ := h.subject
    obtain ⟨c, hc, hlpis⟩ := h.serviceable.core
    have hacknowledge := Gic.runs_acknowledge (hengine ▸ hg₀) h.serviceable.sound hc hlpis
    obtain ⟨m, hperform, hm, hv⟩ := Session.perform_runs hacknowledge h.holds
    rw [dispatch_succ, Session.bind_ok (Session.currentFrontEnd_eq hw), Session.bind_ok hperform]
    rcases hn : s.next? s.current with _ | e
    · rw [State.taken, hn] at hm
      rw [hn] at hv
      exact ⟨s, ⟨h.serviceable, hm, h.subject⟩, .refl s, [], hv, .nil⟩
    · rw [State.taken, hn] at hm
      rw [hn] at hv
      have hserve := serve hg₀ hhandle h hengine hstaffed hn hm hv
      exact hserve.bind fun _ _ _ ht => ht.settles (ih ht.ready)

end Loop

end Orderly

/-! ### Handlers -/

/-- A call of the front end that neither brings up the controller nor completes interrupts, or
an interrupt that is raised. -/
inductive Op.Tame : Op → Prop
  | setFlag (id : IntId) (f : Flag) (v : Bool) : Tame (.interrupt .frontEnd id (.setFlag f v))
  | hasFlag (id : IntId) (f : Flag) : Tame (.interrupt .frontEnd id (.hasFlag f))
  | setPriority (id : IntId) (p : Priority) : Tame (.interrupt .frontEnd id (.setPriority p))
  | priority (id : IntId) : Tame (.interrupt .frontEnd id .priority)
  | setTrigger (id : IntId) (t : Trigger) : Tame (.interrupt .frontEnd id (.setTrigger t))
  | trigger (id : IntId) : Tame (.interrupt .frontEnd id .trigger)
  | setPriorityMask (mask : Priority) : Tame (.interface .frontEnd (.setPriorityMask mask))
  | priorityMask : Tame (.interface .frontEnd .priorityMask)
  | frontEnd {op : FrontEndOp} (h : op ∉ [.start, .startCore, .banked, .routed]) :
    Tame (.frontEnd op)
  | raise (id cpu : Nat) : Tame (.hardware (.raise id cpu))
  | raiseLpi {id : Nat} (h : id < 0x1000000) (p : Priority) (cpu : Nat) :
    Tame (.hardware (.raiseLpi id p cpu))

/-- Of such operations only. -/
abbrev Step.Tame (step : Step) : Prop := step.Only Op.Tame

abbrev Handler.Tame (h : Handler) : Prop := h.Only Op.Tame

section Tame

variable (hg₀ : g₀.engine.Fronts o)
include hg₀

/-- The result of a call of the front end is reported. -/
lemma Orderly.ask {α : Type} {p : Gic Handler → Program α} (f : α → Result)
    (hp : ∀ g : Gic Handler, g.engine.Fronts o → (p g).Within (Quiet o.isRouted)) :
    Orderly o g₀ kind (Session.currentFrontEnd >>= fun g => Script.ask (p g) f) :=
  .frontEnd fun g hengine _ _ => .bind (.perform (hp g (hengine ▸ hg₀))) fun _ => .pure _

lemma FrontEndOp.orderly {op : FrontEndOp} (h : op ∉ [.start, .startCore, .banked, .routed]) :
    Orderly o g₀ kind (Op.frontEnd op).perform := by
  have hpure (f : Gic Handler → Result) : Orderly o g₀ kind
      (Session.currentFrontEnd >>= fun g => (Pure.pure (f g) : Session Result)) :=
    .frontEnd fun _ _ _ _ => .pure _
  cases op with
  | start => simp at h
  | startCore => simp at h
  | name => exact .ask hg₀ _ fun _ => Gic.name_within
  | version => exact hpure _
  | completion => exact hpure _
  | isStarted => exact hpure _
  | mask id => exact .ask hg₀ _ fun _ hg => Gic.setFlag_within hg ..
  | unmask id => exact .ask hg₀ _ fun _ hg => Gic.setFlag_within hg ..
  | configure c => exact .ask hg₀ _ fun _ hg => Gic.configure_within hg c
  | routeTo id a => exact .ask hg₀ _ fun _ hg => Gic.routeTo_within hg ..
  | routeToAny id => exact .ask hg₀ _ fun _ hg => Gic.routeToAny_within hg id
  | sendToCurrent id => exact .ask hg₀ _ fun _ hg => Gic.sendToCurrent_within hg id
  | sendToAllOther id => exact .ask hg₀ _ fun _ hg => Gic.sendToAllOther_within hg id
  | sendToSet id l => exact .ask hg₀ _ fun _ hg => Gic.sendToSet_within hg ..
  | sendToCluster id l => exact .ask hg₀ _ fun _ hg => Gic.sendToCluster_within hg ..
  | banked => simp at h
  | routed => simp at h
  | uninstall id =>
    exact .frontEnd fun g hengine htwo hstaffed =>
      .bind (.install hengine htwo hstaffed id (by simp)) fun _ => .pure _

lemma Op.Tame.orderly {op : Op} (h : op.Tame) : Orderly o g₀ kind op.perform := by
  cases h with
  | setFlag id f v =>
    rw [Op.perform_interrupt]
    exact .ask hg₀ _ fun _ hg => Gic.setFlag_within hg ..
  | hasFlag id f =>
    rw [Op.perform_interrupt]
    exact .ask hg₀ _ fun _ hg => Gic.hasFlag_within hg ..
  | setPriority id p =>
    rw [Op.perform_interrupt]
    exact .ask hg₀ _ fun _ hg => Gic.setPriority_within hg ..
  | priority id =>
    rw [Op.perform_interrupt]
    exact .ask hg₀ _ fun _ hg => Gic.priority_within hg id
  | setTrigger id t =>
    rw [Op.perform_interrupt]
    exact .ask hg₀ _ fun _ hg => Gic.setTrigger_within hg ..
  | trigger id =>
    rw [Op.perform_interrupt]
    exact .ask hg₀ _ fun _ hg => Gic.trigger_within hg id
  | setPriorityMask mask =>
    rw [Op.perform_interface]
    exact .ask hg₀ _ fun _ hg => Gic.setPriorityMask_within hg mask
  | priorityMask =>
    rw [Op.perform_interface]
    exact .ask hg₀ _ fun _ hg => Gic.priorityMask_within hg
  | frontEnd h => exact FrontEndOp.orderly hg₀ h
  | raise id cpu =>
    refine Orderly.happen (f := (·.raise id cpu)) (fun _ _ => State.agree_raise) ?_
    exact fun _ _ => State.ofCompletion_of_raise
  | @raiseLpi id h p cpu =>
    refine Orderly.happen (f := (·.raiseLpi id p cpu)) (fun _ _ hs => State.agree_raiseLpi hs h) ?_
    exact fun _ _ => State.ofCompletion_of_raiseLpi

omit hg₀ in
/-- A tame handler goes through its rounds one by one, and the rest of it is tame. -/
lemma Handler.Tame.orderly {perform : Step → Session Result} (frame : Nat)
    (hperform : ∀ step : Step, step.Tame → Orderly o g₀ Handler.Tame (perform step)) {h : Handler}
    (hh : h.Tame) (a : Ack) : Orderly o g₀ Handler.Tame (callHandler perform frame h a) := by
  have hround {round : List Step} (htame : ∀ step ∈ round, step.Tame) (place : Nat) :
      Orderly o g₀ Handler.Tame
        (round.forM fun step => perform step >>= fun r => addAct place r) := by
    induction round with
    | nil => exact .pure _
    | cons step rest ih =>
      have hadd (r : Result) : Orderly o g₀ Handler.Tame (addAct place r) :=
        .modifyWorld fun _ => ⟨rfl, rfl⟩
      exact .bind (.bind (hperform step (htame _ (.head _))) hadd) fun _ =>
        ih fun step hstep => htame step (.tail _ hstep)
  rcases h with ⟨tag, _ | ⟨round, rest⟩⟩
  · exact Orderly.modifyWorld (f := fun w => { w with calls := w.calls.push ⟨tag, a, frame, []⟩ })
      fun _ => ⟨rfl, rfl⟩
  · have hrest : Handler.Tame ⟨tag, rest⟩ := fun round' hround' => hh round' (.tail _ hround')
    have hinstall : Orderly o g₀ Handler.Tame (Session.currentFrontEnd >>= fun g =>
        ofExcept (g.install a.id (some ⟨tag, rest⟩)) >>= fun g => Session.setSubject (.frontEnd g)) :=
      .frontEnd fun g hengine htwo hstaffed => .install hengine htwo hstaffed _ (by simpa using hrest)
    have hnote : Orderly o g₀ Handler.Tame (modify fun w : World =>
        { w with calls := w.calls.push ⟨tag, a, frame, []⟩ }) := .modifyWorld fun _ => ⟨rfl, rfl⟩
    rw [callHandler_cons]
    exact .bind (fun w s hw => ⟨s, .refl hw⟩) fun w => hnote.bind fun _ => hinstall.bind fun _ =>
      hround (hh _ (.head _)) _

/-- The induction is on the number of rounds that are left to a loop. -/
lemma Step.Tame.orderly (bound : Nat) {step : Step} (h : step.Tame) :
    Orderly o g₀ Handler.Tame (Step.perform bound step) := by
  have hinstall (id : IntId) (tag : String) {rounds : List (List Step)}
      (h : ∀ round ∈ rounds, ∀ step ∈ round, step.Tame) :
      Orderly o g₀ Handler.Tame (silently (installHandler id ⟨tag, rounds⟩)) := by
    have hh : Handler.Tame ⟨tag, rounds⟩ := h
    exact .bind (.frontEnd fun g hengine htwo hstaffed =>
      .install hengine htwo hstaffed id (by simpa using hh)) fun _ => .pure _
  induction bound generalizing step with
  | zero =>
    cases h with
    | op h => exact h.orderly hg₀
    | install id tag h => exact hinstall id tag h
    | dispatch frame => exact .throw (by simp)
  | succ bound ih =>
    cases h with
    | op h => exact h.orderly hg₀
    | install id tag h => exact hinstall id tag h
    | dispatch frame =>
      refine .bind (.frontEnd fun _ _ _ _ => ?_) fun _ => .pure _
      exact .dispatch hg₀ (fun h hh a => Handler.Tame.orderly frame (fun step => ih) hh a) _

end Tame

end Script

/-- **Dispatching is balanced.** Its handlers may do whatever else they like: when it returns,
the cores run what they ran before, and each interrupt that was taken since was completed, in
the order of brackets. It never completes an interrupt that it must not complete. -/
theorem dispatch_balanced {o : Options} {s : State} (hs : Reachable o s) {g : Gic Handler}
    (hg : g.engine.Fronts o) {c : Core} (hc : s.cores[s.current]? = some c)
    (hlpis : ∀ n ∈ c.lpis.map Prod.fst, n < 0x1000000) (htame : g.Staffed Handler.Tame)
    {w : World} (hw : w.subject = .frontEnd g) (hm : w.machine.Holds s) (bound frame : Nat) :
    (∀ r w', Step.perform bound (.dispatch frame) w = (.ok r, w') →
      ∃ t v, w'.machine.Holds t ∧ State.Agree Core.running s t
        ∧ w'.machine.completions = w.machine.completions ++ v ∧ Balanced g.closing v)
    ∧ ∀ f w', Step.perform bound (.dispatch frame) w = (.error (.fault f), w') →
      f.ofCompletion = false := by
  have hready : Ready o g Handler.Tame w s :=
    ⟨⟨hs.sound, c, hc, hlpis⟩, hm, g, hw, rfl, rfl, htame⟩
  have hsettles := Step.Tame.orderly hg bound (.dispatch frame) hready
  refine ⟨fun r w' h => ?_, fun f w' h => ?_⟩ <;> rw [h] at hsettles
  · obtain ⟨t, ht⟩ := hsettles
    obtain ⟨v, hv, hbalanced⟩ := ht.trace
    exact ⟨t, v, ht.ready.holds, ht.running, hv, hbalanced⟩
  · exact hsettles f rfl

/-- A handler that makes its interrupt inactive, raises it again with more urgency and waits until
it is served. -/
def Script.Handler.restless : Handler where
  tag := "restless"
  rounds := [[.op (.interrupt .frontEnd (.ofNat 27) (.setFlag .active false)),
    .op (.interrupt .frontEnd (.ofNat 27) (.setPriority 0x40)), .op (.hardware (.raise 27 0)),
    .dispatch 1]]

lemma Script.Handler.tame_restless : Handler.restless.Tame := by
  simp only [Handler.Tame, Handler.Only, Handler.restless, List.forall_mem_cons,
    List.not_mem_nil, false_implies, implies_true, and_true]
  exact ⟨.op (.setFlag ..), .op (.setPriority ..), .op (.raise ..), .dispatch 1⟩

set_option maxRecDepth 100000 in
/-- The handler of the timer is restless. -/
theorem dispatch_balanced_of_restless :
    ∃ g w, Gic.unstaffed.install (.ofNat 27) (some Handler.restless) = .ok g
      ∧ w.subject = .frontEnd g ∧ w.machine.Holds State.ringing
      ∧ ∀ r w', Step.perform dispatchBound (.dispatch 0) w = (.ok r, w') → ∃ t v,
        w'.machine.Holds t ∧ State.Agree Core.running State.ringing t
          ∧ w'.machine.completions = w.machine.completions ++ v ∧ Balanced g.closing v := by
  have hcore : State.ringing.cores[State.ringing.current]?.map Core.lpis = some [] := by
    decide +kernel
  obtain ⟨c, hc, hlpis⟩ := Option.map_eq_some_iff.mp hcore
  have hnobody : Gic.unstaffed.Staffed Handler.Tame := by
    intro id h hfind
    simp [Gic.unstaffed, Handlers.find?, Handlers.empty] at hfind
  rcases hinstall : Gic.unstaffed.install (.ofNat 27) (some Handler.restless) with e | g
  · have hslot : Handlers.slot? (.ofNat 27) = some ⟨27, by decide⟩ := by decide
    simp [Gic.install, Handlers.replace?, hslot] at hinstall
  obtain ⟨hengine, -, htame⟩ := hnobody.install hinstall (by simp [Handler.tame_restless])
  have hg : g.engine.Fronts .banked := hengine ▸ .banked rfl 0 true
  have hbalanced := dispatch_balanced State.reachable_ringing hg hc (by rw [hlpis]; simp) htame
    (w := { machine := { board := .controller State.ringing, tracing := true },
            subject := .frontEnd g }) rfl ⟨rfl, rfl, rfl⟩ dispatchBound 0
  exact ⟨g, _, rfl, rfl, ⟨rfl, rfl, rfl⟩, hbalanced.1⟩

end InterruptControl
