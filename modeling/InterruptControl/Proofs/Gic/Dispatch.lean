import InterruptControl.Proofs.Gic.Handlers
import InterruptControl.Proofs.Gic.Interface
import InterruptControl.Proofs.Gic.Settings
import InterruptControl.Proofs.Script.Session

/-!
Dispatching with handlers that leave the controller alone: exactly the interrupts that the
core may be given are served, the most urgent one first.

One round serves the most urgent interrupt and leaves a controller that has all the others
for the core as before, so the number of them decreases.
-/

namespace InterruptControl

open Bus Hardware Program Script

/-! ### The surroundings -/

namespace Gic

variable {H : Type}

/-- The front ends differ at most in the handlers, which are there for the same interrupts. -/
structure Alike (g g' : Gic H) : Prop where
  engine : g'.engine = g.engine
  twoStep : g'.twoStep = g.twoStep
  handled (id : IntId) : (g'.handlers.find? id).isSome = (g.handlers.find? id).isSome

lemma Alike.refl (g : Gic H) : g.Alike g := ⟨rfl, rfl, fun _ => rfl⟩

/-- The front end brought the current core up, which since then left alone how interrupts are
completed and its affinity. -/
structure Tends (g : Gic H) (o : Options) (s : State) : Prop where
  drives : g.engine.Drives o
  sound : s.Sound o
  home : s.AtHome
  core : ∃ c, s.cores[s.current]? = some c ∧ c.twoStep o.isRouted = g.twoStep
    ∧ ∀ n ∈ c.lpis.map Prod.fst, n < 0x1000000

lemma Tends.locates {g : Gic H} {o : Options} {s : State} {id : IntId} (h : g.Tends o s) :
    s.Locates o id := by
  intro ho _
  obtain ⟨c, hc, -⟩ := h.core
  exact h.home.reported (h.sound.isRouted.trans ho) hc

lemma Tends.mono {g g' : Gic H} {o : Options} {s t : State} (h : g.Tends o s) (hg : g.Alike g')
    (ha : State.Agree Core.idle s t) : g'.Tends o t := by
  obtain ⟨c, hc, htwo, hlpis⟩ := h.core
  obtain ⟨c', hc', he⟩ := ha.symm.exists_core (ha.current ▸ hc)
  have h1 : c'.control = c.control := (congrArg Core.control he :)
  have h2 : c'.mappedControl = c.mappedControl := (congrArg Core.mappedControl he :)
  have hl : c'.lpis.map Prod.fst = c.lpis.map Prod.fst :=
    (congrArg Core.Wired.lpis (Core.wired_of_idle he) :)
  refine ⟨hg.engine ▸ h.drives, h.sound.of_agree (ha.mono fun _ _ he => Core.kept_of_wired
    (Core.wired_of_idle he)), h.home.of_agree (ha.mono fun _ _ => Core.identity_of_idle), c', hc', ?_,
    hl ▸ hlpis⟩
  rw [hg.twoStep, ← htwo, Core.twoStep, Core.twoStep, h1, h2]

/-- Where the front end disables an interrupt that was acknowledged: where it has no handler for
it, and an LPI nowhere. -/
def silenced (g : Gic H) (s : State) (id : Nat) : List Place :=
  if 8192 ≤ id ∨ (g.handlers.find? (.ofNat id)).isSome = true then []
  else (s.place? id (g.owner s (.ofNat id))).toList

lemma owner_congr {g g' : Gic H} {s t : State} (hg : g.Alike g')
    (ha : State.Agree Core.idle s t) (id : IntId) : g'.owner t id = g.owner s id := by
  have hhome := State.home_of_agree (ha.mono fun _ _ => Core.identity_of_idle)
  simp only [owner, hg.engine, Engine.keeper, hhome]
  split
  · split
    · rfl
    · exact ha.current
  · exact ha.current

lemma silenced_congr {g g' : Gic H} {s t : State} (hg : g.Alike g')
    (ha : State.Agree Core.idle s t) (hplace : ∀ n k, t.place? n k = s.place? n k) (id : Nat) :
    g'.silenced t id = g.silenced s id := by
  rw [silenced, silenced, hg.handled, owner_congr hg ha, hplace]

lemma closing_congr {g g' : Gic H} (h : g'.twoStep = g.twoStep) : g'.closing = g.closing := by
  funext id
  rw [closing, closing, h]

lemma number_of_silenced {g : Gic H} {s : State} {id : Nat} {p : Place}
    (h : p ∈ g.silenced s id) : p.number = id := by
  unfold silenced at h
  split at h
  · simp at h
  · exact State.number_of_place? (Option.mem_toList.mp h)

section Reject

variable {g : Gic H} {o : Options} {s : State} {a : Ack}

/-- An interrupt without a handler is disabled, but for an LPI. -/
lemma runs_reject (ht : g.Tends o s) (hfit : o.Fits)
    (hid : (s.irq? a.id.number s.current).isSome = true) (hno : g.handler? a = none) :
    ∃ t, Runs (g.reject a) s (.ok ()) t [] ∧ s.Quieted [] (g.silenced s a.id.number) t := by
  obtain ⟨c, hc, -⟩ := ht.core
  have hquiet := g.reject_within ht.drives.fronts a
  simp only [silenced, ← a.id.isLpi_iff, IntId.ofNat_number]
  rw [handler?] at hno
  rcases hlpi : a.id.isLpi with _ | _
  · rw [hlpi] at hno
    have hnone : g.handlers.find? a.id = none := hno
    have hmask := run_maskInterrupt ht.drives ht.sound hfit ht.locates hid hlpi
    have hreject : g.reject a = (notify (.unhandled a.id.number) >>= fun _ =>
        g.maskInterrupt a.id) := by
      rw [reject, hlpi]
      rfl
    have hrun := (congrArg (Program.run Board.answer · (.controller s)) hreject).trans hmask
    refine ⟨_, .of_quiet hquiet ht.sound.isRouted hrun, ?_⟩
    rw [hnone]
    exact State.quieted_disable s _ _
  · exact ⟨s, .of_quiet hquiet ht.sound.isRouted (by rw [reject, hlpi]; rfl), .refl s⟩

end Reject

end Gic

namespace Script

/-- The surroundings that a session gives to the loop, with a way to run handlers. -/
def surroundings (handle : Handler → Ack → Session Unit) : Surroundings Session Handler where
  frontEnd := Session.currentFrontEnd
  perform := Session.perform
  handle := handle

/-- The handler that an acknowledged interrupt is given to as things stand. -/
def World.handler? (w : World) (a : Ack) : Option Handler :=
  match w.subject with
  | .frontEnd g => g.handler? a
  | _ => none

/-- The handler of an interrupt is called, if it has one. -/
def World.call (handle : Handler → Ack → Session Unit) (w : World) (a : Ack) : World :=
  match w.handler? a with
  | some h => (handle h a w).2
  | none => w

/-- Calls of handlers of the kind have nothing to do with the controller. They succeed whatever
machine there is and leave it as it is, and of the front end they change at most which handlers
of the kind there are for the same interrupts. -/
structure Aloof (handle : Handler → Ack → Session Unit) (kind : Handler → Prop) : Prop where
  apart {h : Handler} (hk : kind h) (a : Ack) (w : World) (m : Machine) :
    handle h a (w.withMachine m) = ((handle h a w).1, (handle h a w).2.withMachine m)
  staffed {h : Handler} (hk : kind h) (a : Ack) {w : World} {g : Gic Handler}
    (hw : w.subject = .frontEnd g) (hg : g.Staffed kind) : (handle h a w).1 = .ok ()
      ∧ ∃ g', (handle h a w).2.subject = .frontEnd g' ∧ g.Alike g' ∧ g'.Staffed kind

/-! ### One round -/

section Round

variable {handle : Handler → Ack → Session Unit} {kind : Handler → Prop} {o : Options}
  {s u : State} {w : World} {g : Gic Handler} {a : Ack} {m : Machine}

lemma handler?_eq (hw : w.subject = .frontEnd g) (a : Ack) : w.handler? a = g.handler? a := by
  rw [World.handler?, hw]

/-- LPIs are given to no handler. -/
lemma of_handler? {h : Handler} (hh : g.handler? a = some h) :
    a.id.isLpi = false ∧ g.handlers.find? a.id = some h := by
  rw [Gic.handler?] at hh
  split at hh
  · simp at hh
  next hlpi => exact ⟨Bool.eq_false_iff.mpr hlpi, hh⟩

section Call

variable (haloof : Aloof handle kind) (hw : w.subject = .frontEnd g) (hstaffed : g.Staffed kind)
include haloof hw hstaffed

lemma call_staffed (a : Ack) :
    ∃ g', (w.call handle a).subject = .frontEnd g' ∧ g.Alike g' ∧ g'.Staffed kind := by
  rw [World.call, handler?_eq hw]
  rcases hh : g.handler? a with _ | h
  · exact ⟨g, hw, .refl g, hstaffed⟩
  · exact (haloof.staffed (hstaffed _ _ (of_handler? hh).2) a hw hstaffed).2

lemma call_withMachine (m : Machine) (a : Ack) :
    (w.withMachine m).call handle a = (w.call handle a).withMachine m := by
  rw [World.call, World.call, handler?_eq hw, handler?_eq (w := w.withMachine m) hw]
  rcases hh : g.handler? a with _ | h
  · rfl
  · exact congrArg Prod.snd (haloof.apart (hstaffed _ _ (of_handler? hh).2) a w m)

/-- An acknowledged interrupt is handled, or else disabled. -/
lemma handle_or_reject (ht : g.Tends o s) (hfit : o.Fits) (hm : m.Holds s)
    (hid : (s.irq? a.id.number s.current).isSome = true) :
    ∃ m' t, (match g.handler? a with
        | some h => handle h a
        | none => Session.perform (g.reject a)) (w.withMachine m)
          = (.ok (), (w.call handle a).withMachine m')
      ∧ m'.Holds t ∧ m'.completions = m.completions
      ∧ s.Quieted [] (g.silenced s a.id.number) t := by
  rw [World.call, handler?_eq hw]
  rcases hh : g.handler? a with _ | h
  · obtain ⟨t, hruns, hquieted⟩ := Gic.runs_reject ht hfit hid hh
    obtain ⟨m', hperform, hm', hv⟩ := Session.perform_runs (w := w.withMachine m) hruns hm
    exact ⟨m', t, hperform, hm', by simpa using hv, hquieted⟩
  · have hfind := (of_handler? hh).2
    have hsilenced : g.silenced s a.id.number = [] := by simp [Gic.silenced, hfind]
    have hkind := hstaffed _ _ hfind
    refine ⟨m, s, ?_, hm, rfl, hsilenced ▸ .refl s⟩
    exact (haloof.apart hkind a w m).trans (by rw [(haloof.staffed hkind a hw hstaffed).1])

end Call

lemma serve_eq (handle : Handler → Ack → Session Unit) (g : Gic Handler) (a : Ack) :
    Gic.serve (surroundings handle) g a =
      ((match g.handler? a with
        | some h => handle h a
        | none => Session.perform (g.reject a)) >>= fun _ =>
      Session.currentFrontEnd >>= fun g => Session.perform (g.finish a)) := by
  unfold Gic.serve
  rcases g.handler? a with _ | h <;> rfl

/-- Serving the interrupt that was just taken leaves everything as if it had not been there, but
that it is no longer pending, and disabled if there is no handler for it. -/
lemma serve_taken (haloof : Aloof handle kind) (hw : w.subject = .frontEnd g)
    (hstaffed : g.Staffed kind) (ht : g.Tends o s) (hfit : o.Fits) {e : Nat × Priority}
    (hn : s.next? s.current = some e) (hm : m.Holds (s.take s.current e)) :
    ∃ m' t, Gic.serve (surroundings handle) g (s.ack e.1) (w.withMachine m)
        = (.ok (), (w.call handle (s.ack e.1)).withMachine m')
      ∧ m'.Holds t ∧ m'.completions = m.completions ++ g.closing e.1
      ∧ s.Quieted (s.place? e.1 s.current).toList (g.silenced s e.1) t := by
  obtain ⟨c, hc, htwo, hlpis⟩ := ht.core
  obtain ⟨hnumber, hbound, hspecial⟩ := State.ack_of_next? ht.sound hc hlpis hn
  obtain ⟨hmem, -⟩ := State.precedes_of_next? ht.sound hfit hc hn
  obtain ⟨q, hq, -⟩ := (State.mem_deliverableList ht.sound hfit hc).mp hmem
  obtain ⟨p, hp, hat⟩ := Option.bind_eq_some_iff.mp hq.irq
  have hidle := State.idle_take s s.current e
  have hsilenced : g.silenced (s.take s.current e) e.1 = g.silenced s e.1 :=
    Gic.silenced_congr (.refl g) hidle (fun n k => State.place?_take ..) e.1
  have htaken : ((s.take s.current e).irq? (s.ack e.1).id.number
      (s.take s.current e).current).isSome = true := by
    rw [hnumber, hidle.current, State.irq?, State.place?_take, hp, Option.bind_some, State.at?_take,
      if_pos hp, hat]
    rfl
  obtain ⟨m₁, u, hhandle, hm₁, hv₁, hquiet⟩ :=
    handle_or_reject haloof hw hstaffed (ht.mono (.refl g) hidle) hfit hm htaken
  obtain ⟨g', hsubject, halike, -⟩ := call_staffed haloof hw hstaffed (s.ack e.1)
  rw [hnumber, hsilenced] at hquiet
  have htends : g'.Tends o u := ht.mono halike
    (hidle.trans ((State.Agree.of_bare hquiet.bare).mono fun _ _ => Core.idle_of_bare))
  have hcurrent : u.current = s.current := (State.current_of_bare hquiet.bare).trans hidle.current
  obtain ⟨c', hc', htwo', -⟩ := htends.core
  obtain ⟨c'', hc'', hrunning⟩ := State.running_of_take hquiet.bare hc
  obtain rfl : c'' = c' := Option.some.inj (hc''.symm.trans (hcurrent ▸ hc'))
  -- the interrupt that was taken is still the last one, so it is the one that is completed
  have hfinish := Gic.runs_finish (a := s.ack e.1) htends.drives.fronts htends.sound hc'
    (by rw [hnumber]; exact hbound) hspecial hrunning hnumber.symm
  rw [hnumber, htwo', State.finished_self, hcurrent, halike.twoStep] at hfinish
  obtain ⟨m₂, hperform, hm₂, hv₂⟩ := Session.perform_runs
    (w := (w.call handle (s.ack e.1)).withMachine m₁) hfinish hm₁
  refine ⟨m₂, _, ?_, hm₂, ?_, ?_⟩
  · rw [serve_eq]
    refine (Session.bind_ok hhandle).trans ?_
    exact (Session.bind_ok (Session.currentFrontEnd_eq (w := World.withMachine _ m₁) hsubject)).trans
      hperform
  · rw [hv₂, World.machine_withMachine, hv₁, Gic.closing_congr halike.twoStep]
  · rw [hp]
    exact State.quieted_of_completed hp hat hq.inactive hquiet

end Round

/-! ### The loop -/

/-- Dispatching serves exactly these interrupts, in this order. -/
structure Serves (handle : Handler → Ack → Session Unit) (w : World) (g : Gic Handler) (s : State)
    (served : List (Nat × Priority)) (m : Machine) (t : State) : Prop where
  /-- One more round finds nothing to serve, and the handlers were called one after the other. -/
  run : ∀ n > served.length, Gic.dispatch (surroundings handle) n w
    = (.ok (), ((served.map fun e => s.ack e.1).foldl (World.call handle) w).withMachine m)
  holds : m.Holds t
  /-- Each one is taken, ended, and deactivated if that is a step of its own. -/
  trace : m.completions = w.machine.completions
    ++ served.flatMap fun e => Completion.taken e.1 :: g.closing e.1
  /-- They are no longer pending, those without a handler are disabled, and that is all. -/
  left : s.Quieted (served.flatMap fun e => (s.place? e.1 s.current).toList)
    (served.flatMap fun e => g.silenced s e.1) t

section Loop

variable {handle : Handler → Ack → Session Unit} {kind : Handler → Prop} {o : Options}
  {s t : State} {w : World} {g g' : Gic Handler} {m : Machine}

lemma dispatch_succ (handle : Handler → Ack → Session Unit) (n : Nat) :
    Gic.dispatch (surroundings handle) (n + 1) =
      Session.currentFrontEnd >>= fun g => Session.perform g.acknowledge >>= fun a =>
        match a with
        | none => pure ()
        | some a => Gic.serve (surroundings handle) g a >>= fun _ =>
          Gic.dispatch (surroundings handle) n := rfl

/-- What is acknowledged when nothing is left, and what otherwise. -/
lemma acknowledge_apply (ht : g.Tends o s)
    (hm : w.machine.Holds s) : ∃ m, Session.perform g.acknowledge w
        = (.ok ((s.next? s.current).map fun e => s.ack e.1), w.withMachine m)
      ∧ m.Holds (s.taken s.current) ∧ m.completions = w.machine.completions
        ++ ((s.next? s.current).map fun e => Completion.taken e.1).toList := by
  obtain ⟨c, hc, -, hlpis⟩ := ht.core
  exact Session.perform_runs (Gic.runs_acknowledge ht.drives.fronts ht.sound hc hlpis) hm

/-- An interrupt is reported in the same way once others were served. -/
lemma ack_of_quieted {cleared masked : List Place} (h : s.Quieted cleared masked t) (id : Nat) :
    t.ack id = s.ack id := by
  have hirq : (t.irq? id s.current).map (·.source &&& 7)
      = (s.irq? id s.current).map (·.source &&& 7) := by
    rw [h.irq?_eq, State.irq?]
    rcases s.place? id s.current with _ | p
    · rfl
    · simp only [Option.bind_some, Option.map_map]
      rfl
  rw [State.ack, State.ack, State.isRouted_of_bare h.bare, State.current_of_bare h.bare, hirq]

lemma foldl_call_withMachine (haloof : Aloof handle kind) (hw : w.subject = .frontEnd g)
    (hstaffed : g.Staffed kind) (m : Machine) (l : List Ack) :
    l.foldl (World.call handle) (w.withMachine m)
      = (l.foldl (World.call handle) w).withMachine m := by
  induction l generalizing w g with
  | nil => rfl
  | cons a rest ih =>
    obtain ⟨g', hw', -, hstaffed'⟩ := call_staffed haloof hw hstaffed a
    rw [List.foldl_cons, List.foldl_cons, call_withMachine haloof hw hstaffed, ih hw' hstaffed']

/-- Serving the most urgent interrupt and then the others. -/
lemma Serves.cons (haloof : Aloof handle kind) (hw : w.subject = .frontEnd g)
    (hstaffed : g.Staffed kind) (ht : g.Tends o s) (hfit : o.Fits) (hm : w.machine.Holds s)
    {e : Nat × Priority} (hn : s.next? s.current = some e) :
    ∃ w' g' t, w'.subject = .frontEnd g' ∧ g'.Staffed kind ∧ g'.Tends o t ∧ w'.machine.Holds t
      ∧ s.Quieted (s.place? e.1 s.current).toList (g.silenced s e.1) t
      ∧ ∀ {served m u}, Serves handle w' g' t served m u → Serves handle w g s (e :: served) m u := by
  obtain ⟨m₁, hack, hm₁, hv₁⟩ := acknowledge_apply ht hm
  rw [hn, Option.map_some] at hack hv₁
  rw [State.taken, hn] at hm₁
  obtain ⟨m₂, t, hserve, hm₂, hv₂, hquiet⟩ := serve_taken haloof hw hstaffed ht hfit hn hm₁
  obtain ⟨g', hw', halike, hstaffed'⟩ := call_staffed haloof hw hstaffed (s.ack e.1)
  have hidle := (State.Agree.of_bare hquiet.bare).mono fun _ _ => Core.idle_of_bare
  have hplace := State.place?_of_bare hquiet.bare
  refine ⟨(w.call handle (s.ack e.1)).withMachine m₂, g', t, hw', hstaffed', ht.mono halike hidle,
    hm₂, hquiet, fun {served m u} h => ⟨fun n hlt => ?_, h.holds, ?_, ?_⟩⟩
  · obtain ⟨k, rfl⟩ : ∃ k, n = k + 1 := ⟨n - 1, by omega⟩
    rw [dispatch_succ]
    refine (Session.bind_ok (Session.currentFrontEnd_eq hw)).trans ((Session.bind_ok hack).trans ?_)
    refine (Session.bind_ok hserve).trans ((h.run k (by simpa using hlt)).trans ?_)
    simp only [ack_of_quieted hquiet, List.map_cons, List.foldl_cons]
    rw [foldl_call_withMachine haloof hw' hstaffed']
    rfl
  · rw [h.trace, World.machine_withMachine, hv₂, hv₁]
    simp [Gic.closing_congr halike.twoStep]
  · have hleft := hquiet.trans h.left
    simp only [hplace, State.current_of_bare hquiet.bare,
      Gic.silenced_congr halike hidle hplace] at hleft
    exact hleft

variable (handle) in
lemma Serves.nil (hw : w.subject = .frontEnd g) (ht : g.Tends o s)
    (hm : w.machine.Holds s) (hn : s.next? s.current = none) :
    ∃ m, Serves handle w g s [] m s := by
  obtain ⟨m, hack, hholds, hv⟩ := acknowledge_apply ht hm
  rw [hn, Option.map_none] at hack hv
  rw [State.taken, hn] at hholds
  refine ⟨m, fun n hlt => ?_, hholds, by simpa using hv, .refl s⟩
  obtain ⟨k, rfl⟩ : ∃ k, n = k + 1 := ⟨n - 1, by simp only [List.length_nil] at hlt; omega⟩
  exact (Session.bind_ok (Session.currentFrontEnd_eq hw)).trans (Session.bind_ok hack)

/-- The induction is on the number of interrupts that the core may be given. -/
lemma exists_serves (haloof : Aloof handle kind) (hfit : o.Fits) {n : Nat} {c : Core}
    (hw : w.subject = .frontEnd g) (hstaffed : g.Staffed kind) (ht : g.Tends o s)
    (hm : w.machine.Holds s) (hc : s.cores[s.current]? = some c)
    (hlength : (s.deliverableList s.current c).length ≤ n) :
    ∃ served m t, (∀ e, e ∈ served ↔ e ∈ s.deliverableList s.current c)
      ∧ served.Pairwise Precedes ∧ Serves handle w g s served m t := by
  induction n generalizing s w g c with
  | zero =>
    have hnil := List.eq_nil_of_length_eq_zero (Nat.le_zero.mp hlength)
    obtain ⟨m, h⟩ := Serves.nil handle hw ht hm
      ((State.next?_eq_none hc).mpr hnil)
    exact ⟨[], m, s, fun e => by rw [hnil], .nil, h⟩
  | succ n ih =>
    rcases hn : s.next? s.current with _ | e
    · obtain ⟨m, h⟩ := Serves.nil handle hw ht hm hn
      exact ⟨[], m, s, fun e => by rw [(State.next?_eq_none hc).mp hn], .nil, h⟩
    · obtain ⟨hmem, hfirst⟩ := State.precedes_of_next? ht.sound hfit hc hn
      obtain ⟨w', g', t, hw', hstaffed', ht', hm', hquiet, hcons⟩ :=
        Serves.cons haloof hw hstaffed ht hfit hm hn
      obtain ⟨c', hc', he⟩ := State.exists_core_of_bare hquiet.bare.symm hc
      have hcurrent := State.current_of_bare hquiet.bare
      obtain ⟨q, hq, hpriority⟩ := (State.mem_deliverableList ht.sound hfit hc).mp hmem
      obtain ⟨p, hp, -⟩ := Option.bind_eq_some_iff.mp hq.irq
      rw [hp] at hquiet
      have hrest : t.deliverableList t.current c'
          = (s.deliverableList s.current c).filter (·.1 ≠ e.1) := by
        rw [hcurrent]
        exact hquiet.deliverableList hp (fun _ => Gic.number_of_silenced) he
      have hlt : (t.deliverableList t.current c').length ≤ n := by
        have := List.length_filter_lt_length_iff_exists (p := fun e' : Nat × Priority => e'.1 ≠ e.1)
          |>.mpr ⟨e, hmem, by simp⟩
        rw [hrest]
        omega
      obtain ⟨served, m, u, hserved, hsorted, h⟩ := ih hw' hstaffed' ht' hm' (hcurrent ▸ hc') hlt
      refine ⟨e :: served, m, u, fun e' => ?_, .cons (fun e' he' => ?_) hsorted, hcons h⟩
      · -- no other interrupt has its number
        rw [List.mem_cons, hserved, hrest, List.mem_filter, decide_eq_true_iff]
        constructor
        · rintro (rfl | h)
          · exact hmem
          · exact h.1
        · intro h
          by_cases hne : e'.1 = e.1
          · exact .inl (State.eq_of_mem_deliverableList ht.sound hfit hc hmem h hne)
          · exact .inr ⟨h, hne⟩
      · rw [hserved, hrest, List.mem_filter, decide_eq_true_iff] at he'
        exact hfirst e' he'.1 fun h => he'.2 (by rw [h])

/-- There are never as many interrupts as rounds. -/
lemma length_deliverableList_lt (ht : g.Tends o s) (hfit : o.Fits) {c : Core}
    (hc : s.cores[s.current]? = some c) :
    (s.deliverableList s.current c).length < dispatchBound := by
  obtain ⟨c', hc', -, hlpis⟩ := ht.core
  obtain rfl : c' = c := Option.some.inj (hc'.symm.trans hc)
  have hnodup : ((s.deliverableList s.current c').map Prod.fst).Nodup :=
    (State.deliverableList_sorted ht.sound hfit hc).imp fun h => Nat.ne_of_lt h
  -- none of them has the number that stands for no interrupt
  have hsub : (1023 :: (s.deliverableList s.current c').map Prod.fst) ⊆ List.range dispatchBound := by
    intro n hn
    rw [List.mem_range, dispatchBound]
    rcases List.mem_cons.mp hn with rfl | hn
    · decide
    · obtain ⟨e, he, rfl⟩ := List.mem_map.mp hn
      obtain ⟨q, hq, -⟩ := (State.mem_deliverableList ht.sound hfit hc).mp he
      rcases Nat.lt_or_ge e.1 8192 with h | h
      · omega
      · exact hlpis _ ((hq.number ht.sound hc).2.2 h)
  have hnot : 1023 ∉ (s.deliverableList s.current c').map Prod.fst := by
    intro hn
    obtain ⟨e, he, h1023⟩ := List.mem_map.mp hn
    obtain ⟨q, hq, -⟩ := (State.mem_deliverableList ht.sound hfit hc).mp he
    exact (hq.number ht.sound hc).2.1 (by omega)
  have hle := ((List.nodup_cons.mpr ⟨hnot, hnodup⟩).subperm hsub).length_le
  rw [List.length_cons, List.length_map, List.length_range] at hle
  omega

end Loop

end Script

/-- **Dispatching serves exactly the interrupts that the core may be given.** It comes to an end,
takes each of them once, the most urgent first, calls the handler of each that has one and
completes it. All that is left of it are pending bits that are cleared, and interrupts without
a handler that are disabled. -/
theorem dispatch_serves_deliverable {o : Options} {s : State} (hs : Reachable o s) (hfit : o.Fits)
    {g : Gic Handler} (hg : g.engine.Drives o) {c : Core} (hc : s.cores[s.current]? = some c)
    (htwo : c.twoStep o.isRouted = g.twoStep) (hhome : s.AtHome)
    (hlpis : ∀ n ∈ c.lpis.map Prod.fst, n < 0x1000000)
    {handle : Handler → Ack → Session Unit} {kind : Handler → Prop} (haloof : Aloof handle kind)
    (hstaffed : g.Staffed kind) {w : World} (hw : w.subject = .frontEnd g)
    (hm : w.machine.Holds s) :
    ∃ served m t,
      (∀ id p, (id, p) ∈ served ↔ ∃ q, s.Deliverable s.current c id q ∧ q.priority = p)
        ∧ served.Pairwise Precedes ∧ served.length < dispatchBound
        ∧ Serves handle w g s served m t := by
  have ht : g.Tends o s := ⟨hg, hs.sound, hhome, c, hc, htwo, hlpis⟩
  obtain ⟨served, m, t, hmem, hsorted, hserves⟩ :=
    exists_serves haloof hfit hw hstaffed ht hm hc le_rfl
  refine ⟨served, m, t, fun id p => ?_, hsorted, ?_, hserves⟩
  · rw [hmem, State.mem_deliverableList hs.sound hfit hc]
  · have hsub := ((nodup_of_precedes hsorted).subperm fun e he => (hmem e).mp he).length_le
    exact hsub.trans_lt (length_deliverableList_lt ht hfit hc)

/-! ### A timer that rings -/

/-- Handlers that only tell that they were called have nothing to do with the controller. -/
lemma Script.aloof_callHandler (perform : Step → Session Result) (frame : Nat) :
    Aloof (callHandler perform frame) fun h => h.rounds = [] where
  apart {h} hk a w m := by
    rcases h with ⟨tag, rounds⟩
    obtain rfl : rounds = [] := hk
    rfl
  staffed {h} hk a {w g} hw hg := by
    rcases h with ⟨tag, rounds⟩
    obtain rfl : rounds = [] := hk
    exact ⟨rfl, g, hw, .refl g, hg⟩

/-- Core 0 of a banked controller, whose timer has just rung. -/
def Hardware.State.ringing : State :=
  [.access (.write .word Region.distributor.base 3), .access (.write .word Region.interface.base 3),
    .access (.write .word (Region.interface.base + 0x4) 0xff),
    .access (.write .word (Region.distributor.base + 0x100) (BitVec.twoPow 32 27)),
    .access (.write .byte (Region.distributor.base + 0x400 + 27) 0x80),
    .raise 27 0].foldl State.after (.reset .banked)

lemma Hardware.State.reachable_ringing : Reachable .banked ringing := Reachable.reset.foldl _

/-- A front end of a banked controller that has no handler yet. -/
def Gic.unstaffed : Gic Handler :=
  ⟨.v2, .banked ⟨⟨Region.distributor.base⟩, ⟨Region.interface.base⟩, 0, true⟩, false, .empty⟩

/-- The same core, with another interrupt that is more urgent than its timer. -/
def Hardware.State.alarmed : State :=
  [.access (.write .word (Region.distributor.base + 0x100) (BitVec.twoPow 32 29)),
    .access (.write .byte (Region.distributor.base + 0x400 + 29) 0x40),
    .raise 29 0].foldl State.after ringing

/-- A handler that does nothing else than to be called. -/
def Script.Handler.alarm : Handler := ⟨"alarm", []⟩

set_option maxRecDepth 100000 in
/-- The alarm is served before the timer. It has a handler, which is called, and the timer has none. -/
theorem dispatch_serves_ringing :
    ∃ g w m t, Gic.unstaffed.install (.ofNat 29) (some .alarm) = .ok g ∧ w.subject = .frontEnd g
      ∧ w.machine.Holds State.alarmed
      ∧ Serves (callHandler (Step.perform 0) 0) w g State.alarmed [(29, 0x40), (27, 0x80)] m t
      ∧ ([State.alarmed.ack 29, State.alarmed.ack 27].foldl
          (World.call (callHandler (Step.perform 0) 0)) w).calls
        = #[⟨"alarm", State.alarmed.ack 29, 0, []⟩] := by
  have hs : Reachable .banked State.alarmed := State.reachable_ringing.foldl _
  have hcore : State.alarmed.cores[State.alarmed.current]?.map (fun c => (c.twoStep false, c.lpis,
      State.alarmed.deliverableList State.alarmed.current c))
        = some (false, [], [(27, 0x80), (29, 0x40)]) := by decide +kernel
  obtain ⟨c, hc, hfields⟩ := Option.map_eq_some_iff.mp hcore
  obtain ⟨htwo, hfields⟩ := Prod.mk.inj hfields
  obtain ⟨hlpis, hdeliverable⟩ := Prod.mk.inj hfields
  have hnobody : Gic.unstaffed.Staffed fun h => h.rounds = [] := by
    intro id h hfind
    simp [Gic.unstaffed, Handlers.find?, Handlers.empty] at hfind
  obtain ⟨g, hinstall⟩ : ∃ g, Gic.unstaffed.install (.ofNat 29) (some .alarm) = .ok g :=
    Gic.exists_install _ _ (by decide)
  obtain ⟨hengine, htwo', hstaffed⟩ := hnobody.install hinstall (by simp [Handler.alarm])
  have hg : g.engine.Drives .banked := hengine ▸ .banked rfl 0 true
  obtain ⟨served, m, t, hmem, hsorted, -, hserves⟩ :=
    dispatch_serves_deliverable hs fits_banked hg hc (htwo.trans htwo'.symm)
      (fun h => absurd h (by decide +kernel)) (by rw [hlpis]; simp)
      (aloof_callHandler (Step.perform 0) 0) hstaffed
      (w := { machine := { board := .controller State.alarmed, tracing := true },
              subject := .frontEnd g }) rfl ⟨rfl, rfl, rfl⟩
  obtain rfl : served = [(29, 0x40), (27, 0x80)] := by
    refine eq_of_precedes hsorted (by simp [Precedes]) fun e => ?_
    rw [hmem, ← State.mem_deliverableList hs.sound fits_banked hc, hdeliverable]
    simp [or_comm]
  have hack : (State.alarmed.ack 29).id = .ofNat 29 ∧ (State.alarmed.ack 27).id = .ofNat 27 := by
    decide +kernel
  have halarm : g.handler? (State.alarmed.ack 29) = some .alarm := by
    rw [Gic.handler?, hack.1, Gic.find?_install hinstall]
    rfl
  have htimer : g.handler? (State.alarmed.ack 27) = none := by
    rw [Gic.handler?, hack.2, Gic.find?_install hinstall,
      if_neg (by decide : ¬ IntId.ofNat 27 = .ofNat 29)]
    simp [Gic.unstaffed, Handlers.find?, Handlers.empty]
  have hcall (w : World) (hw : w.subject = .frontEnd g) :
      w.call (callHandler (Step.perform 0) 0) (State.alarmed.ack 29)
        = { w with calls := w.calls.push ⟨"alarm", State.alarmed.ack 29, 0, []⟩ } := by
    rw [World.call, handler?_eq hw, halarm]
    rfl
  refine ⟨g, _, m, t, hinstall, rfl, ⟨rfl, rfl, rfl⟩, hserves, ?_⟩
  rw [List.foldl_cons, List.foldl_cons, hcall _ rfl, World.call, handler?_eq (g := g) rfl, htimer]
  rfl

end InterruptControl
