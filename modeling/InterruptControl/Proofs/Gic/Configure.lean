import InterruptControl.Proofs.Distributor.Routes
import InterruptControl.Proofs.Gic.Dispatch

/-!
Setting an interrupt up, as a whole: of all interrupts only that one is changed, and it ends up
enabled, with the trigger and the priority asked for, and routed to the core asked for if it is a
shared one.
-/

namespace InterruptControl

open Bus Hardware Program

/-! ### Routes -/

lemma CpuSet.add?_empty {n : Nat} (h : n < 8) : CpuSet.empty.add? n = some ⟨1#8 <<< n⟩ := by
  rw [add?, if_pos (show n < capacity from h)]
  exact congrArg (fun v => some (CpuSet.mk v)) BitVec.zero_or

/-! ### Changes of one interrupt -/

namespace Bus

/-- The call does nothing but to change what is kept at a place. -/
def Puts (p : Program Unit) (s : State) (x : Place) (f : Irq → Irq) : Prop :=
  p.run Board.answer (.controller s) = (.ok (), .controller (s.modify x f))

namespace Puts

variable {p q : Program Unit} {s : State} {x : Place} {f g : Irq → Irq}

lemma bind (hp : Puts p s x f) (hq : Puts q (s.modify x f) x g) :
    Puts (p >>= fun _ => q) s x fun i => g (f i) := by
  unfold Puts at hp hq ⊢
  rw [run_bind_ok hp, hq, State.modify_modify]

lemma skip (h : p.run Board.answer (.controller s) = (.ok (), .controller s)) :
    Puts p s x fun i => i := by
  rw [Puts, h, State.modify_id]

lemma congr (h : Puts p s x f) (hfg : ∀ i, f i = g i) : Puts p s x g := funext hfg ▸ h

end Puts

end Bus

/-- What an interrupt is once it was set up for core `a`. -/
def Hardware.Irq.setUp (routed : Bool) (c : Gic.Setup) (a : Affinity) (q : Irq) : Irq :=
  { q with
    enabled := true
    edge := if c.id.isSgi then q.edge else c.trigger.isEdge
    priority := c.priority
    targets := if c.id.isPrivate || routed then q.targets else 1#8 <<< a.aff0.toNat
    route := if c.id.isPrivate || !routed then q.route else a.toRoute &&& State.routeMask }

/-- The affinity register of the current core. -/
def Hardware.State.affinity? (s : State) : Option (BitVec 64) :=
  s.cores[s.current]?.map Core.affinityRegister

lemma Hardware.State.affinity?_of_bare {s t : State} (h : t.bare = s.bare) :
    t.affinity? = s.affinity? := by
  have hcore := congrArg (Option.map Core.affinityRegister) (State.core_of_bare h s.current)
  rw [Option.map_map, Option.map_map] at hcore
  rw [affinity?, affinity?, State.current_of_bare h]
  exact hcore

namespace Gic

variable {H : Type} {g : Gic H} {o : Options} {s : State} {id : IntId} {x : Place} {c : Setup}
  {v : BitVec 64} {a : Affinity}

/-- Where a shared interrupt goes. Without a target that is core 0 of a banked controller, and the
calling core of a routed one. -/
def Setup.destination (o : Options) (v : BitVec 64) (c : Setup) : Affinity :=
  c.target.getD (if o.isRouted then .ofCoreRegister v else ⟨0, 0, 0, 0⟩)

/-- A banked controller is only asked for a core that has a bit. -/
def Setup.Targetable (o : Options) (c : Setup) : Prop :=
  o.isRouted = false → ∀ a, c.target = some a → a.aff0.toNat < 8

lemma Setup.Targetable.destination_lt (h : c.Targetable o) (ho : o.isRouted = false) :
    (c.destination o v).aff0.toNat < 8 := by
  rw [Setup.destination, ho]
  rcases ht : c.target with _ | a
  · exact Nat.zero_lt_succ 7
  · exact h ho a ht

/-- A private interrupt has no route. -/
def route (g : Gic H) (c : Setup) : Program Unit :=
  if c.id.isPrivate then pure ()
  else match c.target with
    | some a => g.routeTo c.id a
    | none => g.routeByDefault c.id

/-- What is done before the interrupt is enabled. -/
def prepare (g : Gic H) (c : Setup) : Program Unit := do
  g.setFlag .enabled c.id false
  g.setTrigger c.id c.trigger
  g.setPriority c.id c.priority
  g.route c
  notify (.configured c.id.number c.trigger.name c.priority.toNat)

lemma configure_eq (g : Gic H) (c : Setup) :
    g.configure c = g.prepare c >>= fun _ => g.setFlag .enabled c.id true := by
  simp only [configure, prepare, route, Program.bind_assoc]
  rcases c.target with _ | a <;> split <;> rfl

/-- A route by default is one to a fixed core. -/
lemma run_route (hg : g.engine.Drives o) (hv : s.affinity? = some v) (hc : c.id.isPrivate = false) :
    (g.route c).run Board.answer (.controller s)
      = (g.routeTo c.id (c.destination o v)).run Board.answer (.controller s) := by
  rw [route, hc, if_neg Bool.false_ne_true, Setup.destination]
  rcases c.target with _ | a
  · simp only [Option.getD_none, routeByDefault, routeTo]
    generalize g.engine = e at hg
    cases hg with
    | banked ho =>
      simp only [ho, Bool.false_eq_true, if_false]
      rfl
    | routed ho =>
      obtain ⟨k, hk, rfl⟩ := Option.map_eq_some_iff.mp hv
      simp only [ho, if_true]
      exact run_bind_ok (Affinity.run_current hk)
  · rfl

/-- The front end is in charge of the interrupt, which is kept at the place. -/
structure Reaches (g : Gic H) (o : Options) (s : State) (id : IntId) (x : Place) : Prop where
  drives : g.engine.Drives o
  sound : s.Sound o
  locates : s.Locates o id
  serves : (g.engine.keeper s id).serves o id = true
  place : s.place? id.number (g.owner s id) = some x

lemma keeper_modify (g : Gic H) (s : State) (x : Place) (f : Irq → Irq) (id : IntId) :
    g.engine.keeper (s.modify x f) id = g.engine.keeper s id := by
  simp only [Engine.keeper, State.home_of_bare (s.bare_modify x f)]

namespace Reaches

lemma modify (h : g.Reaches o s id x) (f : Irq → Irq) : g.Reaches o (s.modify x f) id x := by
  have hidle : State.Agree Core.idle s (s.modify x f) :=
    (State.Agree.of_bare (State.bare_modify ..)).mono fun _ _ => Core.idle_of_bare
  refine ⟨h.drives, h.sound.of_bare (State.bare_modify ..), fun ho hprivate =>
    (h.locates ho hprivate).of_agree (hidle.mono fun _ _ => Core.identity_of_idle),
    (keeper_modify ..).symm ▸ h.serves, ?_⟩
  rw [State.place?_modify, owner_congr (.refl g) hidle]
  exact h.place

section Settings

variable (h : g.Reaches o s id x) (hfit : o.Fits)
include h hfit

/-- What sets one field in the part that is in charge does so from the front end. -/
lemma puts_setting {k : Setting} (hk : (∀ b, k ≠ .plain b) ∧ k ≠ .targets) (v : k.Value) :
    Puts ((g.engine.keeper s id).set o k id v) s x fun q => if k.isFixed id then q else k.put v q := by
  have hmatches := matches_keeper h.drives h.sound h.locates
  have haccepts : (g.engine.keeper s id).accepts o k id = true := by
    rw [Keeper.accepts, h.serves, beq_eq_false_iff_ne.mpr hk.2]
    rfl
  have hrun := Keeper.run_set h.sound hfit hmatches
    ((g.engine.keeper s id).offers_of_shared hk.1 hk.2) haccepts v
  rw [Puts, hrun]
  split
  · rw [State.modify_id]
  · exact congrArg (fun t => (Except.ok (), Board.controller t)) (State.modifyIrq_of_place _ _ h.place)

lemma puts_flag (f : Flag) (v : Bool) : Puts (g.setFlag f id v) s x (·.put f.field v) := by
  exact (run_block_bind h.drives h.sound hfit h.locates _).trans
    (h.puts_setting hfit (k := .flag f) (by simp) v)

lemma puts_priority (p : Priority) : Puts (g.setPriority id p) s x fun q => { q with priority := p } := by
  exact (run_block_bind h.drives h.sound hfit h.locates _).trans
    (h.puts_setting hfit (k := .priority) (by simp) p)

lemma puts_trigger (t : Trigger) : Puts (g.setTrigger id t) s x fun q =>
    { q with edge := if id.isSgi then q.edge else t.isEdge } := by
  have hput := h.puts_setting hfit (k := .trigger) (by simp) t
  refine Puts.congr ((run_block_bind h.drives h.sound hfit h.locates _).trans hput) fun q => ?_
  rw [Setting.isFixed]
  cases id.isSgi <;> rfl

/-- Only a core with a bit can be a target. -/
lemma puts_routeTo (hshared : id.isPrivate = false) (ha : o.isRouted = false → a.aff0.toNat < 8) :
    Puts (g.routeTo id a) s x fun q => { q with
      targets := if o.isRouted then q.targets else 1#8 <<< a.aff0.toNat
      route := if o.isRouted then a.toRoute &&& State.routeMask else q.route } := by
  obtain ⟨hdrives, hsound, -, hserves, hplace⟩ := h
  unfold routeTo
  unfold owner at hplace
  generalize g.engine = e at hdrives hserves hplace ⊢
  cases hdrives with
  | banked ho =>
    have hspi : id.isSpi = true := by
      refine Keeper.isSpi_of_accepts (o := o) ?_
      rw [Keeper.accepts, hshared, Bool.and_false, Bool.not_false, Bool.and_true]
      exact hserves
    have hset := CpuSet.add?_empty (ha ho)
    have hplace : s.place? id.number s.current = some x := hplace
    have hrun := @Keeper.run_setTargets s id (hsound.isRouted.trans ho) ⟨1#8 <<< a.aff0.toNat⟩
    rw [if_pos hspi, State.modifyIrq_of_place _ _ hplace] at hrun
    simp only [hset, ho]
    exact hrun
  | routed ho security =>
    obtain rfl := hsound.options
    simp only [Engine.keeper, hshared, Bool.false_eq_true, if_false] at hserves hplace
    have hplace : s.place? id.number s.current = some x := hplace
    have hrun := @Routed.Distributor.run_writeRoute s id hfit ho security a.toRoute
    rw [if_pos hserves, State.modifyIrq_of_place _ _ hplace] at hrun
    simp only [ho, if_true]
    exact hrun

/-- The trigger of an SGI is not asked for. -/
lemma run_trigger {q : Irq} (hq : s.at? x = some q) : (g.trigger id).run Board.answer (.controller s)
    = (.ok (if id.isSgi then .edge else .ofIsEdge q.edge), .controller s) := by
  have hmatches := matches_keeper h.drives h.sound h.locates
  have haccepts : (g.engine.keeper s id).accepts o .trigger id = true := by
    rw [Keeper.accepts, h.serves]
    rfl
  have hirq : s.irq? id.number ((g.engine.keeper s id).owner s) = some q :=
    Option.bind_eq_some_iff.mpr ⟨x, h.place, hq⟩
  have hget := Keeper.run_get h.sound hfit hmatches (Keeper.offers_of_shared _ (by simp) (by simp))
    haccepts
  rw [hirq] at hget
  exact (run_block_bind h.drives h.sound hfit h.locates _).trans hget

end Settings

section Configure

variable (h : g.Reaches o s c.id x) (hfit : o.Fits) (hv : s.affinity? = some v)
  (ht : c.Targetable o)
include h hfit hv ht

lemma puts_route : Puts (g.route c) s x fun q => { q with
    targets := if c.id.isPrivate || o.isRouted then q.targets
      else 1#8 <<< (c.destination o v).aff0.toNat
    route := if c.id.isPrivate || !o.isRouted then q.route
      else (c.destination o v).toRoute &&& State.routeMask } := by
  rcases hp : c.id.isPrivate with _ | _
  · have hputs := (run_route h.drives hv hp).trans (h.puts_routeTo hfit hp ht.destination_lt)
    refine Puts.congr hputs fun q => ?_
    cases o.isRouted <;> rfl
  · rw [route, if_pos hp]
    exact .skip (run_pure ..)

/-- The interrupt is left as it is to be, but disabled. -/
lemma puts_prepare : Puts (g.prepare c) s x fun q =>
    { q.setUp o.isRouted c (c.destination o v) with enabled := false } := by
  have hroute {t : State} (h : g.Reaches o t c.id x) (hb : t.bare = s.bare) :=
    h.puts_route hfit ((State.affinity?_of_bare hb).trans hv) ht
  have hall : Puts (g.prepare c) s x _ := (h.puts_flag hfit .enabled false).bind <|
    ((h.modify _).puts_trigger hfit c.trigger).bind <|
    (((h.modify _).modify _).puts_priority hfit c.priority).bind <|
    (hroute (((h.modify _).modify _).modify _) (by simp)).bind (.skip (run_notify ..))
  exact hall.congr fun q => rfl

/-- All that is left of setting an interrupt up. -/
lemma puts_configure : Puts (g.configure c) s x (Irq.setUp o.isRouted c (c.destination o v)) := by
  rw [configure_eq]
  exact ((h.puts_prepare hfit hv ht).bind ((h.modify _).puts_flag hfit .enabled true)).congr fun q => rfl

end Configure

end Reaches

end Gic

end InterruptControl
