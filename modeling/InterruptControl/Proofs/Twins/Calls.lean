import InterruptControl.Proofs.Twins.Hardware

/-!
Calls on twins, two at a time: both fail in the same way, or what the one returns belongs to what
the other returns, and they leave twins. That carries over to sequences of calls.

Here it is shown of the calls that set one interrupt up. The two controllers may keep it in
different places, but what is set and shown of it is the same.
-/

namespace InterruptControl

open Bus Hardware

namespace Program

/-- On twins, the calls fail in the same way or return what belongs together, and they leave twins. -/
def Parallel (o o' : Options) (twoStep : Bool) {α β : Type} (A : α → β → Prop) (p : Program α)
    (p' : Program β) : Prop :=
  ∀ ⦃s s' : State⦄, State.Twin o o' twoStep s s' → ∃ r r' t t',
    p.run Board.answer (.controller s) = (r, .controller t)
      ∧ p'.run Board.answer (.controller s') = (r', .controller t')
      ∧ Same A r r' ∧ State.Twin o o' twoStep t t'

namespace Parallel

variable {o o' : Options} {twoStep : Bool} {α β γ δ : Type} {A : α → β → Prop} {B : γ → δ → Prop}
  {p : Program α} {p' : Program β} {f : α → Program γ} {f' : β → Program δ}

lemma pure {a : α} {b : β} (h : A a b) : Parallel o o' twoStep A (pure a) (pure b) :=
  fun _ _ hs => ⟨_, _, _, _, rfl, rfl, .ok h, hs⟩

lemma fail (e : Failure) : Parallel o o' twoStep A (fail e) (fail e) :=
  fun _ _ hs => ⟨_, _, _, _, rfl, rfl, .error e, hs⟩

/-- One call after the other. -/
lemma bind (hp : Parallel o o' twoStep A p p')
    (hf : ∀ {a b}, A a b → Parallel o o' twoStep B (f a) (f' b)) :
    Parallel o o' twoStep B (p >>= f) (p' >>= f') := by
  intro s s' hs
  obtain ⟨r, r', t, t', hrun, hrun', hr, ht⟩ := hp hs
  cases hr with
  | error e => exact ⟨_, _, t, t', run_bind_error hrun, run_bind_error hrun', .error e, ht⟩
  | ok h =>
    rw [run_bind_ok hrun, run_bind_ok hrun']
    exact hf h ht

lemma notify (n n' : Notice) : Parallel o o' twoStep Eq (notify n) (notify n') :=
  fun _ _ hs => ⟨_, _, _, _, run_notify .., run_notify .., .ok rfl, hs⟩

/-- A call may be replaced by one that does the same. -/
lemma of_left {q : Program α} (h : Parallel o o' twoStep A q p')
    (hq : ∀ {s s'}, State.Twin o o' twoStep s s' →
      p.run Board.answer (.controller s) = q.run Board.answer (.controller s)) :
    Parallel o o' twoStep A p p' := by
  intro s s' hs
  obtain ⟨r, r', t, t', hrun, hrest⟩ := h hs
  exact ⟨r, r', t, t', (hq hs).trans hrun, hrest⟩

end Parallel

end Program

open Program

/-! ### One interrupt -/

namespace Hardware.Irq.Twin

variable {o' : Options} {p : Place} {q q' : Irq} {k : Setting}

/-- The front end sets the same fields of both. -/
lemma put (h : q.Twin o' p q') (hk : (∀ b, k ≠ .plain b) ∧ k ≠ .targets) (v : k.Value) :
    (k.put v q).Twin o' p (k.put v q') := by
  obtain ⟨henabled, hpending, hactive, hedge, hpriority, hgroup, hroute⟩ := h
  cases k with
  | flag f =>
    cases f
    · exact ⟨rfl, hpending, hactive, hedge, hpriority, hgroup, hroute⟩
    · exact ⟨henabled, rfl, hactive, hedge, hpriority, hgroup, hroute⟩
    · exact ⟨henabled, hpending, rfl, hedge, hpriority, hgroup, hroute⟩
  | plain a => exact absurd rfl (hk.1 a)
  | priority => exact ⟨henabled, hpending, hactive, hedge, rfl, hgroup, hroute⟩
  | trigger => exact ⟨henabled, hpending, hactive, rfl, hpriority, hgroup, hroute⟩
  | targets => exact absurd rfl hk.2

/-- And it is shown the same. -/
lemma get_eq (h : q.Twin o' p q') (hk : (∀ b, k ≠ .plain b) ∧ k ≠ .targets) : k.get q' = k.get q := by
  cases k with
  | flag f =>
    cases f
    · exact h.enabled
    · exact h.pending
    · exact h.active
  | plain a => exact absurd rfl (hk.1 a)
  | priority => exact h.priority
  | trigger => exact congrArg Trigger.ofIsEdge h.edge
  | targets => exact absurd rfl hk.2

end Hardware.Irq.Twin

/-! ### Front ends -/

namespace Gic

/-- The front ends of twins, which complete interrupts in the same way and have handlers that belong
together. -/
structure Twin (o o' : Options) (twoStep : Bool) {H H' : Type} (A : H → H' → Prop) (g : Gic H)
    (g' : Gic H') : Prop where
  drives : g.engine.Drives o
  drives' : g'.engine.Drives o'
  mode : g.twoStep = twoStep
  mode' : g'.twoStep = twoStep
  handlers (id : IntId) : Option.Rel A (g.handlers.find? id) (g'.handlers.find? id)

end Gic

namespace Engine.Drives

variable {e : Engine} {o : Options} (h : e.Drives o)
include h

lemma exists_banked (ho : o.isRouted = false) : ∃ lines started,
    e = .banked ⟨⟨Region.distributor.base⟩, ⟨Region.interface.base⟩, lines, started⟩ := by
  cases h with
  | banked _ lines started => exact ⟨lines, started, rfl⟩
  | routed hr => exact absurd (hr.symm.trans ho) (by decide)

lemma exists_routed (ho : o.isRouted = true) : ∃ security started, e = .routed
    ⟨⟨Region.distributor.base, security⟩, Region.redistributors.base, o.stride, started⟩ := by
  cases h with
  | banked hr => exact absurd (hr.symm.trans ho) (by decide)
  | routed _ security started => exact ⟨security, started, rfl⟩

end Engine.Drives

/-- Without extended ranges, the parts together serve what a banked controller does. -/
lemma Engine.Drives.serves_keeper_eq {e : Engine} {o : Options} (he : e.Drives o)
    (hplain : o.extendedCount = 0 ∧ o.privateCount = 32) (s : State) (id : IntId) :
    (e.keeper s id).serves o id = decide (id.number < 1020) := by
  cases he with
  | banked => rfl
  | routed =>
    rw [Engine.keeper]
    split
    next h =>
      rw [id.isPrivate_iff] at h
      rw [Bool.eq_iff_iff, Keeper.serves, hplain.2]
      simp only [Bool.and_eq_true, Bool.not_eq_true', decide_eq_true_eq, Bool.eq_false_iff, ne_eq,
        id.isPrivate_iff, id.isExtendedPpi_iff]
      omega
    next h =>
      rw [id.isPrivate_iff] at h
      rw [Bool.eq_iff_iff, Keeper.serves, hplain.1]
      simp only [Bool.or_eq_true, Bool.and_eq_true, decide_eq_true_eq, id.isSpi_iff]
      omega

namespace Gic.Tends

variable {H : Type} {g : Gic H} {o : Options} {s : State} {k : Setting} {id : IntId}

/-- The front end asks the part that is in charge. -/
lemma run_block (h : g.Tends o s) (hfit : o.Fits) (id : IntId) {α : Type} (f : Block → Program α) :
    (g.block id >>= f).run Board.answer (.controller s)
      = (f ((g.engine.keeper s id).block o)).run Board.answer (.controller s) :=
  run_block_bind h.drives h.sound hfit h.locates f

variable (h : g.Tends o s) (hfit : o.Fits) (hplain : o.extendedCount = 0 ∧ o.privateCount = 32)
  (howner : g.owner s id = s.current) (hk : (∀ b, k ≠ .plain b) ∧ k ≠ .targets)
include h hfit hplain howner hk

/-- A setting of one of the first numbers is set for the calling core, and no other number will do. -/
lemma run_set (v : k.Value) : ((g.engine.keeper s id).set o k id v).run Board.answer (.controller s)
    = if id.number < 1020 then
        (.ok (), .controller (if k.isFixed id then s else s.modifyIrq id.number s.current (k.put v)))
      else (.error .assertion, .controller s) := by
  have hmatches := matches_keeper h.drives h.sound (h.locates : s.Locates o id)
  have hoffers := (g.engine.keeper s id).offers_of_shared hk.1 hk.2
  have haccepts : (g.engine.keeper s id).accepts o k id = decide (id.number < 1020) := by
    rw [Keeper.accepts, h.drives.serves_keeper_eq hplain, beq_eq_false_iff_ne.mpr hk.2, Bool.false_and,
      Bool.not_false, Bool.and_true]
  split
  next hid =>
    have hrun := Keeper.run_set h.sound hfit hmatches hoffers (haccepts.trans (decide_eq_true hid)) v
    rwa [show (g.engine.keeper s id).owner s = s.current from howner] at hrun
  next hid =>
    exact Keeper.run_set_refused h.sound hfit hmatches hoffers (haccepts.trans (decide_eq_false hid)) v

lemma run_get : ((g.engine.keeper s id).get o k id).run Board.answer (.controller s)
    = (if id.number < 1020 then .ok (k.shown id (s.irq? id.number s.current)) else .error .assertion,
        .controller s) := by
  have hmatches := matches_keeper h.drives h.sound (h.locates : s.Locates o id)
  have hoffers := (g.engine.keeper s id).offers_of_shared hk.1 hk.2
  have hserves := h.drives.serves_keeper_eq hplain s id
  split
  next hid =>
    have haccepts : (g.engine.keeper s id).accepts o k id = true := by
      rw [Keeper.accepts, hserves, beq_eq_false_iff_ne.mpr hk.2, decide_eq_true hid]
      rfl
    have hrun := Keeper.run_get h.sound hfit hmatches hoffers haccepts
    rwa [show (g.engine.keeper s id).owner s = s.current from howner] at hrun
  next hid =>
    exact Keeper.run_get_refused h.sound hfit hmatches hk.2 (hserves.trans (decide_eq_false hid))

end Gic.Tends

namespace Hardware.State.Twin

variable {o o' : Options} {twoStep : Bool} {s s' : State} {H H' : Type} {A : H → H' → Prop}
  {g : Gic H} {g' : Gic H'} (h : State.Twin o o' twoStep s s') (ho : o.Twins o')
  (hg : g.Twin o o' twoStep A g')
include h ho

lemma exists_current : ∃ c c', s.cores[s.current]? = some c ∧ s'.cores[s'.current]? = some c' := by
  rw [h.current]
  exact h.exists_cores ho (h.sound.current ho.some)

include hg

/-- Both front ends are ready for whatever comes. -/
lemma tends : g.Tends o s ∧ g'.Tends o' s' := by
  obtain ⟨c, c', hc, hc'⟩ := h.exists_current ho
  have hcore := (h.core hc (h.current ▸ hc')).1
  refine ⟨⟨hg.drives, h.sound, fun hr => ?_, c, hc, ?_, by simp [hcore.lpis.1]⟩,
    ⟨hg.drives', h.sound', fun _ c' hc' => ?_, c', hc', ?_, by simp [hcore.lpis.2]⟩⟩
  · exact absurd (hr.symm.trans (h.sound.isRouted.trans ho.banked)) (by decide)
  · rw [ho.banked, hcore.completion.1, hg.mode]
  · obtain ⟨d, d', hd, hd'⟩ := h.exists_current ho
    obtain rfl := Option.some.inj (hc'.symm.trans hd')
    rw [(h.core hd (h.current ▸ hd')).1.affinity, (h.sound'.core _ _ hd').affinity, h.current]
  · rw [ho.routed, hcore.completion.2, hg.mode']

/-- Both reach the interrupts of the calling core. -/
lemma owner (id : IntId) : g.owner s id = s.current ∧ g'.owner s' id = s.current := by
  obtain ⟨c, c', hc, hc'⟩ := h.exists_current ho
  have hcore := (h.core hc (h.current ▸ hc')).1
  refine ⟨Gic.owner_eq hg.drives h.sound hc (fun hr => absurd (hr.symm.trans ho.banked) (by decide))
    (fun hr => absurd (hr.symm.trans ho.banked) (by decide)) id, ?_⟩
  rw [Gic.owner_eq hg.drives' h.sound' hc' (fun _ => ho.distinct) (fun _ => h.current ▸ hcore.affinity),
    h.current]

end Hardware.State.Twin

/-! ### Cores that both can name -/

/-- A core of the first cluster, that has a bit in every mask. -/
def Affinity.Near (a : Affinity) : Prop := a.aff0.toNat < 8 ∧ a.aff1 = 0 ∧ a.aff2 = 0 ∧ a.aff3 = 0

instance (a : Affinity) : Decidable a.Near := inferInstanceAs (Decidable (_ ∧ _))

/-- The bit of such a core and the route to it name the same cores. -/
lemma Affinity.Near.getLsbD_eq {a : Affinity} (h : a.Near) {i : Nat} (hi : i < 8) :
    (1#8 <<< a.aff0.toNat).getLsbD i = ((a.toRoute &&& State.routeMask).getLsbD 31
      || packAffinity (a.toRoute &&& State.routeMask) == BitVec.ofNat 32 i) := by
  have hall : ∀ k < 8, ∀ i < 8, (1#8 <<< k).getLsbD i
      = (((⟨BitVec.ofNat 8 k, 0, 0, 0⟩ : Affinity).toRoute &&& State.routeMask).getLsbD 31
        || packAffinity ((⟨BitVec.ofNat 8 k, 0, 0, 0⟩ : Affinity).toRoute &&& State.routeMask)
          == BitVec.ofNat 32 i) := by decide
  obtain ⟨h0, h1, h2, h3⟩ := h
  have ha : a = ⟨BitVec.ofNat 8 a.aff0.toNat, 0, 0, 0⟩ := by
    rcases a with ⟨a0, a1, a2, a3⟩
    obtain ⟨rfl, rfl, rfl⟩ : a1 = 0 ∧ a2 = 0 ∧ a3 = 0 := ⟨h1, h2, h3⟩
    simp
  have heq := hall a.aff0.toNat h0 i hi
  rwa [← ha] at heq

namespace Gic

variable {o o' : Options} {twoStep : Bool} {H H' : Type} {A : H → H' → Prop} {g : Gic H} {g' : Gic H'}

/-- What is shown of an interrupt that is the same in both. -/
lemma shown_eq {k : Setting} (hk : (∀ b, k ≠ .plain b) ∧ k ≠ .targets) (id : IntId) {s s' : State}
    (h : State.Twin o o' twoStep s s') (ho : o.Twins o') (cpu : Nat) :
    k.shown id (s'.irq? id.number cpu) = k.shown id (s.irq? id.number cpu) := by
  rcases h.irq?_cases ho id.number cpu with ⟨hq, hq'⟩ | ⟨p, q, q', -, hq, hq', hqq⟩
  · rw [hq, hq']
  · have hget := hqq.get_eq hk
    rw [hq, hq']
    cases k <;> simp only [Setting.shown, Option.map_some, Option.getD_some, hget]

section Settings

variable (ho : o.Twins o') (hfit : o.Fits) (hfit' : o'.Fits) (hg : g.Twin o o' twoStep A g')
  {k : Setting} (hk : (∀ b, k ≠ .plain b) ∧ k ≠ .targets) (id : IntId)
include ho hfit hfit' hg hk

/-- What sets one field in the parts that are in charge comes to the same. -/
lemma parallel_set (v : k.Value) {p p' : Program Unit}
    (hp : ∀ {s}, g.Tends o s → p.run Board.answer (.controller s)
      = ((g.engine.keeper s id).set o k id v).run Board.answer (.controller s))
    (hp' : ∀ {s}, g'.Tends o' s → p'.run Board.answer (.controller s)
      = ((g'.engine.keeper s id).set o' k id v).run Board.answer (.controller s)) :
    Parallel o o' twoStep Eq p p' := by
  intro s s' h
  obtain ⟨ht, ht'⟩ := h.tends ho hg
  obtain ⟨howner, howner'⟩ := h.owner ho hg id
  have hrun := (hp ht).trans (ht.run_set hfit ⟨ho.extendedCount.1, ho.privateCount⟩ howner hk v)
  have hrun' := (hp' ht').trans (ht'.run_set hfit' ⟨ho.extendedCount.2, ho.ppis⟩
    (howner'.trans h.current.symm) hk v)
  split at hrun
  next hid =>
    rw [if_pos hid] at hrun'
    refine ⟨_, _, _, _, hrun, hrun', .ok rfl, ?_⟩
    split
    · exact h
    · rw [h.current]
      exact h.modifyIrq ho _ _ fun _ _ _ _ hq => hq.put hk v
  next hid =>
    rw [if_neg hid] at hrun'
    exact ⟨_, _, s, s', hrun, hrun', .error _, h⟩

/-- And so does what shows it. -/
lemma parallel_get {p p' : Program k.Value}
    (hp : ∀ {s}, g.Tends o s → p.run Board.answer (.controller s)
      = ((g.engine.keeper s id).get o k id).run Board.answer (.controller s))
    (hp' : ∀ {s}, g'.Tends o' s → p'.run Board.answer (.controller s)
      = ((g'.engine.keeper s id).get o' k id).run Board.answer (.controller s)) :
    Parallel o o' twoStep Eq p p' := by
  intro s s' h
  obtain ⟨ht, ht'⟩ := h.tends ho hg
  obtain ⟨howner, howner'⟩ := h.owner ho hg id
  have hrun := (hp ht).trans (ht.run_get hfit ⟨ho.extendedCount.1, ho.privateCount⟩ howner hk)
  have hrun' := (hp' ht').trans (ht'.run_get hfit' ⟨ho.extendedCount.2, ho.ppis⟩
    (howner'.trans h.current.symm) hk)
  rw [h.current, shown_eq hk id h ho] at hrun'
  refine ⟨_, _, s, s', hrun, hrun', ?_, h⟩
  split
  · exact .ok rfl
  · exact .error _

end Settings

section Calls

variable (ho : o.Twins o') (hfit : o.Fits) (hfit' : o'.Fits) (hg : g.Twin o o' twoStep A g') (id : IntId)
include ho hfit hfit' hg

lemma parallel_setFlag (f : Flag) (v : Bool) :
    Parallel o o' twoStep Eq (g.setFlag f id v) (g'.setFlag f id v) :=
  parallel_set ho hfit hfit' hg (k := .flag f) (by simp) id v (fun ht => ht.run_block hfit id _)
    fun ht => ht.run_block hfit' id _

lemma parallel_hasFlag (f : Flag) :
    Parallel o o' twoStep Eq (g.hasFlag f id) (g'.hasFlag f id) :=
  parallel_get ho hfit hfit' hg (k := .flag f) (by simp) id (fun ht => ht.run_block hfit id _)
    fun ht => ht.run_block hfit' id _

lemma parallel_setPriority (p : Priority) :
    Parallel o o' twoStep Eq (g.setPriority id p) (g'.setPriority id p) :=
  parallel_set ho hfit hfit' hg (k := .priority) (by simp) id p (fun ht => ht.run_block hfit id _)
    fun ht => ht.run_block hfit' id _

lemma parallel_priority : Parallel o o' twoStep Eq (g.priority id) (g'.priority id) :=
  parallel_get ho hfit hfit' hg (k := .priority) (by simp) id (fun ht => ht.run_block hfit id _)
    fun ht => ht.run_block hfit' id _

lemma parallel_setTrigger (t : Trigger) :
    Parallel o o' twoStep Eq (g.setTrigger id t) (g'.setTrigger id t) :=
  parallel_set ho hfit hfit' hg (k := .trigger) (by simp) id t (fun ht => ht.run_block hfit id _)
    fun ht => ht.run_block hfit' id _

lemma parallel_trigger : Parallel o o' twoStep Eq (g.trigger id) (g'.trigger id) :=
  parallel_get ho hfit hfit' hg (k := .trigger) (by simp) id (fun ht => ht.run_block hfit id _)
    fun ht => ht.run_block hfit' id _

end Calls

/-! ### Routes -/

/-- Targets and a route that name the same cores. -/
lemma parallel_setTargets (ho : o.Twins o') (hfit' : o'.Fits) (security : Routed.SecurityState)
    (id : IntId) {v : BitVec 8} {w : BitVec 64}
    (hvw : ∀ i < o.cpus, v.getLsbD i = ((w &&& State.routeMask).getLsbD 31
      || packAffinity (w &&& State.routeMask) == BitVec.ofNat 32 i)) :
    Parallel o o' twoStep Eq ((Banked.Distributor.mk Region.distributor.base).setTargets id ⟨v⟩) (do
      require !id.isPrivate
      let address ← Routed.Distributor.routeAddress ⟨Region.distributor.base, security⟩ id
      write64 address w) := by
  intro s s' h
  have hrun := @Keeper.run_setTargets s id (h.sound.isRouted.trans ho.banked) ⟨v⟩
  have hrun' := @Routed.Distributor.run_writeRoute s' id (h.sound'.options ▸ hfit')
    (h.sound'.isRouted.trans ho.routed) security w
  have hserves : (Keeper.routed security).serves s'.options id = id.isSpi := by
    rw [h.sound'.options, Keeper.serves, ho.extendedCount.2]
    simp
  rw [hserves] at hrun'
  split at hrun
  next hid =>
    rw [if_pos hid, h.current] at hrun'
    refine ⟨_, _, _, _, hrun, hrun', .ok rfl, h.modifyIrq ho _ _ fun p hp q q' hq => ?_⟩
    obtain ⟨henabled, hpending, hactive, hedge, hpriority, hgroup, -⟩ := hq
    refine ⟨henabled, hpending, hactive, hedge, hpriority, hgroup, fun _ i hi => ?_⟩
    rw [ho.cpus] at hi
    rw [ho.packAffinity hi]
    exact hvw i hi
  next hid =>
    rw [if_neg hid] at hrun'
    exact ⟨_, _, s, s', hrun, hrun', .error _, h⟩

section Calls

variable (ho : o.Twins o') (hfit : o.Fits) (hfit' : o'.Fits) (hg : g.Twin o o' twoStep A g') (id : IntId)
include ho hfit' hg

lemma parallel_routeTo {a : Affinity} (ha : a.Near) :
    Parallel o o' twoStep Eq (g.routeTo id a) (g'.routeTo id a) := by
  obtain ⟨_, _, he⟩ := hg.drives.exists_banked ho.banked
  obtain ⟨security, _, he'⟩ := hg.drives'.exists_routed ho.routed
  simp only [routeTo, he, he', CpuSet.add?_empty ha.1]
  exact parallel_setTargets ho hfit' security id fun i hi => ha.getLsbD_eq (hi.trans_le ho.few)

include hfit

lemma parallel_routeToAny : Parallel o o' twoStep Eq (g.routeToAny id) (g'.routeToAny id) := by
  obtain ⟨_, _, he⟩ := hg.drives.exists_banked ho.banked
  obtain ⟨security, _, he'⟩ := hg.drives'.exists_routed ho.routed
  have hcpus := ho.some
  have hfew := ho.few
  simp only [routeToAny, he, he']
  refine .of_left (parallel_setTargets ho hfit' security id (v := (firstCores o.cpus).mask)
    (w := Routed.Route.anyCore.mask) fun i hi => ?_) fun {s s'} h => ?_
  · have hany : (Routed.Route.anyCore.mask &&& State.routeMask).getLsbD 31 = true := by decide
    rw [hany, Bool.true_or, firstCores, BitVec.getLsbD_setWidth, BitVec.getLsbD_allOnes]
    simp [hi, hi.trans_le hfew]
  · have hcount := Banked.Distributor.run_cpuCount (h.sound.options ▸ hfit)
    rw [h.sound.options, show min o.cpus 8 - 1 + 1 = o.cpus by omega] at hcount
    exact run_bind_ok hcount

lemma parallel_configure {c : Setup} (hc : ∃ a : Affinity, c.target = some a ∧ a.Near) :
    Parallel o o' twoStep Eq (g.configure c) (g'.configure c) := by
  obtain ⟨a, htarget, ha⟩ := hc
  have henable : Parallel o o' twoStep Eq
      (notify (.configured c.id.number c.trigger.name c.priority.toNat) >>= fun _ =>
        g.setFlag .enabled c.id true)
      (notify (.configured c.id.number c.trigger.name c.priority.toNat) >>= fun _ =>
        g'.setFlag .enabled c.id true) :=
    (Parallel.notify _ _).bind fun _ => parallel_setFlag ho hfit hfit' hg c.id .enabled true
  refine (parallel_setFlag ho hfit hfit' hg c.id .enabled false).bind fun _ =>
    (parallel_setTrigger ho hfit hfit' hg c.id c.trigger).bind fun _ =>
    (parallel_setPriority ho hfit hfit' hg c.id c.priority).bind fun _ => ?_
  simp only [htarget]
  split
  · exact henable
  · exact (parallel_routeTo ho hfit' hg c.id ha).bind fun _ => henable

end Calls

end Gic

end InterruptControl
