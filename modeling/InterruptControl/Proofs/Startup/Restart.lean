import InterruptControl.Proofs.CpuInterface.Selection
import InterruptControl.Proofs.Gic.Configure
import InterruptControl.Proofs.Startup.BringUp
import InterruptControl.Proofs.Startup.Timeout

/-!
A core that is started on a controller that was in use.

Bring-up makes the interrupts anew and opens the interface, but it does not drop the priority of
what was acknowledged before and never completed, nor does it take back LPIs. So a core goes on with
what it ran, and that holds off all that is not more urgent.
-/

namespace InterruptControl

open Bus Hardware Program

/-! ### Bring-up that succeeds -/

namespace Gic

variable {H : Type} {g g' : Gic H} {o : Options} {s u : State} {i : Nat} {c : Core}

section Unstuck

variable (hs : Reachable o s) (hfit : o.Fits) (ho : o.isRouted = true)
include hs hfit ho

/-- The distributor was started, so its writes completed. -/
lemma writes_of_start (hg : g.engine = .fresh o) {x : Gic H × State}
    (h : s.accomplish? g.start = some x) : s.writeStuck = false := by
  rw [Engine.fresh_routed ho] at hg
  rcases hstuck : s.writeStuck with _ | _
  · rfl
  · obtain ⟨t, -, hdies⟩ := Routed.Driver.timesOut_start .nonSecure hs hfit ho hstuck
    have hnone : s.accomplish? g.start = none := by
      rw [Gic.start, hg]
      exact State.accomplish?_of_error ((run_bind_ok (run_notify ..)).trans (run_bind_error hdies.run))
    exact absurd (hnone.symm.trans h) (Option.some_ne_none x).symm

/-- A core that was started by its own redistributor has woken up, and its writes completed. -/
lemma unstuck_of_startCore (hg : g.engine = .running o) (hc : s.cores[s.current]? = some c)
    (hhome : s.home = s.current) {x : Unit × State} (h : s.accomplish? g.startCore = some x) :
    c.wakerStuck = false ∧ c.writeStuck = false := by
  have hdies : Routed.Driver.StartsCoreOrDies o s ⟨⟨Region.distributor.base, o.security⟩,
      Region.redistributors.base, o.stride, true⟩ g.twoStep c :=
    Routed.Driver.starts_core_or_dies hs hfit ho (State.reported_of_home hhome hc) (hhome ▸ hc) g.twoStep
  have hsucceeds {e : Failure} {b : Board} :
      g.startCore.run Board.answer (.controller s) ≠ (.error e, b) := fun hrun => by
    rw [State.accomplish?_of_error hrun] at h
    exact absurd h (Option.some_ne_none x).symm
  rw [Engine.running, ho, if_pos rfl] at hg
  rw [Gic.startCore, hg] at hsucceeds
  rcases hwaker : c.wakerStuck with _ | _
  · refine ⟨rfl, ?_⟩
    rcases hwrites : c.writeStuck with _ | _
    · rfl
    · obtain ⟨t, ht, -⟩ := hdies.stuck hwaker hwrites
      exact absurd ht.run hsucceeds
  · exact absurd (hdies.asleep hwaker).run hsucceeds

end Unstuck

section Alone

variable (hs : Reachable o s) (hfit : o.Fits) (hg : g.engine = .fresh o) (hc : s.cores[i]? = some c)
  (hhome : o.isRouted = true → ({ s with current := i } : State).home = i)
include hs hfit hg hc hhome

/-- One core starts the distributor and itself. -/
lemma bringUp_alone (hstuck : o.isRouted = true →
      s.writeStuck = false ∧ c.wakerStuck = false ∧ c.writeStuck = false) :
    ∃ u, g.bringUp s i [i] = some ({ g with engine := .running o }, u)
      ∧ State.Renews o (fun p => o.Shared p ∨ o.Private i p)
        (({ s with control := o.runningControl } : State).visit o g.twoStep i) u := by
  have hi : i < o.cpus := hs.sound.size ▸ (Array.getElem?_eq_some_iff.mp hc).1
  obtain ⟨t, hstart, ht⟩ := accomplish_start hs.sound hfit hs.masked hi hg fun ho => (hstuck ho).1
  have hreach := State.reachable_of_accomplish? (hs.after (.setCurrent i)) hstart
  obtain ⟨c', hc', he⟩ := State.exists_core_of_bare ht.bare.symm hc
  have hcurrent : ({ t with current := i } : State) = t := by
    rw [← show t.current = i from State.current_of_bare ht.bare]
  have hhome' (ho : o.isRouted = true) : ({ t with current := i } : State).home = i :=
    (congrArg State.home hcurrent).trans ((State.home_of_bare ht.bare).trans (hhome ho))
  have hunstuck (ho : o.isRouted = true) : c'.wakerStuck = false ∧ c'.writeStuck = false :=
    ⟨(congrArg Core.wakerStuck he :).symm.trans (hstuck ho).2.1,
      (congrArg Core.writeStuck he :).symm.trans (hstuck ho).2.2⟩
  obtain ⟨u, hcore, hu⟩ := accomplish_startCore (g := { g with engine := .running o }) hreach.sound hfit
    hreach.masked hi rfl hc' hhome' hunstuck
  refine ⟨u, ?_, ((ht.foldl_visit [i]).union hu).congr fun p => ?_⟩
  · rw [bringUp, hstart]
    show ((startCores _ t [i]).bind fun u => some (_, u)) = _
    rw [startCores, hcore]
    rfl
  · constructor
    · rintro ((hp | ⟨-, hp⟩) | hp)
      · exact .inl hp
      · exact .inr hp
      · exact .inr hp
    · rintro (hp | hp)
      · exact .inl (.inl hp)
      · exact .inr hp

/-- That it succeeds says that nothing is stuck. -/
lemma unstuck_of_bringUp (ho : o.isRouted = true) (h : g.bringUp s i [i] = some (g', u)) :
    s.writeStuck = false ∧ c.wakerStuck = false ∧ c.writeStuck = false := by
  have hi : i < o.cpus := hs.sound.size ▸ (Array.getElem?_eq_some_iff.mp hc).1
  obtain ⟨⟨g₁, t⟩, hstart, hrest⟩ := Option.bind_eq_some_iff.mp h
  obtain ⟨_, hcores, -⟩ := Option.bind_eq_some_iff.mp hrest
  obtain ⟨_, hcore, -⟩ := Option.bind_eq_some_iff.mp hcores
  have hfirst := hs.after (.setCurrent i)
  have hwrites := writes_of_start hfirst hfit ho hg hstart
  rw [after_setCurrent hs.sound hi] at hwrites
  obtain ⟨t', hstart', ht⟩ := accomplish_start hs.sound hfit hs.masked hi hg fun _ => hwrites
  obtain ⟨rfl, rfl⟩ := Prod.mk.inj (Option.some.inj (hstart'.symm.trans hstart))
  obtain ⟨c', hc', he⟩ := State.exists_core_of_bare ht.bare.symm hc
  have hsecond := State.reachable_of_accomplish? hfirst hstart
  have hcurrent : t'.current = i := State.current_of_bare ht.bare
  have hsame : t'.after (.setCurrent i) = t' := by
    rw [after_setCurrent hsecond.sound hi, ← hcurrent]
  rw [hsame] at hcore
  obtain ⟨hwakes, hcompletes⟩ := unstuck_of_startCore (g := { g with engine := .running o }) hsecond hfit ho
    rfl (hcurrent.symm ▸ hc') ((State.home_of_bare ht.bare).trans (hcurrent ▸ hhome ho)) hcore
  exact ⟨hwrites, (congrArg Core.wakerStuck he :).trans hwakes,
    (congrArg Core.writeStuck he :).trans hcompletes⟩

lemma renews_of_bringUp (h : g.bringUp s i [i] = some (g', u)) :
    g' = { g with engine := .running o } ∧ State.Renews o (fun p => o.Shared p ∨ o.Private i p)
      (({ s with control := o.runningControl } : State).visit o g.twoStep i) u := by
  obtain ⟨u', hrun, hu⟩ := bringUp_alone hs hfit hg hc hhome fun ho =>
    unstuck_of_bringUp hs hfit hg hc hhome ho h
  obtain ⟨rfl, rfl⟩ := Prod.mk.inj (Option.some.inj (hrun.symm.trans h))
  exact ⟨rfl, hu⟩

end Alone

end Gic

/-! ### What was left before -/

namespace Hardware

/-- Nothing that the core runs holds off an interrupt of priority `p`, and no LPI that waits for the
core comes before it. -/
structure Core.Yields (c : Core) (p : Priority) : Prop where
  running : ∀ r ∈ c.running, p < r.priority
  lpis (h : c.redistributorControl.getLsbD 0 = true) {n : Nat} {q : Irq} (hq : c.lpis.lookup n = some q)
    (hready : q.pending = true ∧ q.enabled = true ∧ q.active = false ∧ q.group1 = true) :
    p ≤ q.priority

namespace State

variable {o : Options} {s t u : State} {k : Core} {i id n : Nat} {q : Irq}

/-- Core `i`, which is `c`, is open to all priorities. It runs what it ran when it was `k`. -/
structure Resumes (t : State) (k : Core) (i : Nat) (c : Core) : Prop where
  core : t.cores[i]? = some c
  graded : c.Graded
  running : c.running = k.running
  control : c.redistributorControl = k.redistributorControl
  affinity : c.affinityRegister = k.affinityRegister
  limit : t.priorityLimit c = 0xff
  delivery : t.deliveryEnabled c = true

/-- A core that has resumed has the LPIs that it had, and of the other interrupts at most number
`id`, which is `q`, is enabled for it. -/
structure Reopens (o : Options) (k : Core) (i id : Nat) (q : Irq) (t : State) : Prop where
  sound : t.Sound o
  core : ∃ c, t.Resumes k i c
  irq : t.irq? id i = some q
  others {n : Nat} {q' : Irq} (hn : n < 8192) (hne : n ≠ id) (hq : t.irq? n i = some q') :
    q'.enabled = false
  lpis {n : Nat} (hn : 8192 ≤ n) : t.irq? n i = k.lpis.lookup n
  lpis_ge {n : Nat} {q' : Irq} (hq : k.lpis.lookup n = some q') : 8192 ≤ n

namespace Reopens

variable (h : t.Reopens o k i id q) (hfit : o.Fits) (hid : id < 8192)
include h hfit hid

/-- An LPI that is more urgent would have been taken, and so would nothing that does not preempt. -/
lemma yields_of_next? (hlow : q.priority.toNat < 0xff) (hn : t.next? i = some (id, q.priority)) :
    k.Yields q.priority := by
  obtain ⟨c, hc, hg, hrunning, hcontrol, -, hlimit, hdelivery⟩ := h.core
  obtain ⟨hfound, hfirst⟩ := precedes_of_next? h.sound hfit hc hn
  obtain ⟨q', hq', -⟩ := (mem_deliverableList h.sound hfit hc).mp hfound
  obtain rfl : q' = q := Option.some.inj (hq'.irq.symm.trans h.irq)
  have hbelow := (preempts_iff hg).mp hq'.preempts
  refine ⟨hrunning ▸ hbelow, fun hon {n q₁} hq₁ ⟨hpending, henabled, hactive, hgroup⟩ => ?_⟩
  have hn := h.lpis_ge hq₁
  by_contra hle
  have hlt := BitVec.lt_def.mp (BitVec.not_le.mp hle)
  have hdeliverable : t.Deliverable i c n q₁ := by
    refine ⟨(h.lpis hn).trans hq₁, hdelivery, hpending, henabled, hactive, fun _ => hgroup,
      routedTo_iff.mpr (.inl (by simp [isCoreNumber, hn])), hlimit ▸ hlt.trans hlow,
      (preempts_iff hg).mpr fun r hr => BitVec.lt_trans (BitVec.not_le.mp hle) (hbelow r hr),
      fun _ => hcontrol ▸ hon⟩
  have hmem : (n, q₁.priority) ∈ t.deliverableList i c :=
    (mem_deliverableList h.sound hfit hc).mpr ⟨q₁, hdeliverable, rfl⟩
  rcases hfirst _ hmem fun he => absurd (congrArg Prod.fst he) (by omega) with hprior | ⟨hsame, -⟩
  · exact absurd hprior (Nat.lt_asymm hlt)
  · exact absurd hlt (hsame ▸ lt_irrefl _)

/-- What would be taken instead is an LPI, and none comes before. -/
lemma next?_of_yields
    (hq : q.pending = true ∧ q.enabled = true ∧ q.active = false ∧ q.group1 = true)
    (hlow : q.priority.toNat < 0xff)
    (hrouted : ∀ c : Core, c.affinityRegister = k.affinityRegister → t.routedTo id q i c = true)
    (hy : k.Yields q.priority) : t.next? i = some (id, q.priority) := by
  obtain ⟨c, hc, hg, hrunning, hcontrol, haffinity, hlimit, hdelivery⟩ := h.core
  obtain ⟨hpending, henabled, hactive, hgroup⟩ := hq
  have hdeliverable : t.Deliverable i c id q :=
    ⟨h.irq, hdelivery, hpending, henabled, hactive, fun _ => hgroup, hrouted c haffinity, hlimit ▸ hlow,
      (preempts_iff hg).mpr (hrunning ▸ hy.running), fun hn => absurd hn (Nat.not_le.mpr hid)⟩
  have hself : (id, q.priority) ∈ t.deliverableList i c :=
    (mem_deliverableList h.sound hfit hc).mpr ⟨q, hdeliverable, rfl⟩
  rcases hn : t.next? i with _ | e
  · rw [(next?_eq_none hc).mp hn] at hself
    exact absurd hself List.not_mem_nil
  obtain ⟨hfound, hfirst⟩ := precedes_of_next? h.sound hfit hc hn
  obtain ⟨q', hq', hp⟩ := (mem_deliverableList h.sound hfit hc).mp hfound
  by_cases he : e.1 = id
  · exact congrArg some (eq_of_mem_deliverableList h.sound hfit hc hself hfound he)
  have hlpi : 8192 ≤ e.1 := by
    by_contra hlt
    exact absurd (hq'.enabled.symm.trans (h.others (Nat.lt_of_not_le hlt) he hq'.irq)) (by decide)
  have hon := hcontrol ▸ hq'.lpis hlpi
  have hr : t.isRouted = true := by
    by_contra hr
    have hoff := (h.sound.core i c hc).lpis_off (h.sound.isRouted ▸ Bool.eq_false_iff.mpr hr)
    rw [← hcontrol, hoff] at hon
    exact absurd hon (by decide)
  have hle := BitVec.le_def.mp (hy.lpis hon ((h.lpis hlpi).symm.trans hq'.irq)
    ⟨hq'.pending, hq'.enabled, hq'.inactive, hq'.group hr⟩)
  rw [hp] at hle
  rcases hfirst _ hself fun hsame => he (congrArg Prod.fst hsame).symm with hprior | ⟨-, hnumber⟩
  · exact absurd hprior (Nat.not_lt.mpr hle)
  · exact absurd hnumber (by omega)

end Reopens

end State

/-- Opening a core to all priorities does not make any difference to what it runs. -/
lemma Core.Graded.started {c : Core} (h : c.Graded) (routed twoStep : Bool) :
    (Core.started routed twoStep c).Graded := by
  cases routed
  · exact ⟨h.running, h.below, h.priorityMask, le_refl 0xff⟩
  · exact ⟨h.running, h.below, le_refl 0xff, h.mappedPriorityMask⟩

namespace State

variable {o : Options} {s t u : State} {k : Core} {i id : Nat} {q : Irq} {x : Place} {twoStep : Bool}

section Started

variable (hs : Reachable o s) (hk : s.cores[i]? = some k)
include hs hk

lemma exists_resumes (ht : t.Sound o)
    (hbare : t.bare = (({ s with control := o.runningControl } : State).visit o twoStep i).bare) :
    ∃ c, t.Resumes k i c := by
  have hstarted : (({ s with control := o.runningControl } : State).visit o twoStep i).cores[i]?
      = some (Core.started o.isRouted twoStep k) := by
    rw [visit, getElem?_modifyCore, if_pos rfl]
    exact congrArg (Option.map _) hk
  obtain ⟨c, hc, he⟩ := exists_core_of_bare hbare.symm hstarted
  obtain ⟨hlimit, hdelivery, -⟩ := core_of_started ht.isRouted (control_of_bare hbare) he
  obtain ⟨hrunning, hcontrol, haffinity⟩ : (Core.started o.isRouted twoStep k).running = k.running
      ∧ (Core.started o.isRouted twoStep k).redistributorControl = k.redistributorControl
      ∧ (Core.started o.isRouted twoStep k).affinityRegister = k.affinityRegister := by
    cases o.isRouted <;> exact ⟨rfl, rfl, rfl⟩
  exact ⟨c, hc, ((hs.graded hk).started ..).of_bare he,
    (congrArg Core.running he :).symm.trans hrunning,
    (congrArg Core.redistributorControl he :).symm.trans hcontrol,
    (congrArg Core.affinityRegister he :).symm.trans haffinity, hlimit, hdelivery⟩

/-- Of the interrupts that were renewed one is changed. -/
lemma Renews.reopens (h : Renews o (fun p => o.Shared p ∨ o.Private i p)
      (({ s with control := o.runningControl } : State).visit o twoStep i) u) (hu : u.Sound o)
    (hid : id < 8192) (hx : u.place? id i = some x) {f : Irq → Irq} (hq : (u.modify x f).at? x = some q) :
    (u.modify x f).Reopens o k i id q := by
  have hplace {n : Nat} : (u.modify x f).place? n i = u.place? n i := place?_modify ..
  have hirq {n : Nat} (hn : n ≠ id) : (u.modify x f).irq? n i = u.irq? n i := by
    rw [irq?, irq?, hplace]
    rcases hp : u.place? n i with _ | p
    · rfl
    · exact at?_modify_of_ne _ _ fun he => hn (place?_injective hp (he ▸ hx))
  have hsound : (u.modify x f).Sound o := hu.of_bare (bare_modify ..)
  refine ⟨hsound, exists_resumes hs hk hsound ((bare_modify u x f).trans h.bare),
    (irq?_of_place _ _ _ (hplace.trans hx)).trans hq, fun {n q'} hn hne hq' => ?_, fun {n} hn => ?_,
    fun {n q'} hq' => (hs.sound.core i k hk).lpis_ge n (isSome_lookup.mp (hq' ▸ rfl))⟩
  · obtain ⟨p, q₀, -, rfl⟩ := h.exists_renew (fun p _ hp => hp) hu hn (hirq hne ▸ hq')
    rfl
  · have hnot : ¬ (o.Shared (.lpi i n) ∨ o.Private i (.lpi i n)) := by
      rintro ((⟨_, -, -, he⟩ | ⟨_, -, he⟩) | ⟨_, -, he⟩) <;> exact Place.noConfusion he
    have hvisit : (({ s with control := o.runningControl } : State).visit o twoStep i).at? (.lpi i n)
        = ({ s with control := o.runningControl } : State).at? (.lpi i n) :=
      at?_modifyCore (Core.apart_started o.isRouted twoStep).kept _
    rw [hirq (by omega), irq?_lpi _ _ _ hn, h.off hnot, hvisit]
    exact congrArg (Option.bind · fun c => c.lpis.lookup n) hk

end Started

end State

end Hardware

/-! ### An interrupt that is set up and raised -/

namespace Gic

/-- A shared interrupt that is built in is to go to core `i`, whose affinity register is `v`, with any
priority but the lowest. -/
structure Setup.Aims (o : Options) (i : Nat) (v : BitVec 64) (c : Setup) : Prop where
  shared : c.id.isSpi = true ∨ c.id.isExtendedSpi = true
  built : ((State.reset o).irq? c.id.number i).isSome = true
  urgent : c.priority.toNat < 0xff
  destination : if o.isRouted then c.destination o v = .ofCoreRegister v
    else (c.destination o v).aff0.toNat = i ∧ i < 8

namespace Setup.Aims

variable {o : Options} {i : Nat} {v : BitVec 64} {c : Setup} (h : c.Aims o i v)
include h

lemma number : 32 ≤ c.id.number ∧ c.id.number < 8192 ∧ c.id.isPrivate = false
    ∧ isCoreNumber c.id.number = false := by
  have hrange := h.shared
  rw [c.id.isSpi_iff, c.id.isExtendedSpi_iff] at hrange
  refine ⟨by omega, by omega, ?_, ?_⟩
  · rw [Bool.eq_false_iff, ne_eq, c.id.isPrivate_iff]
    omega
  · simp [isCoreNumber]
    omega

lemma targetable : c.Targetable o := by
  intro ho a ha
  have hdestination := h.destination
  rw [Setup.destination, ha, ho, if_neg Bool.false_ne_true] at hdestination
  exact hdestination.1 ▸ hdestination.2

/-- It is kept somewhere in every state. -/
lemma exists_at? {s : State} (hs : s.Sound o) (hfit : o.Fits) :
    ∃ x q, s.place? c.id.number i = some x ∧ s.at? x = some q := by
  obtain ⟨q, hq⟩ := Option.isSome_iff_exists.mp h.built
  obtain ⟨x, hx, -⟩ := Option.bind_eq_some_iff.mp hq
  have hplace := (State.place?_of_sound (.reset o) hs h.number.2.1 i).trans hx
  obtain ⟨q', hq'⟩ := State.exists_at? (hs.options ▸ hfit) hplace
  exact ⟨x, q', hplace, hq'⟩

/-- Once it is set up, it goes to the core. -/
lemma routedTo {s : State} (hs : s.Sound o) {k : Core} (hk : k.affinityRegister = v) (q : Irq) (b : Bool) :
    s.routedTo c.id.number { q.setUp o.isRouted c (c.destination o v) with pending := b } i k = true := by
  have hdestination := h.destination
  rw [State.routedTo_iff, hs.isRouted]
  refine .inr ?_
  simp only [Irq.setUp, h.number.2.2.1, Bool.false_or]
  rcases ho : o.isRouted with _ | _
  · rw [ho, if_neg Bool.false_ne_true] at hdestination
    simp only [Bool.false_eq_true, if_false, hdestination.1]
    simp [hdestination.2]
  · rw [ho, if_pos rfl] at hdestination
    simp only [if_true, Bool.not_true, Bool.false_eq_true, if_false, hdestination, hk]
    exact .inr ((Affinity.packAffinity_toRoute _).trans (Affinity.word_ofCoreRegister v))

end Setup.Aims

end Gic

namespace CpuInterface

variable {o : Options} {s : State} {c : Core}

def runningPriority (routed : Bool) : Program Priority :=
  if routed then Routed.CpuInterface.runningPriority else Banked.CpuInterface.onBus.runningPriority

lemma run_runningPriority (hc : s.cores[s.current]? = some c) (hg : c.Graded) :
    (runningPriority s.isRouted).run Board.answer (.controller s)
      = (.ok (BitVec.ofNat 8 c.runningPriority), .controller s) := by
  have hlt := Nat.lt_succ_of_le hg.runningPriority_le
  have hword {n : Nat} (hn : 8 ≤ n) :
      (BitVec.ofNat n c.runningPriority).setWidth 8 = BitVec.ofNat 8 c.runningPriority :=
    BitVec.eq_of_toNat_eq ((toNat_runningPriority hg hn).trans
      ((BitVec.toNat_ofNat ..).trans (Nat.mod_eq_of_lt hlt)).symm)
  rcases hr : s.isRouted with _ | _
  · exact hword (n := 32) (by decide) ▸ Banked.CpuInterface.run_runningPriority hc hr
  · exact hword (n := 64) (by decide) ▸ Routed.CpuInterface.run_runningPriority hc

end CpuInterface

namespace Gic

variable {H : Type} {g g' : Gic H} {o : Options} {s u : State} {i : Nat} {k : Core}
  (hs : Reachable o s) (hfit : o.Fits) (hg : g.engine = .fresh o) (hk : s.cores[i]? = some k)
  (hhome : o.isRouted = true → ({ s with current := i } : State).home = i)
  (hup : g.bringUp s i [i] = some (g', u))
include hs hfit hg hk hhome hup

/-- The core is the current one, and runs what it ran. -/
lemma exists_resumed : u.Sound o ∧ u.current = i ∧ ∃ c, u.Resumes k i c := by
  obtain ⟨rfl, hu⟩ := renews_of_bringUp hs hfit hg hk hhome hup
  have hi : i < o.cpus := hs.sound.size ▸ (Array.getElem?_eq_some_iff.mp hk).1
  have hcurrent : ({ s with control := o.runningControl, current := i } : State).Sound o :=
    ⟨hs.sound.options, hs.sound.size, fun _ => hi, hs.sound.core⟩
  have hsound : (({ s with control := o.runningControl } : State).visit o g.twoStep i).Sound o :=
    hcurrent.modifyCore fun c hc => hc.of_kept (by cases o.isRouted <;> rfl)
  have hu' := hsound.of_bare hu.bare
  exact ⟨hu', State.current_of_bare hu.bare, State.exists_resumes hs hk hu' hu.bare⟩

/-- An interrupt that the core then sets up for itself, and whose line goes up. -/
lemma exists_reopened {c : Setup} (hc : c.Aims o i k.affinityRegister) : ∃ v w q,
    (g'.configure c).run Board.answer (.controller u) = (.ok (), .controller v)
      ∧ v.raise c.id.number i = .ok w ∧ w.current = i ∧ w.Reopens o k i c.id.number q
      ∧ q.priority = c.priority
      ∧ (q.pending = true ∧ q.enabled = true ∧ q.active = false ∧ q.group1 = true)
      ∧ ∀ c' : Core, c'.affinityRegister = k.affinityRegister → w.routedTo c.id.number q i c' = true := by
  obtain ⟨hu, hcurrent, d, hd⟩ := exists_resumed hs hfit hg hk hhome hup
  obtain ⟨rfl, hrenews⟩ := renews_of_bringUp hs hfit hg hk hhome hup
  obtain ⟨h32, h8192, hprivate, hshared⟩ := hc.number
  obtain ⟨x, q₀, hx, hq₀⟩ := hc.exists_at? hu hfit
  have hirq : u.irq? c.id.number i = some q₀ := (State.irq?_of_place _ _ _ hx).trans hq₀
  obtain ⟨p, q₁, -, rfl⟩ := hrenews.exists_renew (fun p _ hp => hp) hu h8192 hirq
  have hlpi : c.id.isLpi = false := by
    rw [c.id.isLpi_eq, decide_eq_false_iff_not]
    omega
  have hreaches : Reaches { g with engine := .running o } o u c.id x := by
    refine ⟨Engine.drives_running o, hu, fun _ h => absurd (h.symm.trans hprivate) (by decide),
      Engine.serves_keeper (Engine.drives_running o) hu hfit (Option.isSome_of_mem hirq) hlpi, ?_⟩
    rw [owner_of_shared (Engine.drives_running o) hprivate, hcurrent]
    exact hx
  have hv : u.affinity? = some k.affinityRegister :=
    Option.map_eq_some_iff.mpr ⟨d, hcurrent ▸ hd.core, hd.affinity⟩
  have hraise := State.raise_of_place (s := u.modify x (Irq.setUp o.isRouted c
    (c.destination o k.affinityRegister))) ((State.place?_modify ..).trans hx)
    (by rw [State.at?_modify_self, hq₀]; rfl)
  rw [State.modify_modify] at hraise
  have hq := State.at?_modify_self u x fun q => { q.setUp o.isRouted c
    (c.destination o k.affinityRegister) with pending := true }
  rw [hq₀, Option.map_some] at hq
  have hreopens := hrenews.reopens hs hk hu h8192 hx hq
  exact ⟨_, _, _, hreaches.puts_configure hfit hv hc.targetable, hraise, by rwa [State.current_modify],
    hreopens, rfl, ⟨rfl, rfl, rfl, rfl⟩, fun c' hc' => hc.routedTo hreopens.sound hc' _ true⟩

end Gic

/-- **A core that is brought up goes on with what it ran.** It reads the priority of that, which is
the lowest one only if nothing runs, and not of all that is set up for it and raised it is told: what
ran before has to be less urgent, and so have LPIs that wait for it. -/
theorem restart_inherits_running {H : Type} {o : Options} {s : State} (hs : Reachable o s)
    (hfit : o.Fits) {g g' : Gic H} (hg : g.engine = .fresh o) {i : Nat} {k : Core}
    (hk : s.cores[i]? = some k) (hhome : o.isRouted = true → ({ s with current := i } : State).home = i)
    {u : State} (hup : g.bringUp s i [i] = some (g', u)) :
    (CpuInterface.runningPriority o.isRouted).run Board.answer (.controller u)
        = (.ok (BitVec.ofNat 8 k.runningPriority), .controller u)
      ∧ (k.runningPriority = 0xff ↔ k.running = [])
      ∧ ∀ c : Gic.Setup, c.Aims o i k.affinityRegister → ∃ v w,
        (g'.configure c).run Board.answer (.controller u) = (.ok (), .controller v)
          ∧ v.raise c.id.number i = .ok w
          ∧ ((CpuInterface.acknowledge o.isRouted).run Board.answer (.controller w)
              = (.ok (some ⟨c.id, none⟩), .controller (w.take i (c.id.number, c.priority)))
            ↔ k.Yields c.priority) := by
  refine ⟨?_, ?_, fun c hc => ?_⟩
  · obtain ⟨hu, rfl, d, hd⟩ := Gic.exists_resumed hs hfit hg hk hhome hup
    have hrun := CpuInterface.run_runningPriority hd.core hd.graded
    have hsame : d.runningPriority = k.runningPriority := by
      rw [Core.runningPriority, Core.runningPriority, hd.running]
    rwa [hu.isRouted, hsame] at hrun
  · rw [Core.runningPriority]
    rcases hl : k.running with _ | ⟨r, rest⟩
    · simp
    · have hbelow := BitVec.lt_def.mp ((hs.graded hk).below r (hl ▸ List.mem_cons_self ..))
      simp only [reduceCtorEq, iff_false]
      exact Nat.ne_of_lt hbelow
  · obtain ⟨v, w, q, hconfigure, hraise, rfl, hw, hpriority, hq, hrouted⟩ :=
      Gic.exists_reopened hs hfit hg hk hhome hup hc
    obtain ⟨h32, h8192, -⟩ := hc.number
    obtain ⟨d, hd⟩ := hw.core
    have hack : w.ack c.id.number = ⟨c.id, none⟩ := by
      simp [State.ack, show ¬ c.id.number < 16 by omega]
    have hlow : q.priority.toNat < 0xff := hpriority ▸ hc.urgent
    refine ⟨v, w, hconfigure, hraise, ?_⟩
    rw [← hw.sound.isRouted, ← hack, CpuInterface.run_acknowledge_iff hw.sound hd.core
      (e := (c.id.number, c.priority)) (by omega), ← hpriority]
    exact ⟨hw.yields_of_next? hfit h8192 hlow, hw.next?_of_yields hfit h8192 hq hlow hrouted⟩

/-- Core 0 of a routed controller was given interrupt 33, of the default priority, and has not
completed it. -/
def Hardware.State.busy : State :=
  [.access (.write .word Region.distributor.base 2),
    .access (.write .word (Region.distributor.base + 0x84) 2),
    .access (.write .word (Region.distributor.base + 0x104) 2),
    .access (.write .byte (Region.distributor.base + 0x400 + 33) 0xa0), .raise 33 0,
    .access (.writeSystem .systemEnable 1), .access (.writeSystem .groupEnable1 1),
    .access (.writeSystem .priorityMask 0xff), .access (.readSystem .acknowledge1)].foldl State.after
      (.reset .routed)

set_option maxRecDepth 100000 in
/-- What is more urgent is taken, on top of that one. -/
theorem restart_inherits_running_below :
    let g : Gic Unit := ⟨.v3, .fresh .routed, false, .empty⟩
    let c : Gic.Setup := ⟨.ofNat 40, .edge, 0x80, none⟩
    ∃ g' u v w t, g.bringUp .busy 0 [0] = some (g', u)
      ∧ (CpuInterface.runningPriority true).run Board.answer (.controller u) = (.ok 0xa0, .controller u)
      ∧ (g'.configure c).run Board.answer (.controller u) = (.ok (), .controller v)
      ∧ v.raise 40 0 = .ok w
      ∧ (CpuInterface.acknowledge true).run Board.answer (.controller w)
        = (.ok (some ⟨.ofNat 40, none⟩), .controller t) := by
  intro g c
  have hs : Reachable .routed .busy := Reachable.reset.foldl _
  have hfacts : (∃ k, State.busy.cores[0]? = some k ∧ k.running = [⟨33, 0xa0⟩]
        ∧ k.redistributorControl = 0 ∧ k.wakerStuck = false ∧ k.writeStuck = false)
      ∧ State.busy.writeStuck = false ∧ ({ State.busy with current := 0 } : State).home = 0
      ∧ ((State.reset .routed).irq? 40 0).isSome = true := by decide +kernel
  obtain ⟨⟨k, hk, hrunning, hcontrol, hwakes, hcompletes⟩, hwrites, hhome, hbuilt⟩ := hfacts
  obtain ⟨u, hup, -⟩ := Gic.bringUp_alone (g := g) hs fits_routed rfl hk (fun _ => hhome)
    fun _ => ⟨hwrites, hwakes, hcompletes⟩
  obtain ⟨hread, -, htakes⟩ := restart_inherits_running hs fits_routed rfl hk (fun _ => hhome) hup
  have hyields : k.Yields 0x80 := by
    refine ⟨by rw [hrunning]; decide, fun hon => ?_⟩
    rw [hcontrol] at hon
    exact absurd hon (by decide)
  have hpriority : BitVec.ofNat 8 k.runningPriority = 0xa0 := by
    rw [Core.runningPriority, hrunning]
    rfl
  obtain ⟨v, w, hconfigure, hraise, htaken⟩ := htakes c ⟨.inl (by decide), hbuilt, by decide, rfl⟩
  exact ⟨_, u, v, w, _, hup, hpriority ▸ hread, hconfigure, hraise, htaken.mpr hyields⟩

set_option maxRecDepth 100000 in
/-- And what is not more urgent is not told at all. -/
theorem restart_deafened :
    let g : Gic Unit := ⟨.v2, .fresh .banked, false, .empty⟩
    let c : Gic.Setup := ⟨.ofNat 40, .edge, 0x80, some ⟨0, 0, 0, 0⟩⟩
    ∃ s g' u v w, Reachable .banked s ∧ g.bringUp s 0 [0] = some (g', u)
      ∧ (CpuInterface.runningPriority false).run Board.answer (.controller u) = (.ok 0, .controller u)
      ∧ (g'.configure c).run Board.answer (.controller u) = (.ok (), .controller v)
      ∧ v.raise 40 0 = .ok w
      ∧ (CpuInterface.acknowledge false).run Board.answer (.controller w) = (.ok none, .controller w) := by
  intro g c
  let s := CpuInterface.bankedService.foldl State.after (.reset .banked)
  have hs : Reachable .banked s := Reachable.reset.foldl _
  have hfacts : (∃ k, s.cores[0]? = some k ∧ k.running = [⟨33, 0⟩])
      ∧ ((State.reset .banked).irq? 40 0).isSome = true := by decide +kernel
  obtain ⟨⟨k, hk, hrunning⟩, hbuilt⟩ := hfacts
  have hbanked : Options.banked.isRouted ≠ true := by decide
  have hhome (ho : Options.banked.isRouted = true) : ({ s with current := 0 } : State).home = 0 :=
    absurd ho hbanked
  obtain ⟨u, hup, -⟩ := Gic.bringUp_alone (g := g) hs fits_banked rfl hk hhome fun ho => absurd ho hbanked
  obtain ⟨hu, hcurrent, d, hd⟩ := Gic.exists_resumed hs fits_banked rfl hk hhome hup
  obtain ⟨v, w, q, hconfigure, hraise, hcurrent', hw, -⟩ := Gic.exists_reopened hs fits_banked rfl hk
    hhome hup (c := c) ⟨.inl (by decide), hbuilt, by decide, rfl, by decide⟩
  obtain ⟨d', hd'⟩ := hw.core
  have hread := CpuInterface.run_runningPriority (hcurrent ▸ hd.core) hd.graded
  have hpriority : BitVec.ofNat 8 d.runningPriority = 0 := by
    rw [Core.runningPriority, hd.running, hrunning]
    rfl
  have hnone : w.next? w.current = none := by
    rw [hcurrent', State.next?_eq_none hd'.core, List.eq_nil_iff_forall_not_mem]
    intro e he
    obtain ⟨q', hq', -⟩ := (State.mem_deliverableList hw.sound fits_banked hd'.core).mp he
    have hlt := (State.preempts_iff hd'.graded).mp hq'.preempts ⟨33, 0⟩
      (by rw [hd'.running, hrunning]; exact List.mem_cons_self ..)
    exact absurd (BitVec.lt_def.mp hlt) (Nat.not_lt_zero _)
  have hack := CpuInterface.run_acknowledge hw.sound (hcurrent' ▸ hd'.core)
    fun e he => absurd (hnone.symm.trans he) (Option.some_ne_none e).symm
  rw [hu.isRouted, hpriority] at hread
  rw [hw.sound.isRouted, State.taken, hnone] at hack
  exact ⟨s, _, u, v, w, hs, hup, hread, hconfigure, hraise, hack⟩

end InterruptControl
