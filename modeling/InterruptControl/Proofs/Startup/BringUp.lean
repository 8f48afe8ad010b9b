import InterruptControl.Proofs.Hardware.Health
import InterruptControl.Proofs.Startup.Core

/-!
Bring-up as a whole: one core starts the distributor, and then every core starts itself.

Each stage renews some of the interrupts that are built in and touches no others, so what is left
in the end is the same for every order of the stages, and known whatever was there before.
-/

namespace InterruptControl

open Bus Hardware Program

namespace Hardware

/-- The interrupts that are built in. -/
def Options.Built (o : Options) (p : Place) : Prop := o.Shared p ∨ ∃ i < o.cpus, o.Private i p

lemma Options.built_of_seen {o : Options} {cpu : Nat} {p : Place} (hcpu : cpu < o.cpus)
    (hp : o.Shared p ∨ o.Private cpu p) : o.Built p := hp.imp_right fun hp => ⟨cpu, hcpu, hp⟩

namespace State

/-- A call that neither fails nor is refused: its result, and what is left. -/
def accomplish? {α : Type} (s : State) (p : Program (Except Refusal α)) : Option (α × State) :=
  match s.perform p with
  | (.ok (.ok a), t) => some (a, t)
  | _ => none

lemma accomplish?_of_run {α : Type} {s t : State} {p : Program (Except Refusal α)} {a : α}
    (h : p.run Board.answer (.controller s) = (.ok (.ok a), .controller t)) :
    s.accomplish? p = some (a, t) := by
  rw [accomplish?, perform, h]
  rfl

lemma accomplish?_of_error {α : Type} {s : State} {p : Program (Except Refusal α)} {e : Failure}
    {b : Board} (h : p.run Board.answer (.controller s) = (.error e, b)) : s.accomplish? p = none := by
  rw [accomplish?, perform, h]

lemma reachable_of_accomplish? {α : Type} {o : Options} {s t : State} {p : Program (Except Refusal α)}
    {a : α} (hs : Reachable o s) (h : s.accomplish? p = some (a, t)) : Reachable o t := by
  have hleft := hs.perform p
  unfold accomplish? at h
  split at h
  next hp =>
    obtain ⟨-, rfl⟩ := Prod.mk.inj (Option.some.inj h)
    rwa [hp] at hleft
  next => simp at h

/-- Nothing is stuck, and the software can tell the cores by the affinities that they came up
with. -/
structure Intact (o : Options) (s : State) : Prop where
  writes : s.writeStuck = false
  core {i : Nat} {c : Core} (hc : s.cores[i]? = some c) : c.Ready o i
  distinct : o.Distinct

/-- The registers after core `i` was started. -/
def visit (o : Options) (twoStep : Bool) (s : State) (i : Nat) : State :=
  ({ s with current := i } : State).modifyCore i (Core.started o.isRouted twoStep)

/-- The registers once the distributor and all cores are started, `last` as the last one. -/
def started (o : Options) (twoStep : Bool) (s : State) (last : Nat) : State :=
  { s with
    control := o.runningControl
    cores := s.cores.map (Core.started o.isRouted twoStep)
    current := last }

/-- All that bring-up relies on. A banked controller is never waited for. -/
structure Startable (o : Options) (s : State) : Prop where
  sound : s.Sound o
  masked : s.Masked
  intact : o.isRouted = true → s.Intact o

variable {o : Options} {s t : State} {A : Place → Prop} {twoStep : Bool} {i : Nat} {l : List Nat}

namespace Startable

lemma of_bare (h : s.Startable o) (hb : t.bare = s.bare) : t.Startable o := by
  refine ⟨h.sound.of_bare hb, h.masked.of_bare hb, fun hr => ?_⟩
  obtain ⟨hwrites, hcore, hdistinct⟩ := h.intact hr
  refine ⟨(congrArg writeStuck hb :).trans hwrites, fun {i c'} hc' => ?_, hdistinct⟩
  obtain ⟨c, hc, he⟩ := exists_core_of_bare hb hc'
  have hready := hcore hc
  exact ⟨(congrArg Core.writeStuck he :).trans hready.writes,
    (congrArg Core.wakerStuck he :).trans hready.wakes,
    (congrArg Core.affinityRegister he :).trans hready.affinity⟩

lemma setCurrent (h : s.Startable o) (hi : i < o.cpus) : ({ s with current := i } : State).Startable o :=
  ⟨h.sound.setCurrent hi, h.masked.setCurrent i,
    fun hr => ⟨(h.intact hr).writes, (h.intact hr).core, (h.intact hr).distinct⟩⟩

lemma setControl (h : s.Startable o) :
    ({ s with control := o.runningControl } : State).Startable o := by
  have hsecurity : o.runningControl.getLsbD 6 = false := by
    rw [Options.runningControl]
    split
    · rcases o.security <;> rfl
    · rfl
  exact ⟨⟨h.sound.options, h.sound.size, h.sound.current, h.sound.core⟩,
    ⟨fun _ => hsecurity, h.masked.probe, h.masked.core⟩,
    fun hr => ⟨(h.intact hr).writes, (h.intact hr).core, (h.intact hr).distinct⟩⟩

/-- Starting a core touches nothing that bring-up relies on. -/
lemma visit (h : s.Startable o) (hi : i < o.cpus) : (s.visit o twoStep i).Startable o := by
  have h := h.setCurrent hi
  have hkeeps (c : Core) : (Core.started o.isRouted twoStep c).writeStuck = c.writeStuck
      ∧ (Core.started o.isRouted twoStep c).wakerStuck = c.wakerStuck
      ∧ (Core.started o.isRouted twoStep c).affinityRegister = c.affinityRegister
      ∧ (Core.started o.isRouted twoStep c).redistributorControl = c.redistributorControl
      ∧ (Core.started o.isRouted twoStep c).kept o.isRouted = c.kept o.isRouted := by
    cases o.isRouted
    · exact ⟨rfl, rfl, rfl, rfl, rfl⟩
    · exact ⟨rfl, rfl, rfl, rfl, rfl⟩
  refine ⟨h.sound.modifyCore fun c hc => hc.of_kept (hkeeps c).2.2.2.2.symm,
    h.masked.modifyCore fun c hc => (congrArg (BitVec.getLsbD · 3) (hkeeps c).2.2.2.1).trans hc,
    fun hr => ?_⟩
  obtain ⟨hwrites, hcore, hdistinct⟩ := h.intact hr
  refine ⟨hwrites, fun {j c'} hc' => ?_, hdistinct⟩
  rw [State.visit, getElem?_modifyCore] at hc'
  split at hc'
  · obtain ⟨c, hc, rfl⟩ := Option.map_eq_some_iff.mp hc'
    have hready := hcore hc
    obtain ⟨hstuck, hwaker, haffinity, -⟩ := hkeeps c
    exact ⟨hstuck.trans hready.writes, hwaker.trans hready.wakes, haffinity.trans hready.affinity⟩
  · exact hcore hc'

end Startable

/-! ### The cores in any order -/

lemma Renews.foldl_visit (h : Renews o A s t) (l : List Nat) :
    Renews o A (l.foldl (visit o twoStep) s) (l.foldl (visit o twoStep) t) := by
  induction l generalizing s t with
  | nil => exact h
  | cons i l ih => exact ih ((h.setCurrent i).modifyCore i (Core.apart_started o.isRouted twoStep))

lemma foldl_visit_eq (o : Options) (twoStep : Bool) (s : State) (l : List Nat) :
    l.foldl (visit o twoStep) s = { s with
      cores := l.foldl (fun a i => a.modify i (Core.started o.isRouted twoStep)) s.cores
      current := l.getLastD s.current } := by
  induction l generalizing s with
  | nil => rfl
  | cons i l ih =>
    rw [List.foldl_cons, ih, List.getLastD_cons]
    rfl

lemma foldl_modify {α : Type} {f : α → α} (a : Array α) (hl : l.Nodup) (j : Nat) :
    (l.foldl (fun a i => a.modify i f) a)[j]? = if j ∈ l then a[j]?.map f else a[j]? := by
  induction l generalizing a with
  | nil => simp
  | cons i l ih =>
    obtain ⟨hi, hl⟩ := List.nodup_cons.mp hl
    rw [List.foldl_cons, ih _ hl, Array.getElem?_modify]
    rcases eq_or_ne j i with rfl | hj
    · simp [hi]
    · simp [hj, hj.symm]

/-- The order matters only for who is the last one. -/
lemma foldl_visit_of_perm (hl : l.Perm (List.range s.cores.size)) :
    l.foldl (visit o twoStep) s = { s with
      cores := s.cores.map (Core.started o.isRouted twoStep)
      current := l.getLastD s.current } := by
  have hnodup : l.Nodup := hl.nodup_iff.mpr List.nodup_range
  have hcores : l.foldl (fun a i => a.modify i (Core.started o.isRouted twoStep)) s.cores
      = s.cores.map (Core.started o.isRouted twoStep) := by
    refine Array.ext_getElem? fun j => ?_
    have hmem : j ∈ l ↔ j < s.cores.size := hl.mem_iff.trans List.mem_range
    rw [foldl_modify _ hnodup, Array.getElem?_map]
    split
    next hj => rfl
    next hj => rw [Array.getElem?_eq_none (Nat.le_of_not_lt (mt hmem.mpr hj)), Option.map_none]
  rw [foldl_visit_eq, hcores]

end State

end Hardware

/-! ### The front end -/

/-- What is built to drive a controller. -/
def Engine.fresh (o : Options) : Engine :=
  if o.isRouted then
    .routed (.ofBases Region.distributor.base Region.redistributors.base o.stride)
  else .banked (.ofBases Region.distributor.base Region.interface.base)

/-- A new driver of a routed controller knows nothing of the security state. -/
lemma Engine.fresh_routed {o : Options} (ho : o.isRouted = true) :
    Engine.fresh o = .routed ⟨⟨Region.distributor.base, .nonSecure⟩, Region.redistributors.base,
      o.stride, false⟩ := by
  have hstride : o.stride ≠ 0 := by
    rw [Options.stride]
    split <;> decide
  rw [fresh, ho, if_pos rfl, Routed.Driver.ofBases, if_neg hstride]

/-- What it has become once it has started the distributor. -/
def Engine.running (o : Options) : Engine :=
  if o.isRouted then
    .routed ⟨⟨Region.distributor.base, o.security⟩, Region.redistributors.base, o.stride, true⟩
  else .banked ⟨⟨Region.distributor.base⟩, ⟨Region.interface.base⟩, o.sharedLimit, true⟩

lemma Engine.drives_running (o : Options) : (Engine.running o).Drives o := by
  rcases ho : o.isRouted with _ | _
  · rw [running, ho, if_neg Bool.false_ne_true]
    exact .banked ho _ _
  · rw [running, ho, if_pos rfl]
    exact .routed ho _ _

namespace Gic

variable {H : Type}

/-- The cores start themselves, one after the other. -/
def startCores (g : Gic H) (s : State) : List Nat → Option State
  | [] => some s
  | i :: l => do
    let (_, t) ← (s.after (.setCurrent i)).accomplish? g.startCore
    g.startCores t l

/-- Core `first` starts the distributor, and then the cores start themselves in the given order. -/
def bringUp (g : Gic H) (s : State) (first : Nat) (order : List Nat) : Option (Gic H × State) := do
  let (g', t) ← (s.after (.setCurrent first)).accomplish? g.start
  let u ← g'.startCores t order
  pure (g', u)

variable {g : Gic H} {o : Options} {s : State} {i : Nat}

lemma after_setCurrent (hs : s.Sound o) (hi : i < o.cpus) :
    s.after (.setCurrent i) = { s with current := i } := by
  rw [State.after, State.setCurrent, if_pos (hs.size ▸ hi)]
  rfl

section Start

variable (hs : s.Sound o) (hfit : o.Fits)
include hs hfit

lemma run_start_banked (ho : o.isRouted = false) (hg : g.engine = .fresh o) {c : Core}
    (hc : s.cores[s.current]? = some c) :
    ∃ t, g.start.run Board.answer (.controller s)
        = (.ok (.ok { g with engine := .running o }), .controller t)
      ∧ State.Renews o (fun p => o.Spi p ∨ o.Private s.current p)
          { s with control := o.runningControl } t := by
  obtain ⟨t, hrun, ht⟩ := Banked.Driver.run_start hs hfit ho hc 0
  have hengine : Engine.running o = .banked ⟨⟨Region.distributor.base⟩, ⟨Region.interface.base⟩,
      o.sharedLimit, true⟩ := by rw [Engine.running, ho, if_neg Bool.false_ne_true]
  rw [Engine.fresh, ho, if_neg Bool.false_ne_true] at hg
  refine ⟨t, ?_, ht⟩
  rw [Gic.start, hg, hengine]
  exact (run_bind_ok (run_notify ..)).trans ((run_bind_ok hrun).trans (run_pure ..))

variable (hm : s.Masked)
include hm

lemma run_start_routed (ho : o.isRouted = true) (hg : g.engine = .fresh o)
    (hwrites : s.writeStuck = false) {c : Core} (hc : s.cores[s.current]? = some c) :
    ∃ t, g.start.run Board.answer (.controller s)
        = (.ok (.ok { g with engine := .running o }), .controller t)
      ∧ State.Renews o o.Shared { s with control := o.runningControl } t := by
  obtain ⟨t, hrun, ht⟩ := Routed.Driver.run_start .nonSecure hs hfit ho hm hwrites hc
  have hengine : Engine.running o = .routed ⟨⟨Region.distributor.base, o.security⟩,
      Region.redistributors.base, o.stride, true⟩ := by rw [Engine.running, ho, if_pos rfl]
  rw [Engine.fresh_routed ho] at hg
  refine ⟨t, ?_, ht⟩
  rw [Gic.start, hg, hengine]
  exact (run_bind_ok (run_notify ..)).trans ((run_bind_ok hrun).trans (run_pure ..))

variable (hi : i < o.cpus)
include hi

/-- The core that starts the distributor of a banked controller has its private interrupts renewed
along with the shared ones. -/
lemma accomplish_start (hg : g.engine = .fresh o) (hwrites : o.isRouted = true → s.writeStuck = false) :
    ∃ t, (s.after (.setCurrent i)).accomplish? g.start = some ({ g with engine := .running o }, t)
      ∧ State.Renews o (fun p => o.Shared p ∨ o.isRouted = false ∧ o.Private i p)
          { s with
            current := i
            control := o.runningControl } t := by
  rw [after_setCurrent hs hi]
  have hs := hs.setCurrent hi
  obtain ⟨c, hc⟩ := hs.exists_core_of_lt hi
  rcases ho : o.isRouted with _ | _
  · obtain ⟨t, hrun, ht⟩ := run_start_banked hs hfit ho hg hc
    refine ⟨t, State.accomplish?_of_run hrun, ht.congr fun p => ?_⟩
    have hnone : ¬ o.ExtendedSpi p := by
      rintro ⟨k, hk, -⟩
      rw [Options.extendedCount_of_banked ho] at hk
      exact Nat.not_lt_zero k hk
    simp only [Options.Shared, hnone, or_false, true_and]
  · obtain ⟨t, hrun, ht⟩ := run_start_routed hs hfit (hm.setCurrent i) ho hg (hwrites ho) hc
    refine ⟨t, State.accomplish?_of_run hrun, ht.congr fun p => ?_⟩
    simp only [Bool.true_eq_false, false_and, or_false]

/-- A banked controller is never waited for. -/
lemma accomplish_startCore (hg : g.engine = .running o) {c : Core} (hc : s.cores[i]? = some c)
    (hhome : o.isRouted = true → ({ s with current := i } : State).home = i)
    (hstuck : o.isRouted = true → c.wakerStuck = false ∧ c.writeStuck = false) :
    ∃ t, (s.after (.setCurrent i)).accomplish? g.startCore = some ((), t)
      ∧ State.Renews o (o.Private i) (s.visit o g.twoStep i) t := by
  rw [after_setCurrent hs hi]
  have hs := hs.setCurrent hi
  rcases ho : o.isRouted with _ | _
  · rw [Engine.running, ho, if_neg Bool.false_ne_true] at hg
    obtain ⟨t, hrun, ht⟩ := Banked.Driver.run_startCore hs ho hc o.sharedLimit g.twoStep
    refine ⟨t, State.accomplish?_of_run ?_, ht⟩
    rw [Gic.startCore, hg]
    exact hrun
  · rw [Engine.running, ho, if_pos rfl] at hg
    obtain ⟨t, hrun, ht⟩ := Routed.Driver.run_startCore hs hfit ho (hm.setCurrent i) (hhome ho) hc
      (hstuck ho).1 (hstuck ho).2 o.security g.twoStep
    refine ⟨t, State.accomplish?_of_run ?_, ht⟩
    rw [Gic.startCore, hg]
    exact hrun

end Start

/-- The cores that start themselves find their own redistributors, and none of them is stuck. -/
lemma startCores_eq (hg : g.engine = .running o) (h : s.Startable o) (hfit : o.Fits) {l : List Nat}
    (hl : ∀ i ∈ l, i < o.cpus) :
    ∃ t, g.startCores s l = some t ∧ t.Startable o
      ∧ State.Renews o (fun p => ∃ i ∈ l, o.Private i p) (l.foldl (State.visit o g.twoStep) s) t := by
  induction l generalizing s with
  | nil => exact ⟨s, rfl, h, rfl, fun ⟨_, hi, _⟩ => absurd hi List.not_mem_nil, fun _ => rfl⟩
  | cons i l ih =>
    obtain ⟨hi, hl⟩ := List.forall_mem_cons.mp hl
    obtain ⟨c, hc⟩ := h.sound.exists_core_of_lt hi
    have hready (ho : o.isRouted = true) := (h.intact ho).core hc
    obtain ⟨t, hrun, ht⟩ := accomplish_startCore h.sound hfit h.masked hi hg hc
      (fun ho => (Routed.home_eq_current (h.sound.setCurrent hi) ho (h.intact ho).distinct hc
        (hready ho).affinity).2)
      fun ho => ⟨(hready ho).wakes, (hready ho).writes⟩
    obtain ⟨u, hrest, hstartable, hu⟩ := ih ((h.visit hi).of_bare ht.bare) hl
    refine ⟨u, ?_, hstartable, ((ht.foldl_visit l).union hu).congr fun p => by simp⟩
    rw [startCores, hrun]
    exact hrest

/-- All that is left when one core has started the distributor and some cores themselves. -/
lemma bringUp_eq (hg : g.engine = .fresh o) (h : s.Startable o) (hfit : o.Fits) (hi : i < o.cpus)
    {l : List Nat} (hl : ∀ i ∈ l, i < o.cpus) :
    ∃ t, g.bringUp s i l = some ({ g with engine := .running o }, t) ∧ t.Startable o
      ∧ State.Renews o (fun p => (o.Shared p ∨ o.isRouted = false ∧ o.Private i p)
          ∨ ∃ i ∈ l, o.Private i p)
        (l.foldl (State.visit o g.twoStep)
          { s with
            current := i
            control := o.runningControl }) t := by
  obtain ⟨t, hstart, ht⟩ := accomplish_start h.sound hfit h.masked hi hg fun ho => (h.intact ho).writes
  obtain ⟨u, hcores, hstartable, hu⟩ := startCores_eq (g := { g with engine := .running o }) rfl
    ((h.setCurrent hi).setControl.of_bare ht.bare) hfit hl
  refine ⟨u, ?_, hstartable, (ht.foldl_visit l).union hu⟩
  rw [bringUp, hstart]
  show ((startCores _ t l).bind fun u => some (_, u)) = _
  rw [hcores]
  rfl

/-- Once all cores are started, all interrupts are renewed that are built in. -/
lemma bringUp_of_perm (hg : g.engine = .fresh o) (h : s.Startable o) (hfit : o.Fits) (hi : i < o.cpus)
    {l : List Nat} (hl : l.Perm (List.range o.cpus)) :
    ∃ t, g.bringUp s i l = some ({ g with engine := .running o }, t) ∧ t.Startable o
      ∧ State.Renews o o.Built (s.started o g.twoStep (l.getLastD i)) t := by
  have hmem (j : Nat) : j ∈ l ↔ j < o.cpus := hl.mem_iff.trans List.mem_range
  obtain ⟨u, hrun, hstartable, hu⟩ := bringUp_eq hg h hfit hi fun j hj => (hmem j).mp hj
  refine ⟨u, hrun, hstartable, ?_⟩
  rw [State.foldl_visit_of_perm (by exact h.sound.size ▸ hl)] at hu
  refine hu.congr fun p => ?_
  simp only [Options.Built, hmem]
  constructor
  · rintro ((hp | ⟨-, hp⟩) | hp)
    · exact .inl hp
    · exact .inr ⟨i, hi, hp⟩
    · exact .inr hp
  · rintro (hp | hp)
    · exact .inl (.inl hp)
    · exact .inr hp

end Gic

/-! ### The known state -/

namespace Hardware

/-- Every interrupt that is built in is disabled, neither pending nor active, and of group 1 with the
default priority; shared ones are level triggered, and those of a banked controller go to core 0.
Every core is open to all priorities and completes interrupts as asked for. -/
structure State.Known (o : Options) (twoStep : Bool) (s : State) : Prop where
  options : s.options = o
  size : s.cores.size = o.cpus
  control : s.control = o.runningControl
  interrupt {id cpu : Nat} {q : Irq} (hid : id < 8192) (hq : s.irq? id cpu = some q) :
    q.enabled = false ∧ q.pending = false ∧ q.active = false ∧ q.group1 = true ∧ q.priority = 0xa0
      ∧ (o.isRouted = true → q.groupModifier = false)
  shared {id cpu : Nat} {q : Irq} (hid : isCoreNumber id = false) (hq : s.irq? id cpu = some q) :
    q.edge = false ∧ (o.isRouted = false → q.targets = 1)
  core {i : Nat} {c : Core} (hc : s.cores[i]? = some c) : s.priorityLimit c = 0xff
    ∧ s.deliveryEnabled c = true ∧ c.twoStep o.isRouted = twoStep ∧ (o.isRouted = true → c.asleep = false)

namespace State

variable {o : Options} {s t : State} {twoStep : Bool} {id cpu i : Nat} {p : Place}

/-- Of the interrupts that a core sees, only LPIs are not built in. -/
lemma built_of_place? (hs : s.Sound o) (hp : s.place? id cpu = some p) (hid : id < 8192) :
    cpu < o.cpus ∧ (o.Shared p ∨ o.Private cpu p) ∧ p.isShared = !isCoreNumber id := by
  obtain ⟨c, hc, hleads⟩ := leadsTo_of_place? hp
  have hcpu : cpu < o.cpus := hs.size ▸ (Array.getElem?_eq_some_iff.mp hc).1
  obtain rfl := hs.options
  have h32 := privateCount_ge s.options
  have h96 := Bank.privateCount_le s.options
  have h1020 := sharedLimit_le s.options
  have hnumber {b : Bool} (h : isCoreNumber id = true ↔ b = false) : b = !isCoreNumber id := by
    cases b <;> simp_all
  refine ⟨hcpu, ?_⟩
  cases hleads with
  | lpi h => omega
  | own h =>
    refine ⟨.inr ⟨id, by omega, rfl⟩, hnumber ?_⟩
    simp [isCoreNumber, Place.isShared, h]
  | extendedOwn hr h h' =>
    refine ⟨.inr ⟨id - 1024, by omega, rfl⟩, hnumber ?_⟩
    simp [isCoreNumber, Place.isShared]
    omega
  | shared h h' =>
    refine ⟨.inl (.inl ⟨id, h, h', rfl⟩), hnumber ?_⟩
    simp [isCoreNumber, Place.isShared]
    omega
  | extendedShared h h' h8 =>
    refine ⟨.inl (.inr ⟨id - 4096, by omega, ?_⟩), hnumber ?_⟩
    · rw [show 1024 + (id - 4096) = id - 3072 by omega]
    · simp [isCoreNumber, Place.isShared]
      omega

/-- What a core sees was renewed if all was that is built in for it. -/
lemma Renews.exists_renew {A : Place → Prop} (h : Renews o A s t)
    (hA : ∀ p, cpu < o.cpus → o.Shared p ∨ o.Private cpu p → A p) (ht : t.Sound o) {q : Irq}
    (hid : id < 8192) (hq : t.irq? id cpu = some q) :
    ∃ p q₀, p.isShared = !isCoreNumber id ∧ q = o.renew p q₀ := by
  obtain ⟨p, hp, hq⟩ := Option.bind_eq_some_iff.mp hq
  obtain ⟨hcpu, hbuilt, hshared⟩ := built_of_place? ht hp hid
  rw [h.on (hA p hcpu hbuilt)] at hq
  obtain ⟨q₀, -, rfl⟩ := Option.map_eq_some_iff.mp hq
  exact ⟨p, q₀, hshared, rfl⟩

/-- A core that is started is open, and completes interrupts as asked for. -/
lemma core_of_started {c : Core} (hr : s.isRouted = o.isRouted) (hcontrol : s.control = o.runningControl)
    {c₀ : Core} (he : (Core.started o.isRouted twoStep c₀).bare = c.bare) : s.priorityLimit c = 0xff
      ∧ s.deliveryEnabled c = true ∧ c.twoStep o.isRouted = twoStep
      ∧ (o.isRouted = true → c.asleep = false) := by
  rcases ho : o.isRouted with _ | _
  · rw [ho] at hr he
    have hmask : c.mappedPriorityMask = 0xff := (congrArg Core.mappedPriorityMask he :).symm
    have hmapped : c.mappedControl = if twoStep then 0x203 else 3 :=
      (congrArg Core.mappedControl he :).symm
    rw [Options.runningControl, ho, if_neg Bool.false_ne_true] at hcontrol
    simp only [priorityLimit, deliveryEnabled, Core.twoStep, hr, hmask, hmapped, hcontrol,
      Bool.false_eq_true, if_false, false_implies]
    cases twoStep <;> decide
  · rw [ho] at hr he
    have hmask : c.priorityMask = 0xff := (congrArg Core.priorityMask he :).symm
    have hgroup : c.groupEnable1 = 1 := (congrArg Core.groupEnable1 he :).symm
    have henable : c.systemEnable = 7 := (congrArg Core.systemEnable he :).symm
    have hasleep : c.asleep = false := (congrArg Core.asleep he :).symm
    have hmode : c.control = Routed.CpuControl.twoStep.set c₀.control (if twoStep then 1 else 0) &&& 3 :=
      (congrArg Core.control he :).symm
    have hbit : c.control.getLsbD 1 = twoStep := by
      rw [hmode, BitVec.getLsbD_and, BitField.getLsbD_set]
      cases twoStep <;> rfl
    have hdistributor : o.runningControl.getLsbD 1 = true := by
      rw [Options.runningControl, ho, if_pos rfl]
      rcases o.security <;> rfl
    simp only [priorityLimit, deliveryEnabled, Core.twoStep, hr, hmask, hgroup, henable, hcontrol,
      hdistributor, hbit, hasleep]
    exact ⟨rfl, rfl, rfl, fun _ => trivial⟩

lemma Renews.known (h : Renews o o.Built (s.started o twoStep i) t) (ht : t.Sound o) :
    t.Known o twoStep := by
  refine ⟨ht.options, ht.size, control_of_bare h.bare, fun hid hq => ?_, fun {id _ q} hid hq => ?_,
    fun {i c} hc => ?_⟩
  · obtain ⟨p, q, -, rfl⟩ := h.exists_renew (fun _ => Options.built_of_seen) ht hid hq
    refine ⟨rfl, rfl, rfl, rfl, rfl, fun ho => ?_⟩
    rw [Options.renew, ho]
    rfl
  · have hlt : id < 8192 := by
      simp only [isCoreNumber, Bool.or_eq_false_iff, decide_eq_false_iff_not] at hid
      omega
    obtain ⟨p, q, hp, rfl⟩ := h.exists_renew (fun _ => Options.built_of_seen) ht hlt hq
    rw [hid] at hp
    refine ⟨by rw [Options.renew, hp]; rfl, fun ho => ?_⟩
    rw [Options.renew, hp, ho]
    rfl
  · obtain ⟨c', hc', he⟩ := exists_core_of_bare h.bare hc
    obtain ⟨c₀, -, rfl⟩ := Option.map_eq_some_iff.mp (Array.getElem?_map .. ▸ hc')
    exact core_of_started ht.isRouted (control_of_bare h.bare) he.symm

end State

end Hardware

/-- **Bring-up leads to a known state, the same one in every order.** Whatever happened before, if
nothing is stuck and the cores can be told apart, then any core may start the distributor and the
cores may start themselves in any order: nothing fails, and all that differs is who comes last. -/
theorem bringUp_reaches_known {H : Type} {o : Options} {s : State} (hs : Reachable o s) (hfit : o.Fits)
    (hcpus : 0 < o.cpus) (hintact : o.isRouted = true → s.Intact o) {g : Gic H}
    (hg : g.engine = .fresh o) :
    ∃ t : State, t.Known o g.twoStep ∧ ∀ first l, first < o.cpus → l.Perm (List.range o.cpus) →
      g.bringUp s first l
        = some ({ g with engine := .running o }, { t with current := l.getLastD first }) := by
  have hstartable : s.Startable o := ⟨hs.sound, hs.masked, hintact⟩
  obtain ⟨t, -, ht, hrenews⟩ := Gic.bringUp_of_perm hg hstartable hfit hcpus (.refl _)
  refine ⟨t, hrenews.known ht.sound, fun first l hfirst hl => ?_⟩
  obtain ⟨u, hrun, hu, hrenews'⟩ := Gic.bringUp_of_perm hg hstartable hfit hfirst hl
  rw [hrun, hrenews'.unique (hu.sound.of_bare hrenews'.bare.symm) (hrenews.setCurrent (l.getLastD first))]

/-- A routed controller in use: interrupts 5 and 40 are pending, and 40 is enabled. -/
def Hardware.State.used : State :=
  [.access (.write .word Region.distributor.base 0x13),
    .access (.write .word (Region.distributor.base + 0x104) 0x100), .raise 40 0, .raise 5 2,
    .setCurrent 3].foldl State.after (.reset .routed)

/-- Core 2 starts the distributor, and core 1 is the last one to start itself. -/
theorem bringUp_reaches_known_after_use :
    let g : Gic Unit := ⟨.v3, .fresh .routed, true, .empty⟩
    Reachable .routed State.used ∧ Options.routed.Fits ∧ State.used.Intact .routed
      ∧ ∃ t : State, t.Known .routed true ∧ g.bringUp .used 2 [3, 2, 0, 1]
        = some ({ g with engine := .running .routed }, { t with current := 1 }) := by
  intro g
  have hs : Reachable .routed State.used := Reachable.reset.foldl _
  have hcores : ∀ i < State.used.cores.size, ∀ c ∈ State.used.cores[i]?, c.writeStuck = false
      ∧ c.wakerStuck = false ∧ c.affinityRegister = Options.routed.affinityRegister i := by
    decide +kernel
  have hintact : State.used.Intact .routed := by
    refine ⟨by decide +kernel, fun {i c} hc => ?_, Options.distinct_routed⟩
    obtain ⟨hwrites, hwakes, haffinity⟩ := hcores i (Array.getElem?_eq_some_iff.mp hc).1 c hc
    exact ⟨hwrites, hwakes, haffinity⟩
  obtain ⟨t, ht, hrun⟩ := bringUp_reaches_known hs fits_routed (by decide) (fun _ => hintact) (g := g) rfl
  exact ⟨hs, fits_routed, hintact, t, ht, hrun 2 [3, 2, 0, 1] (by decide) (by decide)⟩

end InterruptControl
