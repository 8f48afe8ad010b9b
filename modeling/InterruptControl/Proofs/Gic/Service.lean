import InterruptControl.Proofs.Gic.Plan

/-!
The service of a plan: once its lines are up, every core is given the interrupts that go to it, in
whatever order the cores have their turns.

The invariant is told by the cores that did not have their turns yet. Exactly the interrupts that go
to one of these are pending, and nothing else could be given to any core. A turn takes one core off
the list.
-/

namespace InterruptControl

open Bus Hardware Program Script

variable {H : Type}

/-! ### What is waiting -/

/-- The interrupt of a job is in order, whether it is pending or not. A shared one goes to no core
but one. -/
structure Job.Settled (o : Options) (x : Job H) (q : Irq) : Prop where
  enabled : q.enabled = true
  inactive : q.active = false
  group : q.group1 = true
  priority : q.priority = x.priority
  targets : x.id.isPrivate = false → o.isRouted = false → q.targets = 1#8 <<< x.target
  route : x.id.isPrivate = false → o.isRouted = true → q.route.getLsbD 31 = false
    ∧ packAffinity q.route = packAffinity (o.affinityRegister x.target)

namespace Hardware.State

/-- All jobs are in order, and those that go to some of the cores are pending. Nothing else is
enabled. -/
structure Awaits (o : Options) (twoStep : Bool) (plan : List (Job H)) (left : List Nat) (s : State) :
    Prop where
  opened : s.Open o twoStep
  job {x : Job H} (hx : x ∈ plan) : ∃ q, s.irq? x.id.number x.target = some q ∧ x.Settled o q
    ∧ q.pending = decide (x.target ∈ left)
  other {id cpu : Nat} {q : Irq} (hid : id < 8192) (hq : s.irq? id cpu = some q)
    (he : q.enabled = true) : ∃ x ∈ plan, x.id.number = id ∧ (x.id.isPrivate = true → x.target = cpu)

variable {o : Options} {s t : State} {twoStep : Bool} {plan : List (Job H)} {left : List Nat}
  {x y : Job H} {i : Nat} {c : Core} {p : Place} {q : Irq}

lemma Alters.place?_eq {f : Job H → Irq → Irq} (h : Alters f plan s t) (id cpu : Nat) :
    t.place? id cpu = s.place? id cpu := by
  obtain ⟨k, -, hbare⟩ := h.bare
  exact place?_of_bare hbare id cpu

lemma Open.of_alters {f : Job H → Irq → Irq} (h : s.Open o twoStep) (ha : Alters f plan s t) :
    t.Open o twoStep := by
  obtain ⟨k, hk, hbare⟩ := ha.bare
  exact (h.setCurrent (h.sound.size ▸ hk)).of_bare hbare

end Hardware.State

namespace Job

variable {o : Options} {s : State} {twoStep : Bool} {x : Job H} {i : Nat} {c : Core} {q : Irq}

/-- An interrupt that was reset is in order once it is set up. -/
lemma settled_made (hx : x.target < o.cpus) (hbanked : o.isRouted = false → o.cpus ≤ 8)
    (hinactive : q.active = false) (hgroup : q.group1 = true) : x.Settled o (x.made o q) := by
  refine ⟨rfl, hinactive, hgroup, rfl, fun hshared ho => ?_, fun hshared ho => ?_⟩
  · have hsmall : x.target < 256 := by
      have := hbanked ho
      omega
    have hid : (x.setup o).id.isPrivate = false := hshared
    rw [made, Irq.setUp, hid, ho]
    simp [Options.address, ho, Nat.mod_eq_of_lt hsmall]
  · have hid : (x.setup o).id.isPrivate = false := hshared
    rw [made, Irq.setUp, hid, ho]
    simp only [Options.address, ho, Bool.not_true, Bool.or_self, Bool.false_eq_true, if_false, if_true]
    exact ⟨Affinity.toRoute_one _,
      (Affinity.packAffinity_toRoute _).trans (Affinity.word_ofCoreRegister _)⟩

lemma Settled.pending (hq : x.Settled o q) (b : Bool) : x.Settled o { q with pending := b } :=
  ⟨hq.enabled, hq.inactive, hq.group, hq.priority, hq.targets, hq.route⟩

/-- The core that a shared interrupt goes to is the target. -/
lemma Settled.routedTo_iff (hq : x.Settled o q) (h : s.Open o twoStep)
    (hbanked : o.isRouted = false → o.cpus ≤ 8) (hdistinct : o.isRouted = true → o.Distinct)
    (hshared : x.id.isPrivate = false) (hid : x.id.number < 8192) (hx : x.target < o.cpus)
    (hc : s.cores[i]? = some c) : s.routedTo x.id.number q i c = true ↔ i = x.target := by
  have hi : i < o.cpus := h.sound.size ▸ (Array.getElem?_eq_some_iff.mp hc).1
  have hnumber : isCoreNumber x.id.number = false := (isCoreNumber_eq hid).trans hshared
  rw [State.routedTo, hnumber, if_neg Bool.false_ne_true, h.sound.isRouted]
  rcases ho : o.isRouted with _ | _
  · have := hbanked ho
    rw [if_neg Bool.false_ne_true, hq.targets hshared ho, ← BitVec.twoPow_eq, BitVec.getLsbD_twoPow,
      Bool.and_eq_true, decide_eq_true_iff, decide_eq_true_iff]
    omega
  · obtain ⟨hone, hpack⟩ := hq.route hshared ho
    rw [if_pos rfl, hone, Bool.false_or, hpack, (h.core hc).2.2.1, beq_iff_eq]
    constructor
    · exact fun he => (hdistinct ho _ _ hx hi he).symm
    · rintro rfl
      rfl

end Job

namespace Hardware.State

variable {o : Options} {s s' t : State} {twoStep : Bool} {plan raised : List (Job H)}
  {left : List Nat} {x : Job H} {i : Nat} {c : Core} {p : Place}

lemma irq?_setCurrent (s : State) (k id cpu : Nat) :
    ({ s with current := k } : State).irq? id cpu = s.irq? id cpu :=
  congrArg (Option.bind (s.place? id cpu)) (funext (at?_setCurrent s k))

/-- The place of a private interrupt is its core's own. -/
lemma target_of_place? {id cpu : Nat} (hid : id < 8192) (hp : s.place? id cpu = some p)
    (hx : x.place? s = some p) : x.id.number = id ∧ (x.id.isPrivate = true → x.target = cpu) := by
  have hnumber : x.id.number = id := (number_of_place? hx).symm.trans (number_of_place? hp)
  subst hnumber
  refine ⟨rfl, fun hprivate => ?_⟩
  have hcore : isCoreNumber x.id.number = true := (Job.isCoreNumber_eq hid).trans hprivate
  obtain ⟨j, rfl⟩ := own_of_place? hx hid hcore
  obtain ⟨k, hk⟩ := own_of_place? hp hid hcore
  exact (Place.own.inj hk).1

namespace Awaits

lemma setCurrent (h : s.Awaits o twoStep plan left) (hi : i < o.cpus) :
    ({ s with current := i } : State).Awaits o twoStep plan left := by
  refine ⟨h.opened.setCurrent hi, fun {x} hx => ?_, fun {id cpu q} hid hq he => ?_⟩
  · rw [irq?_setCurrent]
    exact h.job hx
  · rw [irq?_setCurrent] at hq
    exact h.other hid hq he

/-- What is left after a turn. -/
lemma of_quieted {l : List Nat} {cleared : List Place} (h : s.Awaits o twoStep plan (i :: l))
    (hi : i ∉ l) (hcleared : ∀ x ∈ plan, ∀ p, x.place? s = some p → (p ∈ cleared ↔ x.target = i))
    (hquiet : s.Quieted cleared [] t) : t.Awaits o twoStep plan l := by
  refine ⟨h.opened.of_bare hquiet.bare, fun {x} hx => ?_, fun {id cpu q} hid hq he => ?_⟩
  · obtain ⟨q, hq, hsettled, hpending⟩ := h.job hx
    obtain ⟨p, hp, hat⟩ := Option.bind_eq_some_iff.mp hq
    have hmem := hcleared x hx p hp
    refine ⟨{ q with pending := q.pending && !decide (p ∈ cleared) }, ?_, hsettled.pending _, ?_⟩
    · rw [hquiet.irq?_eq, hp, Option.bind_some, hat]
      simp
    · show (q.pending && !decide (p ∈ cleared)) = decide (x.target ∈ l)
      simp only [hpending, hmem]
      by_cases htarget : x.target = i
      · simp [htarget, hi]
      · simp [htarget]
  · rw [hquiet.irq?_eq] at hq
    obtain ⟨p, hp, hat⟩ := Option.bind_eq_some_iff.mp hq
    obtain ⟨q', hq', rfl⟩ := Option.map_eq_some_iff.mp hat
    refine h.other hid (Option.bind_eq_some_iff.mpr ⟨p, hp, hq'⟩) ?_
    simpa using he

end Awaits

/-- What is served is what could be given, in another order. -/
lemma perm_deliverableList (hs : s.Sound o) (hfit : o.Fits) (hc : s.cores[i]? = some c)
    {served : List (Nat × Priority)} (hserved : ∀ e, e ∈ served ↔ e ∈ s.deliverableList i c)
    (hsorted : served.Pairwise Precedes) : served.Perm (s.deliverableList i c) := by
  have hnodup : served.Nodup := hsorted.imp fun {e e'} h => by
    rintro rfl
    unfold Precedes at h
    omega
  have hnodup' : (s.deliverableList i c).Nodup :=
    .of_map Prod.fst ((deliverableList_sorted hs hfit hc).imp Nat.ne_of_lt)
  exact (List.perm_ext_iff_of_nodup hnodup hnodup').mpr hserved

section Plan

variable (hfit : o.Fits) (hbanked : o.isRouted = false → o.cpus ≤ 8)
  (hdistinct : o.isRouted = true → o.Distinct) (hplan : ∀ x ∈ plan, x.Fits o)
include hfit hbanked hplan

/-- Once all lines are up, all jobs are waiting. -/
lemma Known.awaits (h : s.Known o twoStep) (hopen : s.Open o twoStep)
    (hmade : Alters (Job.made o) plan s s')
    (hraised : Alters (fun _ q => { q with pending := true }) raised s' t) (hperm : raised.Perm plan)
    (hleft : ∀ i < o.cpus, i ∈ left) : t.Awaits o twoStep plan left := by
  have hplace (id cpu : Nat) : t.place? id cpu = s.place? id cpu :=
    (hraised.place?_eq id cpu).trans (hmade.place?_eq id cpu)
  refine ⟨(hopen.of_alters hmade).of_alters hraised, fun {x} hx => ?_, fun {id cpu q} hid hq he => ?_⟩
  · obtain ⟨htarget, hid, -, p, hp⟩ := (hplan x hx).exists_place hfit hopen.sound
    obtain ⟨q, hq⟩ := exists_at? (h.options ▸ hfit) hp
    have hirq : s.irq? x.id.number x.target = some q := Option.bind_eq_some_iff.mpr ⟨p, hp, hq⟩
    obtain ⟨-, -, hinactive, hgroup, -⟩ := h.interrupt hid hirq
    refine ⟨{ x.made o q with pending := true }, ?_,
      (Job.settled_made htarget hbanked hinactive hgroup).pending true, ?_⟩
    · refine Option.bind_eq_some_iff.mpr ⟨p, (hplace ..).trans hp, ?_⟩
      rw [hraised.on (hperm.mem_iff.mpr hx) ((hmade.place?_eq ..).trans hp), hmade.on hx hp, hq]
      rfl
    · exact (decide_eq_true (hleft _ htarget)).symm
  · obtain ⟨p, hp, hat⟩ := Option.bind_eq_some_iff.mp hq
    rw [hplace] at hp
    by_cases hx : ∃ x ∈ plan, x.place? s = some p
    · obtain ⟨x, hx, hxp⟩ := hx
      exact ⟨x, hx, target_of_place? hid hp hxp⟩
    · -- nothing was done to it since it was reset
      have hnone : ∀ x ∈ plan, x.place? s ≠ some p := fun x hxmem hxp => hx ⟨x, hxmem, hxp⟩
      have hnone' : ∀ x ∈ raised, x.place? s' ≠ some p := fun x hxmem hxp =>
        hnone x (hperm.mem_iff.mp hxmem) ((hmade.place?_eq ..).symm.trans hxp)
      rw [hraised.off hnone', hmade.off hnone] at hat
      have hoff := (h.interrupt hid (Option.bind_eq_some_iff.mpr ⟨p, hp, hat⟩)).1
      exact absurd (he.symm.trans hoff) Bool.false_ne_true.symm

namespace Awaits

variable (h : s.Awaits o twoStep plan left)
include hdistinct h

/-- A core may be given its interrupts that are pending, and nothing else. -/
lemma mem_deliverableList (hc : s.cores[i]? = some c) {e : Nat × Priority} :
    e ∈ s.deliverableList i c
      ↔ i ∈ left ∧ ∃ x ∈ plan, x.target = i ∧ e = (x.id.number, x.priority) := by
  obtain ⟨hrunning, hlpis, -, hlimit, hdelivery, -⟩ := h.opened.core hc
  rw [State.mem_deliverableList h.opened.sound hfit hc]
  constructor
  · rintro ⟨q, hq, hpriority⟩
    have hid : e.1 < 8192 := by
      by_contra hlpi
      simpa [hlpis] using (hq.number h.opened.sound hc).2.2 (Nat.le_of_not_lt hlpi)
    obtain ⟨x, hx, hnumber, hprivate⟩ := h.other hid hq.irq hq.enabled
    obtain ⟨q', hq', hsettled, hpending⟩ := h.job hx
    obtain ⟨htarget, -⟩ := (hplan x hx).exists_place hfit h.opened.sound
    obtain ⟨c', hc'⟩ := h.opened.exists_core htarget
    rw [← hnumber] at hid
    have hirq := hq.irq
    rw [← hnumber] at hirq
    have hrouted := hq.routed
    rw [← hnumber] at hrouted
    -- a shared interrupt looks the same from all cores
    have hsame : q' = q ∧ x.target = i := by
      rcases hp : x.id.isPrivate with _ | _
      · have hshared : isCoreNumber x.id.number = false := (Job.isCoreNumber_eq hid).trans hp
        rw [irq?_eq_shared? hshared hc, ← irq?_eq_shared? hshared hc', hq'] at hirq
        obtain rfl := Option.some.inj hirq
        exact ⟨rfl, ((hsettled.routedTo_iff h.opened hbanked hdistinct hp hid htarget hc).mp hrouted).symm⟩
      · obtain rfl := hprivate hp
        exact ⟨Option.some.inj (hq'.symm.trans hirq), rfl⟩
    obtain ⟨rfl, rfl⟩ := hsame
    refine ⟨of_decide_eq_true (hpending.symm.trans hq.pending), x, hx, rfl, ?_⟩
    rw [hnumber, ← hsettled.priority, hpriority]
  · rintro ⟨hi, x, hx, rfl, rfl⟩
    obtain ⟨q, hq, hsettled, hpending⟩ := h.job hx
    obtain ⟨htarget, hid, -⟩ := (hplan x hx).exists_place hfit h.opened.sound
    refine ⟨q, ⟨hq, hdelivery, hpending.trans (decide_eq_true hi), hsettled.enabled, hsettled.inactive,
      fun _ => hsettled.group, ?_, ?_, ?_, fun hlpi => absurd hid (Nat.not_lt.mpr hlpi)⟩,
      hsettled.priority⟩
    · rcases hp : x.id.isPrivate with _ | _
      · exact (hsettled.routedTo_iff h.opened hbanked hdistinct hp hid htarget hc).mpr rfl
      · rw [routedTo, (Job.isCoreNumber_eq hid).trans hp, if_pos rfl]
    · rw [hlimit, hsettled.priority]
      exact (hplan x hx).urgent
    · rw [Core.preempts, hrunning]

/-- A turn of the core takes each of its interrupts once. -/
lemma perm_of_served (hapart : plan.Pairwise Job.Apart) (hc : s.cores[i]? = some c) (hi : i ∈ left)
    {served : List (Nat × Priority)} (hserved : ∀ e, e ∈ served ↔ e ∈ s.deliverableList i c)
    (hsorted : served.Pairwise Precedes) :
    (served.map Prod.fst).Perm ((plan.filter (·.target = i)).map (·.id.number)) := by
  have hnumbers : (served.map Prod.fst).Nodup := by
    rw [((perm_deliverableList h.opened.sound hfit hc hserved hsorted).map Prod.fst).nodup_iff]
    exact (deliverableList_sorted h.opened.sound hfit hc).imp Nat.ne_of_lt
  have hjobs : ((plan.filter (·.target = i)).map (·.id.number)).Nodup := by
    rw [List.Nodup, List.pairwise_map]
    refine (hapart.filter _).imp_of_mem fun {x y} hx hy hxy hn => ?_
    have htx : x.target = i := of_decide_eq_true (List.mem_filter.mp hx).2
    have hty : y.target = i := of_decide_eq_true (List.mem_filter.mp hy).2
    exact (hxy (IntId.ext_number hn)).2 (htx.trans hty.symm)
  refine (List.perm_ext_iff_of_nodup hnumbers hjobs).mpr fun n => ?_
  simp only [List.mem_map, List.mem_filter, decide_eq_true_eq, hserved,
    h.mem_deliverableList hfit hbanked hdistinct hplan hc]
  constructor
  · rintro ⟨e, ⟨-, x, hx, htarget, rfl⟩, rfl⟩
    exact ⟨x, ⟨hx, htarget⟩, rfl⟩
  · rintro ⟨x, ⟨hx, htarget⟩, rfl⟩
    exact ⟨_, ⟨hi, x, hx, htarget, rfl⟩, rfl⟩

/-- The places of what is taken are those of the jobs of the core. -/
lemma mem_served (hapart : plan.Pairwise Job.Apart) (hc : s.cores[i]? = some c) (hi : i ∈ left)
    {served : List (Nat × Priority)} (hserved : ∀ e, e ∈ served ↔ e ∈ s.deliverableList i c)
    (hx : x ∈ plan) (hp : x.place? s = some p) :
    p ∈ served.flatMap (fun e => (s.place? e.1 i).toList) ↔ x.target = i := by
  simp only [List.mem_flatMap, Option.mem_toList, hserved,
    h.mem_deliverableList hfit hbanked hdistinct hplan hc]
  constructor
  · rintro ⟨e, ⟨-, y, hy, rfl, rfl⟩, hplace⟩
    by_contra hne
    obtain ⟨-, hid, -⟩ := (hplan x hx).exists_place hfit h.opened.sound
    have hxy : x.Apart y := hapart.forall hx hy fun he => hne (congrArg Job.target he)
    exact hxy.place?_ne hid hp hplace
  · rintro rfl
    exact ⟨_, ⟨hi, x, hx, rfl, rfl⟩, hp⟩

end Awaits

end Plan

end Hardware.State

/-! ### Turns -/

namespace Script

/-- Calls of handlers of the kind have nothing to do with the controller or its front end. They
succeed whatever machine there is and leave it as it is. -/
structure Detached (handle : Handler → Ack → Session Unit) (kind : Handler → Prop) : Prop where
  apart {h : Handler} (hk : kind h) (a : Ack) (w : World) (m : Machine) :
    handle h a (w.withMachine m) = ((handle h a w).1, (handle h a w).2.withMachine m)
  done {h : Handler} (hk : kind h) (a : Ack) (w : World) :
    (handle h a w).1 = .ok () ∧ (handle h a w).2.subject = w.subject

/-- What a call of a handler leaves. -/
def World.enact (handle : Handler → Ack → Session Unit) (w : World) (c : Handler × Ack) : World :=
  (handle c.1 c.2 w).2

/-- A core has its turn: it dispatches once. -/
def turn (handle : Handler → Ack → Session Unit) (i : Nat) : Session Unit :=
  HardwareOp.perform (.setCurrent i) >>= fun _ => Gic.dispatch (surroundings handle) dispatchBound

/-- The cores have their turns one after the other. None fails, and all that is left of each one are
these calls of handlers and a machine. -/
inductive Rounds (handle : Handler → Ack → Session Unit) :
    List (Nat × List (Handler × Ack)) → World → World → Prop
  | nil (w : World) : Rounds handle [] w w
  | cons {i : Nat} {calls : List (Handler × Ack)} {l : List (Nat × List (Handler × Ack))}
    {w u : World} {m : Machine}
    (hturn : turn handle i w = (.ok (), (calls.foldl (World.enact handle) w).withMachine m))
    (hrest : Rounds handle l ((calls.foldl (World.enact handle) w).withMachine m) u) :
    Rounds handle ((i, calls) :: l) w u

variable {handle : Handler → Ack → Session Unit} {kind : Handler → Prop} {w : World}
  {g : Gic Handler} {o : Options} {s : State} {i : Nat}

lemma Detached.aloof (h : Detached handle kind) : Aloof handle kind where
  apart := h.apart
  staffed {_} hk a {w g} hw hg :=
    ⟨(h.done hk a w).1, g, (h.done hk a w).2.trans hw, .refl g, hg⟩

/-- The handlers that are called are those of the front end, which stays as it is. -/
lemma Detached.exists_calls (h : Detached handle kind) (hw : w.subject = .frontEnd g)
    (hstaffed : g.Staffed kind) {l : List Ack} (hl : ∀ a ∈ l, (g.handler? a).isSome = true) :
    ∃ calls : List (Handler × Ack), (calls.map fun c => (some c.1, c.2)) = l.map (fun a => (g.handler? a, a))
      ∧ (calls.foldl (World.enact handle) w).subject = .frontEnd g
      ∧ l.foldl (World.call handle) w = calls.foldl (World.enact handle) w := by
  induction l generalizing w with
  | nil => exact ⟨[], rfl, hw, rfl⟩
  | cons a l ih =>
    obtain ⟨ha, hl⟩ := List.forall_mem_cons.mp hl
    obtain ⟨f, hf⟩ := Option.isSome_iff_exists.mp ha
    have hkind := hstaffed _ _ (of_handler? hf).2
    have hcall : w.call handle a = w.enact handle (f, a) := by
      rw [World.call, handler?_eq hw, hf]
      rfl
    obtain ⟨calls, hmap, hsubject, hfold⟩ :=
      ih (w := w.enact handle (f, a)) ((h.done hkind a w).2.trans hw) hl
    refine ⟨(f, a) :: calls, ?_, hsubject, ?_⟩
    · rw [List.map_cons, List.map_cons, hmap, hf]
    · rw [List.foldl_cons, hcall, hfold]
      rfl

/-- A core begins its turn. -/
lemma perform_setCurrent (hm : w.machine.Holds s) (hi : i < s.cores.size) :
    ∃ m, HardwareOp.perform (.setCurrent i) w = (.ok .nothing, w.withMachine m)
      ∧ m.Holds { s with current := i } := by
  refine ⟨{ w.machine with board := .controller { s with current := i } }, ?_, rfl, hm.unfed, hm.tracing⟩
  have hset : s.setCurrent i = .ok { s with current := i } := if_pos hi
  exact Session.bind_ok ((happen_apply (f := (·.setCurrent i)) hm.board).trans (by rw [hset]))

lemma handler?_ack (g : Gic Handler) (s : State) {n : Nat} (hn : n < 8192) :
    g.handler? (s.ack n) = g.handlers.find? (.ofNat n) := by
  have hlpi : (IntId.ofNat n).isLpi = false := by
    rw [IntId.isLpi_eq, IntId.number_ofNat (by omega), decide_eq_false_iff_not]
    omega
  exact if_neg (Bool.eq_false_iff.mp hlpi)

section Plan

variable {plan : List (Job Handler)} (hfit : o.Fits) (hbanked : o.isRouted = false → o.cpus ≤ 8)
  (hdistinct : o.isRouted = true → o.Distinct) (hplan : ∀ x ∈ plan, x.Fits o)
  (hapart : plan.Pairwise Job.Apart) (hdetached : Detached handle kind) (hg : g.engine.Drives o)
  (hstaffed : g.Staffed kind) (hhandled : ∀ x ∈ plan, (g.handlers.find? x.id).isSome = true)
include hfit hbanked hdistinct hplan hapart hdetached hg hstaffed hhandled

/-- A turn serves exactly the jobs of the core. -/
lemma exists_turn {l : List Nat} (h : s.Awaits o g.twoStep plan (i :: l)) (hi : i < o.cpus) (hl : i ∉ l)
    (hw : w.subject = .frontEnd g) (hm : w.machine.Holds s) : ∃ (calls : List (Handler × Ack)) (m : Machine) (t : State),
      turn handle i w = (.ok (), (calls.foldl (World.enact handle) w).withMachine m)
        ∧ (calls.foldl (World.enact handle) w).subject = .frontEnd g ∧ m.Holds t
        ∧ t.Awaits o g.twoStep plan l ∧ (calls.map fun c => (some c.1, c.2.id)).Perm
          ((plan.filter (·.target = i)).map fun x => (g.handlers.find? x.id, x.id)) := by
  have hcpus : 0 < o.cpus := Nat.zero_lt_of_lt hi
  have hcurrent := h.setCurrent hi
  have ht := hcurrent.opened.tends hg hcpus
  obtain ⟨c, hc⟩ := h.opened.exists_core hi
  obtain ⟨m₁, hswitch, hm₁⟩ := perform_setCurrent hm (h.opened.sound.size ▸ hi)
  obtain ⟨served, m, t, hserved, hsorted, hserves⟩ := exists_serves (w := w.withMachine m₁)
    hdetached.aloof hfit hw hstaffed ht hm₁ hc le_rfl
  have hmem (e : Nat × Priority) (he : e ∈ served) :
      e.1 < 8192 ∧ (g.handlers.find? (.ofNat e.1)).isSome = true := by
    obtain ⟨-, x, hx, -, rfl⟩ := (hcurrent.mem_deliverableList hfit hbanked hdistinct hplan hc).mp
      ((hserved e).mp he)
    refine ⟨((hplan x hx).exists_place hfit h.opened.sound).2.1, ?_⟩
    rw [IntId.ofNat_number]
    exact hhandled x hx
  have hacks : ∀ a ∈ served.map fun e => ({ s with current := i } : State).ack e.1,
      (g.handler? a).isSome = true := by
    intro a ha
    obtain ⟨e, he, rfl⟩ := List.mem_map.mp ha
    rw [handler?_ack g _ (hmem e he).1]
    exact (hmem e he).2
  obtain ⟨calls, hcalls, hsubject, hfold⟩ := hdetached.exists_calls hw hstaffed hacks
  have hsilenced : (served.flatMap fun e => g.silenced ({ s with current := i } : State) e.1) = [] := by
    refine List.flatMap_eq_nil_iff.mpr fun e he => ?_
    exact if_pos (.inr (hmem e he).2)
  have hquiet := hserves.left
  rw [hsilenced] at hquiet
  have hbound : served.length < dispatchBound := by
    rw [(State.perm_deliverableList hcurrent.opened.sound hfit hc hserved hsorted).length_eq]
    exact length_deliverableList_lt ht hfit hc
  refine ⟨calls, m, t, ?_, hsubject, hserves.holds, ?_, ?_⟩
  · refine (Session.bind_ok hswitch).trans ((hserves.run _ hbound).trans ?_)
    rw [foldl_call_withMachine hdetached.aloof hw hstaffed, hfold]
    rfl
  · refine hcurrent.of_quieted hl (fun x hx p hp => ?_) hquiet
    exact hcurrent.mem_served hfit hbanked hdistinct hplan hapart hc List.mem_cons_self hserved hx hp
  · have hnumbers := hcurrent.perm_of_served hfit hbanked hdistinct hplan hapart hc List.mem_cons_self
      hserved hsorted
    have hids : (calls.map fun c => (some c.1, c.2.id))
        = (served.map Prod.fst).map fun n => (g.handlers.find? (.ofNat n), .ofNat n) := by
      calc calls.map (fun c => (some c.1, c.2.id))
          = (calls.map fun c => (some c.1, c.2)).map fun c => (c.1, c.2.id) := by simp
        _ = served.map fun e => (g.handler? (({ s with current := i } : State).ack e.1), .ofNat e.1) := by
          rw [hcalls, List.map_map, List.map_map]
          rfl
        _ = (served.map Prod.fst).map fun n => (g.handlers.find? (.ofNat n), .ofNat n) := by
          rw [List.map_map]
          refine List.map_congr_left fun e he => ?_
          rw [handler?_ack g _ (hmem e he).1]
          rfl
    have hjobs := hnumbers.map fun n => (g.handlers.find? (.ofNat n), IntId.ofNat n)
    rw [hids]
    simpa only [List.map_map, Function.comp_def, IntId.ofNat_number] using hjobs

/-- The induction is on the cores that are still to come. -/
lemma exists_rounds {l : List Nat} (h : s.Awaits o g.twoStep plan l) (hl : l.Nodup)
    (hlt : ∀ i ∈ l, i < o.cpus) (hw : w.subject = .frontEnd g) (hm : w.machine.Holds s) :
    ∃ (rounds : List (Nat × List (Handler × Ack))) (u : World) (t : State),
      rounds.map Prod.fst = l ∧ Rounds handle rounds w u ∧ u.machine.Holds t
        ∧ t.Awaits o g.twoStep plan [] ∧ ∀ r ∈ rounds, (r.2.map fun c => (some c.1, c.2.id)).Perm
          ((plan.filter (·.target = r.1)).map fun x => (g.handlers.find? x.id, x.id)) := by
  induction l generalizing s w with
  | nil => exact ⟨[], w, s, rfl, .nil w, hm, h, by simp⟩
  | cons i l ih =>
    obtain ⟨hi, hl⟩ := List.nodup_cons.mp hl
    obtain ⟨hicpu, hlt⟩ := List.forall_mem_cons.mp hlt
    obtain ⟨calls, m, t, hturn, hsubject, hmt, ht, hperm⟩ := exists_turn hfit hbanked hdistinct hplan
      hapart hdetached hg hstaffed hhandled h hicpu hi hw hm
    obtain ⟨rounds, u, v, hfst, hrounds, hv, hdone, hall⟩ := ih ht hl hlt
      (w := (calls.foldl (World.enact handle) w).withMachine m) hsubject hmt
    exact ⟨(i, calls) :: rounds, u, v, by rw [List.map_cons, hfst], .cons hturn hrounds, hv, hdone,
      List.forall_mem_cons.mpr ⟨hperm, hall⟩⟩

end Plan

end Script

/-- **No interrupt of a plan is lost or misdelivered.** The cores are brought up in any order, the
jobs are set up by any cores, the lines go up in any order, and then the cores dispatch in any order.
Every core calls the handler of each of its interrupts exactly once, and of no other; in the end all
of them are enabled, neither pending nor active. -/
theorem plan_served {o : Options} (hfit : o.Fits) (hbanked : o.isRouted = false → o.cpus ≤ 8)
    (hdistinct : o.isRouted = true → o.Distinct) {handle : Handler → Ack → Session Unit}
    {kind : Handler → Prop} (hdetached : Detached handle kind)
    {g : Gic Handler} (hg : g.engine = .fresh o) (hstaffed : g.Staffed kind)
    {plan raised : List (Job Handler)} (hplan : ∀ x ∈ plan, x.Fits o ∧ kind x.handler)
    (hapart : plan.Pairwise Job.Apart) (hraised : raised.Perm plan) {first : Nat}
    {started order : List Nat} (hfirst : first < o.cpus) (hstarted : started.Perm (List.range o.cpus))
    (horder : order.Perm (List.range o.cpus)) :
    ∃ g₁ s₁ g₂ s₂ s₃, g.bringUp (.reset o) first started = some (g₁, s₁)
      ∧ g₁.arrange o s₁ plan = some (g₂, s₂) ∧ Job.raise? s₂ raised = some s₃
      ∧ ∀ w : World, w.subject = .frontEnd g₂ → w.machine.Holds s₃ →
        ∃ (rounds : List (Nat × List (Handler × Ack))) (u : World) (t : State),
          rounds.map Prod.fst = order ∧ Rounds handle rounds w u ∧ u.machine.Holds t
          ∧ (∀ r ∈ rounds, (r.2.map fun c => (some c.1, c.2.id)).Perm
            ((plan.filter (·.target = r.1)).map fun x => (Job.handlerOf plan x.id, x.id)))
          ∧ (∀ x ∈ plan, (x.id.isPrivate = true → ∀ y ∈ plan, y.id = x.id → y.handler = x.handler) →
            Job.handlerOf plan x.id = some x.handler)
          ∧ ∀ x ∈ plan, ∃ q, t.irq? x.id.number x.target = some q ∧ q.enabled = true
            ∧ q.pending = false ∧ q.active = false := by
  have hcpus : 0 < o.cpus := Nat.zero_lt_of_lt hfirst
  have hfits (x : Job Handler) (hx : x ∈ plan) : x.Fits o := (hplan x hx).1
  obtain ⟨s₁, hup, hstartable, hrenews⟩ :=
    Gic.bringUp_of_perm hg (State.startable_reset hdistinct) hfit hfirst hstarted
  have hopen₁ := hrenews.open_reset hstartable.sound
  obtain ⟨g₂, s₂, harrange, hengine, htwo, hfind, hmade⟩ := Gic.arrange_eq
    (g := { g with engine := .running o }) (Engine.drives_running o) hopen₁ hfit hcpus hbanked hdistinct
    hfits hapart
  have hopen₂ := hopen₁.of_alters hmade
  obtain ⟨s₃, hraise, hpending⟩ := Job.raise?_eq hopen₂.sound hfit hcpus
    (fun x hx => hfits x (hraised.mem_iff.mp hx)) (hapart.perm hraised.symm Job.Apart.symm)
  have hmem (i : Nat) : i ∈ order ↔ i < o.cpus := horder.mem_iff.trans List.mem_range
  have hawaits : s₃.Awaits o g₂.twoStep plan order := htwo ▸ (hrenews.known hstartable.sound).awaits hfit
    hbanked hfits hopen₁ hmade hpending hraised fun i hi => (hmem i).mpr hi
  have hfound (x : Job Handler) (hx : x ∈ plan) : g₂.handlers.find? x.id = Job.handlerOf plan x.id := by
    rw [hfind, Option.or_of_isSome (Job.isSome_handlerOf hx)]
  have hhandled (x : Job Handler) (hx : x ∈ plan) : (g₂.handlers.find? x.id).isSome = true :=
    hfound x hx ▸ Job.isSome_handlerOf hx
  have hstaffed₂ : g₂.Staffed kind := by
    intro id h hh
    rw [hfind, Option.or_eq_some_iff] at hh
    rcases hh with hh | ⟨-, hh⟩
    · obtain ⟨x, hx, -, rfl⟩ := Job.exists_of_handlerOf hh
      exact (hplan x hx).2
    · exact hstaffed id h hh
  refine ⟨_, s₁, g₂, s₂, s₃, hup, harrange, hraise, fun w hw hm => ?_⟩
  obtain ⟨rounds, u, t, hfst, hrounds, ht, hdone, hcalls⟩ := exists_rounds hfit hbanked hdistinct hfits
    hapart hdetached (hengine ▸ Engine.drives_running o) hstaffed₂ hhandled hawaits
    (horder.nodup_iff.mpr List.nodup_range) (fun i hi => (hmem i).mp hi) hw hm
  refine ⟨rounds, u, t, hfst, hrounds, ht, fun r hr => (hcalls r hr).trans (.of_eq ?_),
    fun x hx hsame => Job.handlerOf_eq hx fun y hy hid => ?_, fun x hx => ?_⟩
  · refine List.map_congr_left fun x hx => ?_
    rw [hfound x (List.mem_of_mem_filter hx)]
  · -- no other job is about the same shared interrupt
    by_contra hne
    have hxy : x.Apart y := hapart.forall hx hy fun he => hne (congrArg Job.handler he.symm)
    exact hne (hsame (hxy hid.symm).1 y hy hid)
  · obtain ⟨q, hq, hsettled, hpending⟩ := hdone.job hx
    exact ⟨q, hq, hsettled.enabled, hpending.trans (decide_eq_false List.not_mem_nil), hsettled.inactive⟩

/-! ### Timers and a device -/

/-- Handlers that only tell that they were called have nothing to do with the front end either. -/
lemma Script.detached_callHandler (perform : Step → Session Result) (frame : Nat) :
    Detached (callHandler perform frame) fun h => h.rounds = [] where
  apart := (aloof_callHandler perform frame).apart
  done {h} hk a w := by
    rcases h with ⟨tag, rounds⟩
    obtain rfl : rounds = [] := hk
    exact ⟨rfl, rfl⟩

/-- Timers of cores 0 and 2, and a device that core 3 sets up for core 1. -/
def Job.timers : List (Job Handler) :=
  [⟨.ofNat 27, .level, 0x80, 0, 0, ⟨"timer", []⟩⟩, ⟨.ofNat 40, .edge, 0x40, 1, 3, ⟨"device", []⟩⟩,
    ⟨.ofNat 27, .level, 0x20, 2, 2, ⟨"timer", []⟩⟩]

/-- All of them are served, in whatever order. -/
theorem plan_served_timers :
    let g : Gic Handler := ⟨.v3, .fresh .routed, true, .empty⟩
    ∃ g₁ s₁ g₂ s₂ s₃, g.bringUp (.reset .routed) 2 [3, 2, 0, 1] = some (g₁, s₁)
      ∧ g₁.arrange .routed s₁ Job.timers = some (g₂, s₂) ∧ Job.raise? s₂ Job.timers.reverse = some s₃
      ∧ ∃ (w : World) (rounds : List (Nat × List (Handler × Ack))) (u : World),
        w.machine.Holds s₃ ∧ rounds.map Prod.fst = [1, 3, 0, 2]
          ∧ Rounds (callHandler (Step.perform 0) 0) rounds w u
          ∧ ∀ r ∈ rounds, (r.2.map fun c => (some c.1, c.2.id)).Perm
            ((Job.timers.filter (·.target = r.1)).map fun x => (some x.handler, x.id)) := by
  intro g
  have hfits : ∀ x ∈ Job.timers, x.Fits .routed := by decide +kernel
  have hkind : ∀ x ∈ Job.timers, x.handler.rounds = [] := by simp [Job.timers]
  have hhandler : ∀ x ∈ Job.timers, x.handler
      = if x.id = .ofNat 27 then ⟨"timer", []⟩ else ⟨"device", []⟩ := by
    simp only [Job.timers, List.forall_mem_cons]
    exact ⟨rfl, rfl, rfl, by simp⟩
  have hnobody : g.Staffed fun h => h.rounds = [] := by
    intro id h hfind
    simp [g, Handlers.find?, Handlers.empty] at hfind
  obtain ⟨g₁, s₁, g₂, s₂, s₃, hup, harrange, hraise, hserved⟩ := plan_served fits_routed
    (fun h => absurd h (by decide)) (fun _ => Options.distinct_routed)
    (detached_callHandler (Step.perform 0) 0) (g := g) rfl hnobody
    (fun x hx => ⟨hfits x hx, hkind x hx⟩) (by decide) (List.reverse_perm _) (show 2 < 4 by decide)
    (show [3, 2, 0, 1].Perm (List.range 4) by decide) (show [1, 3, 0, 2].Perm (List.range 4) by decide)
  obtain ⟨rounds, u, t, hfst, hrounds, -, hcalls, hhandlers, -⟩ := hserved
    { machine := { board := .controller s₃, tracing := true }, subject := .frontEnd g₂ } rfl ⟨rfl, rfl, rfl⟩
  refine ⟨g₁, s₁, g₂, s₂, s₃, hup, harrange, hraise, _, rounds, u, ?_, hfst, hrounds,
    fun r hr => (hcalls r hr).trans (.of_eq ?_)⟩
  · exact ⟨rfl, rfl, rfl⟩
  · refine List.map_congr_left fun x hx => ?_
    have hmem := List.mem_of_mem_filter hx
    rw [hhandlers x hmem fun _ y hy hid => by rw [hhandler y hy, hhandler x hmem, hid]]

end InterruptControl
