import InterruptControl.Proofs.Gic.Plan

/-!
Two controllers, one of each generation, that software cannot tell apart.

They have the same lines and the same few cores, all in one cluster, and neither has anything that
the other generation lacks. What counts of an interrupt is the same in both; where a shared one goes
is kept as a set of cores by the one and as a route by the other, and must come to the same.
-/

namespace InterruptControl

open Bus

/-- Both fail in the same way, or both succeed with results that belong together. -/
inductive Same {ε α β : Type} (A : α → β → Prop) : Except ε α → Except ε β → Prop
  | ok {a : α} {b : β} (h : A a b) : Same A (.ok a) (.ok b)
  | error (e : ε) : Same A (.error e) (.error e)

namespace Hardware

/-- A banked controller and a routed one that are built alike. -/
structure Options.Twins (o o' : Options) : Prop where
  banked : o.isRouted = false
  routed : o'.isRouted = true
  cpus : o'.cpus = o.cpus
  some : 0 < o.cpus
  few : o.cpus ≤ 8
  cluster : o.cpus ≤ max 1 o'.coresPerCluster
  lines : o'.lines = o.lines
  spis : o'.extendedSpi = false
  ppis : o'.privateCount = 32

namespace Options.Twins

variable {o o' : Options} (h : o.Twins o')
include h

/-- The cores of one cluster differ in the lowest level only. -/
lemma affinityRegister {i : Nat} (hi : i < o.cpus) :
    o'.affinityRegister i = BitVec.twoPow 64 31 ||| BitVec.ofNat 64 i := by
  have hlt : i < if o'.coresPerCluster = 0 then 1 else o'.coresPerCluster := by
    have := h.cluster
    split <;> omega
  simp only [Options.affinityRegister, Nat.mod_eq_of_lt hlt, Nat.div_eq_of_lt hlt]
  simp

lemma packAffinity {i : Nat} (hi : i < o.cpus) :
    packAffinity (o'.affinityRegister i) = BitVec.ofNat 32 i := by
  have hall : ∀ i < 8, Hardware.packAffinity (BitVec.twoPow 64 31 ||| BitVec.ofNat 64 i)
      = BitVec.ofNat 32 i := by decide
  rw [h.affinityRegister hi, hall i (hi.trans_le h.few)]

lemma distinct : o'.Distinct := by
  intro i j hi hj he
  rw [h.cpus] at hi hj
  have := h.few
  rw [h.packAffinity hi, h.packAffinity hj] at he
  have := congrArg BitVec.toNat he
  simp only [BitVec.toNat_ofNat] at this
  omega

lemma sharedLimit : o'.sharedLimit = o.sharedLimit := by rw [Options.sharedLimit, h.lines]; rfl

lemma privateCount : o.privateCount = 32 := privateCount_of_banked h.banked

lemma extendedCount : o.extendedCount = 0 ∧ o'.extendedCount = 0 :=
  ⟨extendedCount_of_banked h.banked, by simp [Options.extendedCount, h.spis]⟩

end Options.Twins

/-- The same interrupt, in a banked controller and in a routed one. -/
structure Irq.Twin (o' : Options) (p : Place) (q q' : Irq) : Prop where
  enabled : q'.enabled = q.enabled
  pending : q'.pending = q.pending
  active : q'.active = q.active
  edge : q'.edge = q.edge
  priority : q'.priority = q.priority
  group : q'.group1 = true
  route : p.isShared = true → ∀ i < o'.cpus, q.targets.getLsbD i
    = (q'.route.getLsbD 31 || packAffinity q'.route == packAffinity (o'.affinityRegister i))

/-- The same core, with an interface in memory and with one of system registers. -/
structure Core.Twin (o' : Options) (twoStep : Bool) (i : Nat) (c c' : Core) : Prop where
  running : c'.running = c.running
  lpis : c.lpis = [] ∧ c'.lpis = []
  mask : c'.priorityMask.setWidth 32 = c.mappedPriorityMask
  completion : c.twoStep false = twoStep ∧ c'.twoStep true = twoStep
  affinity : c'.affinityRegister = o'.affinityRegister i

lemma Core.Twin.of_bare {o' : Options} {twoStep : Bool} {i : Nat} {c c' d d' : Core}
    (h : d.Twin o' twoStep i d') (he : c.bare = d.bare) (he' : c'.bare = d'.bare) :
    c.Twin o' twoStep i c' := by
  have hlpis := Core.lpis_of_bare he
  have hlpis' := Core.lpis_of_bare he'
  rw [h.lpis.1] at hlpis
  rw [h.lpis.2] at hlpis'
  have hrunning : c.running = d.running := (congrArg Core.running he :)
  have hrunning' : c'.running = d'.running := (congrArg Core.running he' :)
  have hmask : c.mappedPriorityMask = d.mappedPriorityMask := (congrArg Core.mappedPriorityMask he :)
  have hmask' : c'.priorityMask = d'.priorityMask := (congrArg Core.priorityMask he' :)
  have hmode : c.mappedControl = d.mappedControl := (congrArg Core.mappedControl he :)
  have hmode' : c'.control = d'.control := (congrArg Core.control he' :)
  exact ⟨hrunning' ▸ hrunning ▸ h.running,
    ⟨List.map_eq_nil_iff.mp hlpis, List.map_eq_nil_iff.mp hlpis'⟩, hmask ▸ hmask' ▸ h.mask,
    ⟨(congrArg (·.getLsbD 9) hmode).trans h.completion.1,
      (congrArg (·.getLsbD 1) hmode').trans h.completion.2⟩,
    (congrArg Core.affinityRegister he' :).trans h.affinity⟩

/-- A change of a core that has to do neither with interrupts nor with whether it is given any. -/
structure Core.Eases (f : Core → Core) : Prop where
  kept (c : Core) (routed : Bool) : (f c).kept routed = c.kept routed
  apart (c : Core) : (f c).own = c.own ∧ (f c).lpis = c.lpis
  delivery (s : State) (c : Core) : s.deliveryEnabled (f c) = s.deliveryEnabled c

/-- The same controller, in both generations. -/
structure State.Twin (o o' : Options) (twoStep : Bool) (s s' : State) : Prop where
  sound : s.Sound o
  sound' : s'.Sound o'
  current : s'.current = s.current
  core {i : Nat} {c c' : Core} (hc : s.cores[i]? = some c) (hc' : s'.cores[i]? = some c') :
    c.Twin o' twoStep i c' ∧ s.deliveryEnabled c = true ∧ s'.deliveryEnabled c' = true
  irq {id cpu : Nat} {p : Place} (hp : s.place? id cpu = some p) :
    ∃ q q', s.at? p = some q ∧ s'.at? p = some q' ∧ q.Twin o' p q'

namespace State.Twin

variable {o o' : Options} {twoStep : Bool} {s s' t t' : State} {i id cpu : Nat} {c c' : Core} {p : Place}

section Looking

variable (h : State.Twin o o' twoStep s s') (ho : o.Twins o')
include h ho

lemma size : s'.cores.size = s.cores.size := by rw [h.sound'.size, h.sound.size, ho.cpus]

/-- Each core is there twice. -/
lemma exists_cores (hi : i < o.cpus) : ∃ c c', s.cores[i]? = some c ∧ s'.cores[i]? = some c' :=
  ⟨_, _, Array.getElem?_eq_getElem (h.sound.size ▸ hi),
    Array.getElem?_eq_getElem (h.sound'.size ▸ ho.cpus ▸ hi)⟩

/-- Numbers lead to the same places. -/
lemma place?_eq (id cpu : Nat) : s'.place? id cpu = s.place? id cpu := by
  rcases Nat.lt_or_ge cpu o.cpus with hcpu | hcpu
  · obtain ⟨c, c', hc, hc'⟩ := h.exists_cores ho hcpu
    obtain ⟨hlpis, hlpis'⟩ := (h.core hc hc').1.lpis
    have hextended : ¬ (1056 ≤ id ∧ id < 1024 + o'.privateCount) := by
      rw [ho.ppis]
      omega
    simp only [place?, hc, hc', hlpis, hlpis', h.sound.options, h.sound'.options, h.sound.isRouted,
      h.sound'.isRouted, ho.banked, ho.sharedLimit, ho.extendedCount, Bool.false_and, Bool.and_eq_true,
      decide_eq_true_eq, and_assoc, hextended, and_false, Bool.false_eq_true, if_false]
  · have hnone : s.cores[cpu]? = none := Array.getElem?_eq_none (h.sound.size ▸ hcpu)
    have hnone' : s'.cores[cpu]? = none := Array.getElem?_eq_none (h.sound'.size ▸ ho.cpus ▸ hcpu)
    rw [place?_of_none _ hnone, place?_of_none _ hnone']

/-- And the interrupts there are the same. -/
lemma irq?_cases (id cpu : Nat) : s.irq? id cpu = none ∧ s'.irq? id cpu = none
    ∨ ∃ p q q', s.place? id cpu = some p ∧ s.irq? id cpu = some q ∧ s'.irq? id cpu = some q'
      ∧ q.Twin o' p q' := by
  rcases hp : s.place? id cpu with _ | p
  · exact .inl ⟨by rw [irq?, hp]; rfl, by rw [irq?, h.place?_eq ho, hp]; rfl⟩
  · obtain ⟨q, q', hq, hq', hqq⟩ := h.irq hp
    exact .inr ⟨p, q, q', rfl, (irq?_of_place _ _ _ hp).trans hq,
      (irq?_of_place _ _ _ ((h.place?_eq ho ..).trans hp)).trans hq', hqq⟩

lemma eligible_eq (hc : s.cores[i]? = some c) (hc' : s'.cores[i]? = some c') {q q' : Irq}
    (hp : s.place? id i = some p) (hq : q.Twin o' p q') :
    s'.eligible i c' id q' = s.eligible i c id q := by
  have hcore := (h.core hc hc').1
  have hi : i < o'.cpus := h.sound'.size ▸ (Array.getElem?_eq_some_iff.mp hc').1
  have hrouted : s'.routedTo id q' i c' = s.routedTo id q i c := by
    rcases hid : isCoreNumber id with _ | _
    · have hshared : p.isShared = true := by
        rw [place?_of_shared hid hc] at hp
        obtain ⟨j, -, rfl⟩ := Option.map_eq_some_iff.mp hp
        rfl
      simp only [routedTo, hid, Bool.false_eq_true, if_false, h.sound.isRouted, h.sound'.isRouted,
        ho.banked, ho.routed, if_true, hq.route hshared i hi, hcore.affinity]
    · rw [routedTo, routedTo, hid, if_pos rfl, if_pos rfl]
  have hlimit : s'.priorityLimit c' = s.priorityLimit c := by
    simp only [priorityLimit, h.sound.isRouted, h.sound'.isRouted, ho.banked, ho.routed,
      Bool.false_eq_true, if_false, if_true, hcore.mask]
  simp only [eligible, hrouted, hlimit, Core.preempts, hcore.running, hq.pending, hq.enabled, hq.active,
    hq.priority, hq.group, h.sound.isRouted, ho.banked, Bool.or_true, Bool.not_false, Bool.true_or]

/-- The cores take the same interrupts. -/
lemma next?_eq (i : Nat) : s'.next? i = s.next? i := by
  rcases Nat.lt_or_ge i o.cpus with hi | hi
  · obtain ⟨c, c', hc, hc'⟩ := h.exists_cores ho hi
    obtain ⟨hcore, hdelivery, hdelivery'⟩ := h.core hc hc'
    have hcandidates : s'.candidates c' = s.candidates c := by
      simp only [candidates, h.sound.options, h.sound'.options, ho.sharedLimit, ho.ppis, ho.privateCount,
        ho.extendedCount, hcore.lpis]
      split <;> split <;> rfl
    have hlist : s'.eligibleList i c' = s.eligibleList i c := by
      rw [eligibleList_eq, eligibleList_eq, hcandidates]
      refine List.filterMap_congr fun id _ => ?_
      rcases h.irq?_cases ho id i with ⟨hq, hq'⟩ | ⟨p, q, q', hp, hq, hq', hqq⟩
      · simp only [eligible?, hq, hq']
      · simp only [eligible?, hq, hq', h.eligible_eq ho hc hc' hp hqq, hqq.priority]
    simp only [next?, hc, hc', hdelivery, hdelivery', highestPending?, hlist]
  · have hnone : s.cores[i]? = none := Array.getElem?_eq_none (h.sound.size ▸ hi)
    have hnone' : s'.cores[i]? = none := Array.getElem?_eq_none (h.sound'.size ▸ ho.cpus ▸ hi)
    simp only [next?, hnone, hnone']

end Looking

/-! ### Changes -/

lemma setCurrent (h : State.Twin o o' twoStep s s') (ho : o.Twins o') (hi : i < o.cpus) :
    State.Twin o o' twoStep { s with current := i } { s' with current := i } where
  sound := ⟨h.sound.options, h.sound.size, fun _ => hi, h.sound.core⟩
  sound' := ⟨h.sound'.options, h.sound'.size, fun _ => ho.cpus ▸ hi, h.sound'.core⟩
  current := rfl
  core := h.core
  irq {id cpu p} hp := by
    rw [at?_setCurrent, at?_setCurrent]
    exact h.irq hp

/-- Changes of interrupts, after which they are the same again. -/
lemma of_bare (h : State.Twin o o' twoStep s s') (hb : t.bare = s.bare) (hb' : t'.bare = s'.bare)
    (hirq : ∀ {id cpu p}, s.place? id cpu = some p →
      ∃ q q', t.at? p = some q ∧ t'.at? p = some q' ∧ q.Twin o' p q') :
    State.Twin o o' twoStep t t' where
  sound := h.sound.of_bare hb
  sound' := h.sound'.of_bare hb'
  current := (current_of_bare hb').trans (h.current.trans (current_of_bare hb).symm)
  core {i c c'} hc hc' := by
    obtain ⟨d, hd, he⟩ := exists_core_of_bare hb hc
    obtain ⟨d', hd', he'⟩ := exists_core_of_bare hb' hc'
    obtain ⟨hcore, hdelivery, hdelivery'⟩ := h.core hd hd'
    exact ⟨hcore.of_bare he he', (deliveryEnabled_of_bare hb he.symm).trans hdelivery,
      (deliveryEnabled_of_bare hb' he'.symm).trans hdelivery'⟩
  irq {id cpu p} hp := hirq ((place?_of_bare hb id cpu).symm.trans hp)

/-- A change of the interrupt at a place that is the same in both. -/
lemma modify (h : State.Twin o o' twoStep s s') {f f' : Irq → Irq}
    (hf : ∀ q q', q.Twin o' p q' → (f q).Twin o' p (f' q')) :
    State.Twin o o' twoStep (s.modify p f) (s'.modify p f') := by
  refine h.of_bare (bare_modify ..) (bare_modify ..) fun {id cpu p'} hp => ?_
  obtain ⟨q, q', hq, hq', hqq⟩ := h.irq hp
  by_cases he : p' = p
  · subst he
    exact ⟨f q, f' q', by rw [at?_modify_self, hq]; rfl, by rw [at?_modify_self, hq']; rfl, hf _ _ hqq⟩
  · exact ⟨q, q', (at?_modify_of_ne _ _ he).trans hq, (at?_modify_of_ne _ _ he).trans hq', hqq⟩

/-- A change of an interrupt that is the same in both, wherever it is kept. -/
lemma modifyIrq (h : State.Twin o o' twoStep s s') (ho : o.Twins o') (id cpu : Nat) {f f' : Irq → Irq}
    (hf : ∀ p, s.place? id cpu = some p → ∀ q q', q.Twin o' p q' → (f q).Twin o' p (f' q')) :
    State.Twin o o' twoStep (s.modifyIrq id cpu f) (s'.modifyIrq id cpu f') := by
  rcases hp : s.place? id cpu with _ | p
  · rw [modifyIrq_of_none _ _ hp, modifyIrq_of_none _ _ ((h.place?_eq ho id cpu).trans hp)]
    exact h
  · rw [modifyIrq_of_place _ _ hp, modifyIrq_of_place _ _ ((h.place?_eq ho id cpu).trans hp)]
    exact h.modify (hf p hp)

/-- A change of a core that has nothing to do with interrupts or with their delivery. -/
lemma modifyCore (h : State.Twin o o' twoStep s s') (k : Nat) {f f' : Core → Core}
    (hf : Core.Eases f) (hf' : Core.Eases f')
    (hcore : ∀ {c c'}, s.cores[k]? = some c → s'.cores[k]? = some c' → c.Twin o' twoStep k c' →
      (f c).Twin o' twoStep k (f' c')) :
    State.Twin o o' twoStep (s.modifyCore k f) (s'.modifyCore k f') where
  sound := h.sound.modifyCore fun c hc => hc.of_kept (hf.kept c _).symm
  sound' := h.sound'.modifyCore fun c hc => hc.of_kept (hf'.kept c _).symm
  current := h.current
  core {i c c'} hc hc' := by
    rw [getElem?_modifyCore] at hc hc'
    by_cases hi : i = k
    · subst hi
      rw [if_pos rfl] at hc hc'
      obtain ⟨d, hd, rfl⟩ := Option.map_eq_some_iff.mp hc
      obtain ⟨d', hd', rfl⟩ := Option.map_eq_some_iff.mp hc'
      obtain ⟨htwin, hdelivery, hdelivery'⟩ := h.core hd hd'
      exact ⟨hcore hd hd' htwin, (hf.delivery s d).trans hdelivery, (hf'.delivery s' d').trans hdelivery'⟩
    · rw [if_neg hi] at hc hc'
      exact h.core hc hc'
  irq {id cpu p} hp := by
    rw [place?_modifyCore fun c => (hf.apart c).2] at hp
    rw [at?_modifyCore hf.apart, at?_modifyCore hf'.apart]
    exact h.irq hp

/-- What has been acknowledged changes in the same way. -/
lemma modifyRunning (h : State.Twin o o' twoStep s s') (k : Nat) (f : List Running → List Running) :
    State.Twin o o' twoStep (s.modifyCore k fun c => { c with running := f c.running })
      (s'.modifyCore k fun c => { c with running := f c.running }) := by
  have heases : Core.Eases fun c => { c with running := f c.running } :=
    ⟨fun _ _ => rfl, fun _ => ⟨rfl, rfl⟩, fun _ _ => rfl⟩
  refine h.modifyCore k heases heases fun _ _ hc => ?_
  exact ⟨congrArg f hc.running, hc.lpis, hc.mask, hc.completion, hc.affinity⟩

/-! ### Taking and completing interrupts -/

section Serving

variable (h : State.Twin o o' twoStep s s') (ho : o.Twins o')
include h ho

lemma take (cpu : Nat) (e : Nat × Priority) :
    State.Twin o o' twoStep (s.take cpu e) (s'.take cpu e) := by
  refine modifyRunning (h.modifyIrq ho e.1 cpu fun p _ q q' hq => ?_) cpu _
  exact ⟨hq.enabled, rfl, congrArg (· || _) hq.active, hq.edge, hq.priority, hq.group, hq.route⟩

lemma taken (cpu : Nat) : State.Twin o o' twoStep (s.taken cpu) (s'.taken cpu) := by
  rw [State.taken, State.taken, h.next?_eq ho]
  rcases s.next? cpu with _ | e
  · exact h
  · exact h.take ho cpu e

lemma deactivated (id cpu : Nat) :
    State.Twin o o' twoStep (s.modifyIrq id cpu fun q => { q with active := false })
      (s'.modifyIrq id cpu fun q => { q with active := false }) :=
  h.modifyIrq ho id cpu fun _ _ _ _ hq =>
    ⟨hq.enabled, hq.pending, rfl, hq.edge, hq.priority, hq.group, hq.route⟩

lemma endInterrupt (cpu id : Nat) : Same (State.Twin o o' twoStep)
    (s.endInterrupt cpu id twoStep) (s'.endInterrupt cpu id twoStep) := by
  unfold State.endInterrupt
  split
  · exact .error _
  rcases Nat.lt_or_ge cpu o.cpus with hcpu | hcpu
  · obtain ⟨c, c', hc, hc'⟩ := h.exists_cores ho hcpu
    simp only [hc, hc', (h.core hc hc').1.running]
    split
    · have hdropped := h.modifyRunning cpu fun l => l.eraseP (·.id == id)
      cases twoStep
      · exact .ok (hdropped.deactivated ho id cpu)
      · exact .ok hdropped
    · exact .error _
  · have hnone : s.cores[cpu]? = none := Array.getElem?_eq_none (h.sound.size ▸ hcpu)
    have hnone' : s'.cores[cpu]? = none := Array.getElem?_eq_none (h.sound'.size ▸ ho.cpus ▸ hcpu)
    simp only [hnone, hnone']
    exact .error _

lemma deactivate (cpu id : Nat) : Same (State.Twin o o' twoStep)
    (s.deactivate cpu id) (s'.deactivate cpu id) := by
  unfold State.deactivate
  split
  · exact .error _
  split
  · exact .error _
  · exact .ok (h.deactivated ho id cpu)

/-! ### Interrupts that become pending -/

lemma raise (id cpu : Nat) : Same (State.Twin o o' twoStep) (s.raise id cpu) (s'.raise id cpu) := by
  unfold State.raise
  rcases h.irq?_cases ho id cpu with ⟨hq, hq'⟩ | ⟨p, q, q', hp, hq, hq', hqq⟩
  · simp only [hq, hq']
    exact .error _
  · simp only [hq, hq']
    exact .ok (h.modifyIrq ho id cpu fun _ _ _ _ hq =>
      ⟨hq.enabled, rfl, hq.active, hq.edge, hq.priority, hq.group, hq.route⟩)

omit ho in
lemma sendTo (sgi : Nat) (cores : List Nat) :
    State.Twin o o' twoStep (s.sendTo sgi cores) (s'.sendTo sgi cores) := by
  have hsend (n n' : Nat) {t t' : State} (ht : State.Twin o o' twoStep t t') (l : List Nat) :
      State.Twin o o' twoStep (l.foldl (fun t cpu => t.receiveSgi cpu sgi n) t)
        (l.foldl (fun t cpu => t.receiveSgi cpu sgi n') t') := by
    induction l generalizing t t' with
    | nil => exact ht
    | cons cpu l ih =>
      exact ih (ht.modify fun q q' hq =>
        ⟨hq.enabled, rfl, hq.active, hq.edge, hq.priority, hq.group, fun hp => nomatch hp⟩)
  exact hsend _ _ h cores

end Serving

end State.Twin

/-! ### After bring-up -/

/-- What is kept at a place after power-up. -/
def Place.initial : Place → Irq
  | own _ i => { edge := decide (i < 16) }
  | _ => {}

lemma State.at?_started_reset {o : Options} {twoStep : Bool} {i : Nat} {p : Place} (hfit : o.Fits)
    (hp : o.Built p) : ((State.reset o).started o twoStep i).at? p = some p.initial := by
  have h1020 := sharedLimit_le o
  have h1024 := extendedCount_le hfit
  have h96 := Bank.privateCount_le o
  rcases hp with (⟨j, -, hj, rfl⟩ | ⟨j, hj, rfl⟩) | ⟨cpu, hcpu, j, hj, rfl⟩
  · simp [at?, started, reset, Place.initial, show j < 2048 by omega]
  · simp [at?, started, reset, Place.initial, show 1024 + j < 2048 by omega]
  · have hcore : ((State.reset o).started o twoStep i).cores[cpu]?
        = some (Core.started o.isRouted twoStep (.ofRegister (o.affinityRegister cpu))) := by
      simp [started, reset, hcpu]
    rw [at?, hcore, Option.bind_some, ((Core.apart_started o.isRouted twoStep).kept _).1]
    simp [Core.ofRegister, Place.initial, show j < 96 by omega]

namespace Options.Twins

variable {o o' : Options} (h : o.Twins o')
include h

/-- The same interrupts are built in. -/
lemma built_iff (p : Place) : o'.Built p ↔ o.Built p := by
  simp only [Options.Built, Options.Shared, Options.Spi, Options.ExtendedSpi, Options.Private, h.cpus,
    h.sharedLimit, h.extendedCount, h.ppis, h.privateCount]

end Options.Twins

namespace State

variable {o o' : Options} {twoStep : Bool} {t t' : State} {i : Nat}

/-- Two controllers that are built alike are the same once they were brought up. -/
lemma Renews.twin (ho : o.Twins o') (hfit : o.Fits) (hfit' : o'.Fits)
    (h : Renews o o.Built ((State.reset o).started o twoStep i) t) (ht : t.Sound o)
    (h' : Renews o' o'.Built ((State.reset o').started o' twoStep i) t') (ht' : t'.Sound o') :
    State.Twin o o' twoStep t t' where
  sound := ht
  sound' := ht'
  current := (current_of_bare h'.bare).trans (current_of_bare h.bare).symm
  core {j c c'} hc hc' := by
    obtain ⟨hrunning, hlpis, -, hlimit, hdelivery, hmode⟩ := (h.open_reset ht).core hc
    obtain ⟨hrunning', hlpis', haffinity, hlimit', hdelivery', hmode'⟩ := (h'.open_reset ht').core hc'
    rw [ho.banked] at hmode
    rw [ho.routed] at hmode'
    rw [priorityLimit, ht.isRouted, ho.banked, if_neg Bool.false_ne_true] at hlimit
    rw [priorityLimit, ht'.isRouted, ho.routed, if_pos rfl] at hlimit'
    exact ⟨⟨hrunning'.trans hrunning.symm, ⟨hlpis, hlpis'⟩,
      BitVec.eq_of_toNat_eq (hlimit'.trans hlimit.symm), ⟨hmode, hmode'⟩, haffinity⟩, hdelivery,
      hdelivery'⟩
  irq {id cpu p} hp := by
    have h1020 := sharedLimit_le t.options
    have h96 := Bank.privateCount_le t.options
    have hid : id < 8192 := by
      obtain ⟨c, hc, hleads⟩ := leadsTo_of_place? hp
      cases hleads with
      | lpi _ hl => simp [((h.open_reset ht).core hc).2.1] at hl
      | _ => omega
    obtain ⟨hcpu, hseen, -⟩ := built_of_place? ht hp hid
    have hbuilt := Options.built_of_seen hcpu hseen
    have hbuilt' := (ho.built_iff p).mpr hbuilt
    refine ⟨_, _, (h.on hbuilt).trans (congrArg _ (at?_started_reset hfit hbuilt)),
      (h'.on hbuilt').trans (congrArg _ (at?_started_reset hfit' hbuilt')), rfl, rfl, rfl, rfl, rfl, rfl,
      fun hshared i hi => ?_⟩
    -- the route was never written, so it names core 0, and that core alone is the target
    have hroute : (o'.renew p p.initial).route = 0 := by
      cases p <;> rfl
    have htargets : (o.renew p p.initial).targets = 1 := by
      rw [Options.renew, hshared, ho.banked]
      rfl
    rw [ho.cpus] at hi
    have hall : ∀ i < 8, (1#8).getLsbD i = ((0#64).getLsbD 31
        || Hardware.packAffinity 0 == BitVec.ofNat 32 i) := by decide
    rw [hroute, htargets, ho.packAffinity hi]
    exact hall i (hi.trans_le ho.few)

end State

end Hardware

end InterruptControl
