import InterruptControl.Proofs.Hardware.Delivery

/-!
What is left when a core has taken an interrupt and completed it again.

The priority that was raised in between is dropped, so of all the registers nothing is
changed; the interrupt is no longer pending, and neither is it active. A core that serves
the most urgent interrupt in this way is given the others as before.
-/

namespace InterruptControl.Hardware

/-- The core leaves it to the software to make interrupts inactive. -/
def Core.twoStep (routed : Bool) (c : Core) : Bool :=
  if routed then c.control.getLsbD 1 else c.mappedControl.getLsbD 9

namespace State

variable {o : Options} {s t u : State} {cpu id : Nat} {c : Core} {p : Place}

/-! ### Quieted interrupts -/

/-- Interrupts at some places are no longer pending, others are disabled, and nothing else is
different. -/
structure Quieted (cleared masked : List Place) (s t : State) : Prop where
  bare : t.bare = s.bare
  at? (p : Place) : t.at? p = (s.at? p).map fun q =>
    { q with
      pending := q.pending && !decide (p ∈ cleared)
      enabled := q.enabled && !decide (p ∈ masked) }

namespace Quieted

variable {cleared masked cleared' masked' : List Place}

lemma refl (s : State) : Quieted [] [] s s := ⟨rfl, fun p => by simp⟩

lemma trans (h : Quieted cleared masked s t) (h' : Quieted cleared' masked' t u) :
    Quieted (cleared ++ cleared') (masked ++ masked') s u := by
  refine ⟨h'.bare.trans h.bare, fun p => ?_⟩
  rw [h'.at?, h.at?, Option.map_map]
  congr 1
  funext q
  simp [List.mem_append, Bool.and_assoc]

/-- An interrupt that was not meant is as before. -/
lemma irq?_of_not_mem (h : Quieted cleared masked s t)
    (hp : ∀ p, s.place? id cpu = some p → p ∉ cleared ∧ p ∉ masked) :
    t.irq? id cpu = s.irq? id cpu := by
  rw [irq?, irq?, place?_of_bare h.bare]
  rcases hpl : s.place? id cpu with _ | p
  · rfl
  · obtain ⟨h1, h2⟩ := hp p hpl
    simp [h.at?, h1, h2]

lemma irq?_eq (h : Quieted cleared masked s t) (id cpu : Nat) : t.irq? id cpu =
    (s.place? id cpu).bind fun p => (s.at? p).map fun q =>
      { q with
        pending := q.pending && !decide (p ∈ cleared)
        enabled := q.enabled && !decide (p ∈ masked) } := by
  simp only [irq?, place?_of_bare h.bare, h.at?]

lemma pending_of_mem (h : Quieted cleared masked s t) (hp : s.place? id cpu = some p)
    (hmem : p ∈ cleared) {q : Irq} (hq : t.irq? id cpu = some q) : q.pending = false := by
  rw [irq?, place?_of_bare h.bare, hp, Option.bind_some, h.at?] at hq
  obtain ⟨q', -, rfl⟩ := Option.map_eq_some_iff.mp hq
  simp [hmem]

end Quieted

/-- Disabling an interrupt. -/
lemma quieted_disable (s : State) (id k : Nat) : s.Quieted [] (s.place? id k).toList
    (s.modifyIrq id k fun q => { q with enabled := false }) := by
  refine ⟨bare_modifyIrq .., fun p => ?_⟩
  rw [at?_modifyIrq]
  rcases eq_or_ne (s.place? id k) (some p) with h | h
  · simp [h]
  · have : p ∉ (s.place? id k).toList := by simpa using h
    simp [h, this]

/-! ### What a core may be given afterwards -/

section Bare

variable {c' : Core} (hb : t.bare = s.bare) (hcb : c.bare = c'.bare)
include hb hcb

lemma candidates_of_bare : t.candidates c' = s.candidates c := by
  have ho := options_of_bare hb
  have hl := Core.lpis_of_bare hcb
  have hr : c.redistributorControl = c'.redistributorControl :=
    (congrArg Core.redistributorControl hcb :)
  simp only [candidates, ho, hl, hr]

lemma deliveryEnabled_of_bare : t.deliveryEnabled c' = s.deliveryEnabled c := by
  have hr := isRouted_of_bare hb
  have hctl := control_of_bare hb
  have h1 : c.groupEnable1 = c'.groupEnable1 := (congrArg Core.groupEnable1 hcb :)
  have h2 : c.systemEnable = c'.systemEnable := (congrArg Core.systemEnable hcb :)
  have h3 : c.mappedControl = c'.mappedControl := (congrArg Core.mappedControl hcb :)
  simp only [deliveryEnabled, hr, hctl, h1, h2, h3]

lemma eligible_of_bare (q : Irq) : t.eligible cpu c' id q = s.eligible cpu c id q := by
  have hr := isRouted_of_bare hb
  have h1 : c.affinityRegister = c'.affinityRegister := (congrArg Core.affinityRegister hcb :)
  have h2 : c.priorityMask = c'.priorityMask := (congrArg Core.priorityMask hcb :)
  have h3 : c.mappedPriorityMask = c'.mappedPriorityMask :=
    (congrArg Core.mappedPriorityMask hcb :)
  have h4 : c.running = c'.running := (congrArg Core.running hcb :)
  simp only [eligible, routedTo, priorityLimit, Core.preempts, hr, h1, h2, h3, h4]

end Bare

/-- Once an interrupt was served, the core may be given all the others. -/
lemma Quieted.deliverableList {masked : List Place} (h : Quieted [p] masked s t)
    (hp : s.place? id cpu = some p) (hmasked : ∀ m ∈ masked, m.number = id) {c' : Core}
    (hcb : c.bare = c'.bare) :
    t.deliverableList cpu c' = (s.deliverableList cpu c).filter (·.1 ≠ id) := by
  have hnumber := number_of_place? hp
  unfold State.deliverableList
  rw [deliveryEnabled_of_bare h.bare hcb]
  split
  · rw [eligibleList_eq, eligibleList_eq, candidates_of_bare h.bare hcb, List.filter_filterMap]
    congr 1
    funext n
    rcases eq_or_ne n id with rfl | hn
    · have hnone : t.eligible? cpu c' n = none := by
        rw [Option.eq_none_iff_forall_ne_some]
        intro e he
        obtain ⟨q, hq, hel, -⟩ := eligible?_eq_some.mp he
        simp [eligible, h.pending_of_mem hp (List.mem_singleton_self p) hq] at hel
      rw [hnone]
      rcases he : s.eligible? cpu c n with _ | e
      · rfl
      · obtain ⟨q, -, -, rfl⟩ := eligible?_eq_some.mp he
        simp [Option.filter]
    · have hother : t.irq? n cpu = s.irq? n cpu := by
        refine h.irq?_of_not_mem fun p' hp' => ?_
        have := number_of_place? hp'
        constructor
        · rw [List.mem_singleton]
          rintro rfl
          exact hn (this.symm.trans hnumber)
        · intro hm
          exact hn (this.symm.trans (hmasked _ hm))
      have hsame : t.eligible? cpu c' n = s.eligible? cpu c n := by
        simp only [eligible?, hother, eligible_of_bare h.bare hcb]
      rw [hsame]
      rcases he : s.eligible? cpu c n with _ | e
      · rfl
      · obtain ⟨q, -, -, rfl⟩ := eligible?_eq_some.mp he
        simp [Option.filter, hn]
  · rfl

/-! ### From taking to completing -/

/-- A change of a core that has nothing to do with its interrupts. -/
lemma at?_modifyCore {f : Core → Core} (hf : ∀ c, (f c).own = c.own ∧ (f c).lpis = c.lpis)
    (p : Place) : (s.modifyCore cpu f).at? p = s.at? p := by
  cases p with
  | shared i => rfl
  | own cpu' i =>
    simp only [at?, getElem?_modifyCore]
    split
    · rcases s.cores[cpu']? with _ | c <;> simp [hf]
    · rfl
  | lpi cpu' id =>
    simp only [at?, getElem?_modifyCore]
    split
    · rcases s.cores[cpu']? with _ | c <;> simp [hf]
    · rfl

lemma bare_modifyCore_comm {f : Core → Core} (hf : ∀ c, (f c).bare = f c.bare) :
    (s.modifyCore cpu f).bare = s.bare.modifyCore cpu f := by
  simp only [bare, modifyCore]
  congr 1
  ext i hi hi'
  · simp
  · simp only [Array.getElem_map, Array.getElem_modify]
    split <;> simp [hf]

lemma at?_dropPriority (p : Place) : (s.dropPriority cpu id).at? p = s.at? p := by
  rw [dropPriority, at?_modifyCore]
  exact fun _ => ⟨rfl, rfl⟩

lemma bare_dropPriority (s : State) (cpu id : Nat) :
    (s.dropPriority cpu id).bare = s.bare.dropPriority cpu id := bare_modifyCore_comm fun _ => rfl

lemma place?_modifyCore {f : Core → Core} (hf : ∀ c, (f c).lpis = c.lpis) (n k : Nat) :
    (s.modifyCore cpu f).place? n k = s.place? n k := by
  simp only [place?, getElem?_modifyCore]
  rcases s.cores[k]? with _ | c
  · simp
  · rcases eq_or_ne k cpu with rfl | h
    · simp only [if_true, Option.map_some, hf]
      rfl
    · simp only [h, if_false]
      rfl

@[simp] lemma place?_dropPriority (n k : Nat) :
    (s.dropPriority cpu id).place? n k = s.place? n k := by
  rw [dropPriority, place?_modifyCore]
  exact fun _ => rfl

@[simp] lemma place?_modifyIrq (f : Irq → Irq) (n k : Nat) :
    (s.modifyIrq id cpu f).place? n k = s.place? n k := place?_of_bare (bare_modifyIrq ..) n k

@[simp] lemma place?_take (e : Nat × Priority) (n k : Nat) :
    (s.take cpu e).place? n k = s.place? n k := by
  rw [take, place?_modifyCore, place?_modifyIrq]
  exact fun _ => rfl

lemma at?_take (e : Nat × Priority) (p : Place) : (s.take cpu e).at? p =
    if s.place? e.1 cpu = some p then
      (s.at? p).map fun q => { q with pending := false, active := q.active || decide (e.1 < 8192) }
    else s.at? p := by
  rw [take, at?_modifyCore, at?_modifyIrq]
  exact fun _ => ⟨rfl, rfl⟩

lemma bare_take (e : Nat × Priority) : (s.take cpu e).bare =
    s.bare.modifyCore cpu fun c => { c with running := ⟨e.1, e.2⟩ :: c.running } := by
  rw [take, bare_modifyCore_comm, bare_modifyIrq]
  exact fun _ => rfl

/-- A core runs what it has taken, and is as before otherwise. -/
lemma core_of_take {e : Nat × Priority} (h : u.bare = (s.take cpu e).bare)
    (hc : s.cores[cpu]? = some c) : ∃ c', u.cores[cpu]? = some c'
      ∧ c'.bare = { c.bare with running := ⟨e.1, e.2⟩ :: c.running } := by
  have hcore := congrArg (fun u => u.cores[cpu]?) (h.trans (bare_take e))
  simp only [bare, getElem?_modifyCore, if_true, Array.getElem?_map, hc, Option.map_some] at hcore
  exact Option.map_eq_some_iff.mp hcore

lemma running_of_take {e : Nat × Priority} (h : u.bare = (s.take cpu e).bare)
    (hc : s.cores[cpu]? = some c) :
    ∃ c', u.cores[cpu]? = some c' ∧ c'.running = ⟨e.1, e.2⟩ :: c.running := by
  obtain ⟨c', hc', he⟩ := core_of_take h hc
  exact ⟨c', hc', (congrArg Core.running he :)⟩

/-- What was taken last is dropped first. -/
lemma bare_dropPriority_of_take {e : Nat × Priority} (h : u.bare = (s.take cpu e).bare) :
    (u.dropPriority cpu e.1).bare = s.bare := by
  rw [bare_dropPriority, h, bare_take, dropPriority, modifyCore_modifyCore]
  refine (modifyCore_congr fun c _ => ?_).trans (s.bare.modifyCore_id cpu)
  simp

/-- The interrupt is completed: its priority is dropped, and it is made inactive in one step or
in two, unless it is an LPI that is left to a second step. -/
def completed (s : State) (cpu id : Nat) (twoStep : Bool) : State :=
  if twoStep && decide (8192 ≤ id) then s.dropPriority cpu id
  else (s.dropPriority cpu id).modifyIrq id cpu fun q => { q with active := false }

/-- From taking an interrupt to completing it. In between, interrupts may be disabled. -/
lemma quieted_of_completed {masked : List Place} {e : Nat × Priority} {q : Irq} {twoStep : Bool}
    (hp : s.place? e.1 cpu = some p) (hq : s.at? p = some q) (hactive : q.active = false)
    (h : Quieted [] masked (s.take cpu e) u) :
    Quieted [p] masked s (u.completed cpu e.1 twoStep) := by
  have hplace : u.place? e.1 cpu = some p := by
    rw [place?_of_bare h.bare, place?_take, hp]
  refine ⟨?_, fun p' => ?_⟩
  · unfold completed
    split
    · exact bare_dropPriority_of_take h.bare
    · rw [bare_modifyIrq, bare_dropPriority_of_take h.bare]
  · rcases eq_or_ne p' p with rfl | hne
    · -- at its own place the interrupt was active while it ran, and only then
      have htake := h.at? p'
      rw [at?_take, if_pos hp, hq, Option.map_some, Option.map_some] at htake
      unfold completed
      split
      next hl =>
        simp only [Bool.and_eq_true, decide_eq_true_eq] at hl
        rw [at?_dropPriority, htake, hq]
        simp [hactive, Nat.not_lt.mpr hl.2]
      next =>
        rw [at?_modifyIrq, place?_dropPriority, if_pos hplace, at?_dropPriority, htake, hq]
        simp [hactive]
    · have hother : s.place? e.1 cpu ≠ some p' := by
        rw [hp]
        exact fun he => hne (Option.some.inj he).symm
      have htake := h.at? p'
      rw [at?_take, if_neg hother] at htake
      have hcompleted : (u.completed cpu e.1 twoStep).at? p' = u.at? p' := by
        unfold completed
        split
        · exact at?_dropPriority p'
        · rw [at?_modifyIrq, place?_dropPriority, hplace, at?_dropPriority, if_neg]
          exact fun he => hne (Option.some.inj he).symm
      rw [hcompleted, htake]
      simp [hne]

end State

end InterruptControl.Hardware
