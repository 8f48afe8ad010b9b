import InterruptControl.Hardware.CpuInterface
import InterruptControl.Hardware.Events
import InterruptControl.Hardware.Redistributor
import InterruptControl.Proofs.Hardware.Place

/-!
What the registers of the hardware leave alone when they are written.

The distributor reaches interrupts and its own registers, never those of a core. The
redistributors reach what belongs to them, and the CPU interfaces what belongs to those:
`steady` is a core without the former, `remote` one without the latter, and `wired` the part of
it that matters to a redistributor.

What a write may do at all is said once, by `DistributorStep` and `RedistributorStep` and by
`cases_writeInterface` and `cases_writeSystem`.
-/

namespace InterruptControl.Hardware

/-- The core with its interrupts and the registers of its redistributor blanked out. -/
def Core.steady (c : Core) : Core :=
  { c.bare with redistributorControl := 0, asleep := false, accessControl := 0 }

/-- A core without its interrupts and without what it runs. -/
def Core.idle (c : Core) : Core := { c.bare with running := [] }

lemma Core.idle_of_bare {c c' : Core} (h : c.bare = c'.bare) : c.idle = c'.idle := by
  unfold idle
  rw [h]

/-- The core with what its CPU interface reaches blanked out. -/
def Core.remote (c : Core) : Core :=
  { c.idle with
    mappedControl := 0, mappedPriorityMask := 0, mappedBinaryPoint := 0, mappedBinaryPoint1 := 0
    systemEnable := 0, control := 0, priorityMask := 0, binaryPoint1 := 0
    groupEnable0 := 0, groupEnable1 := 0 }

lemma Core.remote_of_idle {c c' : Core} (h : c.idle = c'.idle) : c.remote = c'.remote := by
  unfold remote
  rw [h]

/-- The core with the registers of its CPU interface blanked out. -/
def Core.untuned (c : Core) : Core :=
  { c with
    mappedControl := 0, mappedPriorityMask := 0, mappedBinaryPoint := 0, mappedBinaryPoint1 := 0
    systemEnable := 0, control := 0, priorityMask := 0, binaryPoint1 := 0
    groupEnable0 := 0, groupEnable1 := 0 }

/-- The change sets up a CPU interface, with priority masks of 8 bits. -/
structure Core.Tunes (f : Core → Core) : Prop where
  untuned (c : Core) : (f c).untuned = c.untuned
  priorityMask (c : Core) : (f c).priorityMask = c.priorityMask ∨ (f c).priorityMask.toNat ≤ 0xff
  mappedPriorityMask (c : Core) :
    (f c).mappedPriorityMask = c.mappedPriorityMask ∨ (f c).mappedPriorityMask.toNat ≤ 0xff

/-- The affinity of a core, and the one that its redistributor reports. -/
def Core.identity (c : Core) : BitVec 64 × BitVec 32 := (c.affinityRegister, c.redistributorAffinity)

lemma Core.identity_of_idle {c c' : Core} (h : c.idle = c'.idle) : c.identity = c'.identity :=
  (congrArg identity h :)

/-- The LPIs that a core keeps, and what its redistributor is set to and reports. -/
structure Core.Wired where
  lpis : List Nat
  redistributorControl : BitVec 32
  redistributorAffinity : BitVec 32

def Core.wired (c : Core) : Core.Wired :=
  ⟨c.lpis.map Prod.fst, c.redistributorControl, c.redistributorAffinity⟩

lemma Core.steady_of_bare {c c' : Core} (h : c.bare = c'.bare) : c.steady = c'.steady := by
  unfold steady
  rw [h]

lemma Core.wired_of_remote {c c' : Core} (h : c.remote = c'.remote) : c.wired = c'.wired := by
  have hl : c.lpis.map Prod.fst = c'.lpis.map Prod.fst := by
    simpa [remote, idle, bare, Function.comp_def] using congrArg (fun c => c.lpis.map Prod.fst) h
  simp only [wired, hl, show c.redistributorControl = c'.redistributorControl from
    (congrArg redistributorControl h :), show c.redistributorAffinity = c'.redistributorAffinity from
    (congrArg redistributorAffinity h :)]

lemma Core.wired_of_idle {c c' : Core} (h : c.idle = c'.idle) : c.wired = c'.wired :=
  wired_of_remote (remote_of_idle h)

/-- What a core runs, and the LPIs that it keeps. -/
def Core.tasks (c : Core) : List Running × List Nat := (c.running, c.lpis.map Prod.fst)

lemma Core.tasks_of_steady {c c' : Core} (h : c.steady = c'.steady) : c.tasks = c'.tasks := by
  have hl : c.lpis.map Prod.fst = c'.lpis.map Prod.fst := by
    simpa [steady, bare, Function.comp_def] using congrArg (fun c => c.lpis.map Prod.fst) h
  exact Prod.ext (congrArg running h :) hl

lemma Core.wired_of_bare {c c' : Core} (h : c.bare = c'.bare) : c.wired = c'.wired :=
  wired_of_idle (idle_of_bare h)

namespace State

/-- The same hardware, the same current core, and cores that agree in `P`. -/
structure Agree {α : Type} (P : Core → α) (s t : State) : Prop where
  options : t.options = s.options
  current : t.current = s.current
  cores : t.cores.map P = s.cores.map P

namespace Agree

variable {α β : Type} {P : Core → α} {Q : Core → β} {s t u : State}

lemma refl (s : State) : Agree P s s := ⟨rfl, rfl, rfl⟩

lemma trans (h : Agree P s t) (h' : Agree P t u) : Agree P s u :=
  ⟨h'.options.trans h.options, h'.current.trans h.current, h'.cores.trans h.cores⟩

lemma of_bare (h : t.bare = s.bare) : Agree Core.bare s t :=
  ⟨options_of_bare h, current_of_bare h, (congrArg State.cores h :)⟩

lemma size (h : Agree P s t) : t.cores.size = s.cores.size := by
  simpa using congrArg Array.size h.cores

lemma isRouted (h : Agree P s t) : t.isRouted = s.isRouted := by
  simp only [State.isRouted, h.options]

lemma exists_core (h : Agree P s t) {i : Nat} {c' : Core} (hc : t.cores[i]? = some c') :
    ∃ c, s.cores[i]? = some c ∧ P c = P c' := by
  have := congrArg (·[i]?) h.cores
  simp only [Array.getElem?_map, hc, Option.map_some] at this
  exact Option.map_eq_some_iff.mp this.symm

lemma symm (h : Agree P s t) : Agree P t s :=
  ⟨h.options.symm, h.current.symm, h.cores.symm⟩

lemma mono (h : Agree P s t) (hPQ : ∀ c c', P c = P c' → Q c = Q c') : Agree Q s t := by
  refine ⟨h.options, h.current, ?_⟩
  ext i hi hi'
  · simpa using h.size
  · have hc := congrArg (·[i]?) h.cores
    simp only [Array.size_map] at hi hi'
    simp only [Array.getElem?_map, hi, hi', Array.getElem?_eq_getElem, Option.map_some,
      Option.some.injEq] at hc
    simpa using hPQ _ _ hc

lemma modifyCore (s : State) (cpu : Nat) {f : Core → Core} (hf : ∀ c, P (f c) = P c) :
    Agree P s (s.modifyCore cpu f) := by
  refine ⟨rfl, rfl, ?_⟩
  ext i hi hi'
  · simp
  · simp only [Array.getElem_map, State.modifyCore, Array.getElem_modify]
    split <;> simp [hf]

end Agree

variable (s : State)

/-! ### Interrupts only -/

@[simp] lemma bare_modifyMany (view : Nat → Option Place) (first : Nat) (rule : Nat → Irq → Irq)
    (l : List Nat) : (s.modifyMany view first rule l).bare = s.bare := by
  induction l generalizing s with
  | nil => rfl
  | cons i rest ih =>
    rw [modifyMany]
    split <;> simp [ih]

@[simp] lemma bare_writeBits (view : Nat → Option Place) (first : Nat) (f : Field) (r : WriteRule)
    (v : BitVec 32) : (s.writeBits view first f r v).bare = s.bare := bare_modifyMany ..

@[simp] lemma bare_writeTriggers (view : Nat → Option Place) (first : Nat) (v : BitVec 32) :
    (s.writeTriggers view first v).bare = s.bare := bare_modifyMany ..

@[simp] lemma bare_modifyDistributorIrq (id : Nat) (f : Irq → Irq) :
    (s.modifyDistributorIrq id f).bare = s.bare := by
  unfold modifyDistributorIrq
  split <;> simp

@[simp] lemma bare_sendTo (sgi : Nat) (cores : List Nat) : (s.sendTo sgi cores).bare = s.bare := by
  have : ∀ t : State, (cores.foldl (fun t cpu => t.receiveSgi cpu sgi s.current) t).bare = t.bare := by
    induction cores with
    | nil => exact fun t => rfl
    | cons cpu rest ih => exact fun t => (ih _).trans (bare_modify ..)
  exact this s

lemma bare_writeDistributorByte (o : Nat) (v : BitVec 8) :
    (s.writeDistributorByte o v).bare = s.bare := by
  unfold writeDistributorByte
  repeat' split
  all_goals simp

lemma bare_writeRoute (o : Nat) (v : BitVec 64) : (s.writeRoute o v).bare = s.bare := by
  unfold writeRoute
  split <;> simp

/-! ### The distributor and the redistributors -/

/-- What a write to the distributor may make of a controller. Where there are two security states,
only the secure one reaches the access control. -/
inductive DistributorStep (s : State) : State → Prop
  | interrupts {t : State} (h : t.bare = s.bare) : DistributorStep s t
  | control (v : BitVec 32) :
      DistributorStep s { s with control := if s.isRouted then v &&& 0x7fffffbf else v &&& 3 }
  | accessControl (i : Nat) (v : BitVec 32) (h : s.isRouted = true → s.options.secureAccess = true) :
      DistributorStep s { s with accessControl := s.accessControl.setIfInBounds i v }

lemma step_writeDistributorRegister (o : Nat) (v : BitVec 32) :
    DistributorStep s (s.writeDistributorRegister o v) := by
  unfold writeDistributorRegister
  split
  · exact .control v
  split
  · split
    · exact .interrupts (bare_modifyDistributorIrq ..)
    · exact .interrupts rfl
  split
  · split
    · exact .interrupts rfl
    · exact .interrupts (bare_sendTo ..)
  · exact .interrupts rfl

lemma step_writeDistributorWord (o : Nat) (v : BitVec 32) :
    DistributorStep s (s.writeDistributorWord o v) := by
  unfold writeDistributorWord
  split
  · exact .interrupts (bare_writeBits ..)
  split
  · split
    · exact .interrupts rfl
    · exact .interrupts (bare_writeTriggers ..)
  split
  · exact .interrupts (bare_writeTriggers ..)
  split
  · split
    · exact .interrupts rfl
    next hopen => exact .accessControl _ v (by simpa using hopen)
  · exact step_writeDistributorRegister s o v

lemma step_writeDistributor (o : Nat) (w : Width) (v : BitVec w.bits) :
    DistributorStep s (s.writeDistributor o w v) := by
  cases w with
  | byte => exact .interrupts (bare_writeDistributorByte s o v)
  | word => exact step_writeDistributorWord s o v
  | doubleword => exact .interrupts (bare_writeRoute s o v)

/-- What a write to the redistributor of a core may make of a controller. -/
inductive RedistributorStep (s : State) (cpu : Nat) : State → Prop
  | interrupts {t : State} (h : t.bare = s.bare) : RedistributorStep s cpu t
  | control (v : BitVec 32) (h : s.options.lpis = true) :
      RedistributorStep s cpu (s.modifyCore cpu fun c => { c with redistributorControl := v &&& 1 })
  | sleep (b : Bool) : RedistributorStep s cpu (s.modifyCore cpu fun c => { c with asleep := b })
  | accessControl (v : BitVec 32) (h : s.options.secureAccess = true) :
      RedistributorStep s cpu (s.modifyCore cpu fun c => { c with accessControl := v })

lemma step_writeCoreFrame (cpu o : Nat) (v : BitVec 32) :
    RedistributorStep s cpu (s.writeCoreFrame cpu o v) := by
  unfold writeCoreFrame
  split
  · split
    next hlpis => exact .control v hlpis
    next => exact .interrupts rfl
  split
  · exact .sleep _
  · exact .interrupts rfl

lemma step_writePrivateByte (cpu o : Nat) (v : BitVec 8) :
    RedistributorStep s cpu (s.writePrivateByte cpu o v) := by
  unfold writePrivateByte
  split
  · split
    · exact .interrupts (bare_modify ..)
    · exact .interrupts rfl
  · exact .interrupts rfl

lemma step_writePrivateWord (cpu o : Nat) (v : BitVec 32) :
    RedistributorStep s cpu (s.writePrivateWord cpu o v) := by
  unfold writePrivateWord
  split
  · exact .interrupts (bare_writeBits ..)
  split
  · split
    · exact .interrupts rfl
    · exact .interrupts (bare_writeTriggers ..)
  split
  next h => exact .accessControl v h.2
  next => exact .interrupts rfl

lemma step_writeRedistributor (o : Nat) (w : Width) (v : BitVec w.bits) :
    RedistributorStep s (o / s.options.stride) (s.writeRedistributor o w v) := by
  unfold writeRedistributor
  simp only
  split
  · exact step_writeCoreFrame ..
  split
  · split
    · exact step_writePrivateByte ..
    · exact step_writePrivateWord ..
  · exact .interrupts rfl

lemma agree_of_bare {t : State} (h : t.bare = s.bare) : Agree Core.steady s t :=
  (Agree.of_bare h).mono fun _ _ => Core.steady_of_bare

section Steps

variable {s} {t : State} {cpu : Nat}

/-- The distributor reaches no register of a core. -/
lemma DistributorStep.agree (h : DistributorStep s t) : Agree Core.bare s t := by
  cases h with
  | interrupts h => exact .of_bare h
  | control | accessControl => exact ⟨rfl, rfl, rfl⟩

/-- A redistributor reaches no register of a CPU interface. -/
lemma RedistributorStep.agree (h : RedistributorStep s cpu t) : Agree Core.steady s t := by
  cases h with
  | interrupts h => exact agree_of_bare s h
  | control | sleep | accessControl => exact .modifyCore s cpu fun _ => rfl

end Steps

lemma wired_of_bare {t : State} (h : t.bare = s.bare) : Agree Core.wired s t :=
  (Agree.of_bare h).mono fun _ _ => Core.wired_of_bare

/-! ### CPU interfaces -/

/-- What no CPU interface reaches. -/
def remote (s : State) : State := { s.bare with cores := s.cores.map Core.remote }

variable {s} {t : State}

lemma Agree.of_remote (h : t.remote = s.remote) : Agree Core.remote s t :=
  ⟨(congrArg State.options h :), (congrArg State.current h :), (congrArg State.cores h :)⟩

lemma wired_of_remote (h : t.remote = s.remote) : Agree Core.wired s t :=
  (Agree.of_remote h).mono fun _ _ => Core.wired_of_remote

lemma remote_of_bare (h : t.bare = s.bare) : t.remote = s.remote := by
  have hcores : t.cores.map Core.remote = s.cores.map Core.remote :=
    ((Agree.of_bare h).mono fun _ _ he => Core.remote_of_idle (Core.idle_of_bare he)).cores
  rw [remote, remote, h, hcores]

lemma remote_modifyCore (cpu : Nat) {f : Core → Core} (hf : ∀ c, (f c).remote = c.remote) :
    (s.modifyCore cpu f).remote = s.remote :=
  congrArg (fun cores => { s.bare with cores := cores }) (Agree.modifyCore s cpu hf).cores

/-- Taking an interrupt changes no register. -/
lemma idle_take (s : State) (cpu : Nat) (e : Nat × Priority) : Agree Core.idle s (s.take cpu e) :=
  ((Agree.of_bare (bare_modifyIrq ..)).mono fun _ _ => Core.idle_of_bare).trans
    (.modifyCore _ _ fun _ => rfl)

lemma remote_take (s : State) (cpu : Nat) (e : Nat × Priority) : (s.take cpu e).remote = s.remote := by
  refine (remote_modifyCore cpu fun c => ?_).trans (remote_of_bare (bare_modifyIrq ..))
  rfl

lemma agree_take (s : State) (cpu : Nat) (e : Nat × Priority) : Agree Core.wired s (s.take cpu e) :=
  wired_of_remote (remote_take s cpu e)

lemma remote_acknowledge (s : State) (cpu : Nat) : (s.acknowledge cpu).2.remote = s.remote := by
  unfold acknowledge
  split
  · rfl
  · exact remote_take s cpu _

lemma remote_readInterface (s : State) (o : Nat) (w : Width) :
    (s.readInterface o w).2.remote = s.remote := by
  unfold readInterface
  rcases w <;> rcases s.currentCore? with _ | c
  case word.some =>
    simp only [readInterfaceWord]
    repeat' split
    all_goals first
      | rfl
      | exact remote_acknowledge s _
  all_goals rfl

lemma remote_readSystem (s : State) (r : SystemRegister) : (s.readSystem r).2.remote = s.remote := by
  unfold readSystem
  split
  · rfl
  split
  · exact remote_acknowledge s _
  · rfl

lemma eq_ok_of_mapError {ε ε' α : Type} {x : Except ε α} {f : ε → ε'} {a : α}
    (h : x.mapError f = .ok a) : x = .ok a := by
  cases x <;> simp_all [Except.mapError]

/-- The priority of the interrupt is dropped. -/
def dropPriority (s : State) (cpu id : Nat) : State :=
  s.modifyCore cpu fun c => { c with running := c.running.eraseP (·.id == id) }

/-- What is left when an interrupt was ended. -/
def ended (s : State) (cpu id : Nat) (twoStep : Bool) : State :=
  if twoStep then s.dropPriority cpu id
  else (s.dropPriority cpu id).modifyIrq id cpu fun q => { q with active := false }

lemma eq_of_endInterrupt {cpu id : Nat} {twoStep : Bool}
    (h : s.endInterrupt cpu id twoStep = .ok t) : t = s.ended cpu id twoStep := by
  unfold endInterrupt at h
  split at h
  · simp at h
  split at h
  · simp at h
  split at h
  · exact (Except.ok.inj h).symm
  · simp at h

lemma eq_of_deactivate {cpu id : Nat} (h : s.deactivate cpu id = .ok t) :
    t = s.modifyIrq id cpu fun q => { q with active := false } := by
  unfold deactivate at h
  split at h
  · simp at h
  split at h
  · simp at h
  · exact (Except.ok.inj h).symm

lemma remote_endInterrupt {cpu id : Nat} {twoStep : Bool}
    (h : s.endInterrupt cpu id twoStep = .ok t) : t.remote = s.remote := by
  obtain rfl := eq_of_endInterrupt h
  have hdrop : (s.dropPriority cpu id).remote = s.remote := remote_modifyCore cpu fun _ => rfl
  unfold ended
  split
  · exact hdrop
  · exact (remote_of_bare (bare_modifyIrq ..)).trans hdrop

lemma agree_endInterrupt {cpu id : Nat} {twoStep : Bool}
    (h : s.endInterrupt cpu id twoStep = .ok t) : Agree Core.wired s t :=
  wired_of_remote (remote_endInterrupt h)

lemma agree_deactivate {cpu id : Nat} (h : s.deactivate cpu id = .ok t) :
    t.bare = s.bare := by
  rw [eq_of_deactivate h, bare_modifyIrq]

section Interface

variable {o : Nat} {r : SystemRegister}

lemma toNat_and_ff {n : Nat} (v : BitVec n) : (v &&& 0xff).toNat ≤ 0xff := by
  rw [BitVec.toNat_and]
  exact Nat.and_le_right.trans (Nat.mod_le _ _)

/-- Only completing an interrupt may fail, and all else sets up the interface. -/
lemma writeInterface_of_ne (ho : o ≠ 0x10) (ho' : o ≠ 0x1000) (v : BitVec 32) :
    ∃ f, s.writeInterface o v = .ok (s.modifyCurrent f) ∧ Core.Tunes f := by
  unfold writeInterface
  rw [if_neg ho, if_neg ho']
  split
  · exact ⟨_, rfl, fun _ => rfl, fun _ => .inl rfl, fun _ => .inl rfl⟩
  split
  · exact ⟨_, rfl, fun _ => rfl, fun _ => .inl rfl, fun _ => .inr (toNat_and_ff v)⟩
  split
  · exact ⟨_, rfl, fun _ => rfl, fun _ => .inl rfl, fun _ => .inl rfl⟩
  split
  · exact ⟨_, rfl, fun _ => rfl, fun _ => .inl rfl, fun _ => .inl rfl⟩
  · exact ⟨_, congrArg _ (s.modifyCore_id s.current).symm, fun _ => rfl, fun _ => .inl rfl,
      fun _ => .inl rfl⟩

/-- So does a write of a system register that neither completes an interrupt nor sends SGIs. -/
lemma writeSystem_of_ne (hr : r ≠ .endOfInterrupt1) (hr' : r ≠ .deactivate)
    (hr'' : r ≠ .softwareInterrupt1) {c : Core} (hc : s.cores[s.current]? = some c) (v : BitVec 64) :
    ∃ f, s.writeSystem r v = .ok (s.modifyCurrent f) ∧ Core.Tunes f := by
  simp only [writeSystem, hc]
  cases r with
  | endOfInterrupt1 => exact absurd rfl hr
  | deactivate => exact absurd rfl hr'
  | softwareInterrupt1 => exact absurd rfl hr''
  | priorityMask =>
    exact ⟨_, rfl, fun _ => rfl, fun _ => .inr (toNat_and_ff v), fun _ => .inl rfl⟩
  | systemEnable | control | binaryPoint1 | groupEnable0 | groupEnable1 =>
    exact ⟨_, rfl, fun _ => rfl, fun _ => .inl rfl, fun _ => .inl rfl⟩
  | coreAffinity | runningPriority | acknowledge1 | highestPending1 =>
    exact ⟨_, congrArg _ (s.modifyCore_id s.current).symm, fun _ => rfl, fun _ => .inl rfl,
      fun _ => .inl rfl⟩

/-- A write to the memory-mapped interface completes an interrupt or sets up the interface. -/
lemma cases_writeInterface {v : BitVec 32} (h : s.writeInterface o v = .ok t) :
    (o = 0x10 ∧ s.endInterrupt s.current (v &&& 0x3ff).toNat
        ((s.currentCore?.map fun c => c.mappedControl.getLsbD 9).getD false) = .ok t)
      ∨ (o = 0x1000 ∧ s.deactivate s.current (v &&& 0x3ff).toNat = .ok t)
      ∨ ∃ f, Core.Tunes f ∧ t = s.modifyCurrent f := by
  rcases eq_or_ne o 0x10 with rfl | ho
  · exact .inl ⟨rfl, h⟩
  rcases eq_or_ne o 0x1000 with rfl | ho'
  · exact .inr (.inl ⟨rfl, h⟩)
  obtain ⟨f, he, hf⟩ := writeInterface_of_ne (s := s) ho ho' v
  exact .inr (.inr ⟨f, hf, Except.ok.inj (h.symm.trans he)⟩)

/-- A write of a system register completes an interrupt, sends SGIs or sets up the interface. -/
lemma cases_writeSystem {v : BitVec 64} (h : s.writeSystem r v = .ok t) :
    ∃ c, s.cores[s.current]? = some c ∧
      ((r = .endOfInterrupt1
          ∧ s.endInterrupt s.current (v &&& 0xffffff).toNat (c.control.getLsbD 1) = .ok t)
        ∨ (r = .deactivate ∧ s.deactivate s.current (v &&& 0xffffff).toNat = .ok t)
        ∨ (r = .softwareInterrupt1
          ∧ t = s.sendTo ((v >>> 24) &&& 0xf).toNat (s.sgiTargets v))
        ∨ ∃ f, Core.Tunes f ∧ t = s.modifyCurrent f) := by
  rcases hc : s.cores[s.current]? with _ | c
  · simp [writeSystem, hc] at h
  refine ⟨c, rfl, ?_⟩
  have hwrite := h
  simp only [writeSystem, hc] at hwrite
  rcases eq_or_ne r .endOfInterrupt1 with rfl | hr
  · exact .inl ⟨rfl, eq_ok_of_mapError hwrite⟩
  rcases eq_or_ne r .deactivate with rfl | hr'
  · exact .inr (.inl ⟨rfl, eq_ok_of_mapError hwrite⟩)
  rcases eq_or_ne r .softwareInterrupt1 with rfl | hr''
  · exact .inr (.inr (.inl ⟨rfl, (Except.ok.inj hwrite).symm⟩))
  obtain ⟨f, he, hf⟩ := writeSystem_of_ne hr hr' hr'' hc v
  exact .inr (.inr (.inr ⟨f, hf, Except.ok.inj (h.symm.trans he)⟩))

end Interface

lemma remote_tuned {f : Core → Core} (hf : Core.Tunes f) : (s.modifyCurrent f).remote = s.remote :=
  remote_modifyCore _ fun c => (congrArg Core.remote (hf.untuned c) :)

/-- A CPU interface reaches nothing else. -/
lemma remote_writeInterface {o : Nat} {v : BitVec 32} (h : s.writeInterface o v = .ok t) :
    t.remote = s.remote := by
  rcases cases_writeInterface h with ⟨-, h⟩ | ⟨-, h⟩ | ⟨f, hf, rfl⟩
  · exact remote_endInterrupt h
  · exact remote_of_bare (agree_deactivate h)
  · exact remote_tuned hf

lemma remote_writeSystem {r : SystemRegister} {v : BitVec 64} (h : s.writeSystem r v = .ok t) :
    t.remote = s.remote := by
  obtain ⟨c, -, ⟨-, h⟩ | ⟨-, h⟩ | ⟨-, rfl⟩ | ⟨f, hf, rfl⟩⟩ := cases_writeSystem h
  · exact remote_endInterrupt h
  · exact remote_of_bare (agree_deactivate h)
  · exact remote_of_bare (bare_sendTo ..)
  · exact remote_tuned hf

/-! ### What the cores run -/

section Tasks

variable {o : Nat} {r : SystemRegister}

lemma readInterface_of_ne (ho : o ≠ 0xc) (w : Width) : (s.readInterface o w).2 = s := by
  unfold readInterface
  rcases w <;> rcases s.currentCore? with _ | c <;> try rfl
  simp only [readInterfaceWord, if_neg ho]
  repeat' split
  all_goals rfl

lemma readSystem_of_ne (hr : r ≠ .acknowledge1) : (s.readSystem r).2 = s := by
  unfold readSystem
  split
  · rfl
  · rw [if_neg hr]

/-- Only completing an interrupt may fail. -/
lemma tasks_writeInterface (ho : o ≠ 0x10) (ho' : o ≠ 0x1000) (v : BitVec 32) :
    ∃ t, s.writeInterface o v = .ok t ∧ Agree Core.tasks s t := by
  obtain ⟨f, he, hf⟩ := writeInterface_of_ne (s := s) ho ho' v
  exact ⟨_, he, .modifyCore s _ fun c => (congrArg Core.tasks (hf.untuned c) :)⟩

lemma tasks_writeSystem (hr : r ≠ .endOfInterrupt1) (hr' : r ≠ .deactivate)
    (hcore : (s.cores[s.current]?).isSome = true) (v : BitVec 64) :
    ∃ t, s.writeSystem r v = .ok t ∧ Agree Core.tasks s t := by
  obtain ⟨c, hc⟩ := Option.isSome_iff_exists.mp hcore
  rcases eq_or_ne r .softwareInterrupt1 with rfl | hr''
  · refine ⟨s.sendTo ((v >>> 24) &&& 0xf).toNat (s.sgiTargets v), by simp only [writeSystem, hc], ?_⟩
    exact (Agree.of_bare (bare_sendTo ..)).mono fun _ _ he =>
      Core.tasks_of_steady (Core.steady_of_bare he)
  · obtain ⟨f, he, hf⟩ := writeSystem_of_ne hr hr' hr'' hc v
    exact ⟨_, he, .modifyCore s _ fun c => (congrArg Core.tasks (hf.untuned c) :)⟩

end Tasks

end State

end InterruptControl.Hardware
