import InterruptControl.Proofs.Hardware.Reachable

/-!
Bits that the hardware leaves out of its registers, whatever is written.

The software finds out about security, and whether a write is still on its way, from bits that
nobody but the hardware sets. The registers that stand behind never hold them.
-/

namespace InterruptControl.Hardware

namespace State

/-- What is kept out of the registers of a controller. Only the secure state reaches the access
control of a routed one. -/
structure Masked (s : State) : Prop where
  control : s.isRouted = true → s.control.getLsbD 6 = false
  probe : s.isRouted = true → s.options.secureAccess = false → s.accessControl[0] = 0
  core {i : Nat} {c : Core} (h : s.cores[i]? = some c) : c.redistributorControl.getLsbD 3 = false

variable {s t : State}

/-! ### Every event keeps them so -/

namespace Masked

lemma of_remote (h : s.Masked) (he : t.remote = s.remote) : t.Masked := by
  have hagree := Agree.of_remote he
  have hcontrol : t.control = s.control := (congrArg State.control he :)
  have haccess : t.accessControl = s.accessControl := (congrArg State.accessControl he :)
  refine ⟨fun hr => ?_, fun hr hs => ?_, fun {i c'} hc' => ?_⟩
  · rw [hcontrol]
    exact h.control (hagree.isRouted ▸ hr)
  · rw [haccess]
    exact h.probe (hagree.isRouted ▸ hr) (hagree.options ▸ hs)
  · obtain ⟨c, hc, hcore⟩ := hagree.exists_core hc'
    rw [← show c.redistributorControl = c'.redistributorControl from
      (congrArg Core.redistributorControl hcore :)]
    exact h.core hc

lemma of_bare (h : s.Masked) (hb : t.bare = s.bare) : t.Masked := h.of_remote (remote_of_bare hb)

/-- A change of one core that sets no more than the bit that enables LPIs. -/
lemma modifyCore (h : s.Masked) {cpu : Nat} {f : Core → Core}
    (hf : ∀ c, c.redistributorControl.getLsbD 3 = false →
      (f c).redistributorControl.getLsbD 3 = false) : (s.modifyCore cpu f).Masked := by
  refine ⟨h.control, h.probe, fun {i c'} hc' => ?_⟩
  rw [getElem?_modifyCore] at hc'
  split at hc'
  · obtain ⟨c, hc, rfl⟩ := Option.map_eq_some_iff.mp hc'
    exact hf c (h.core hc)
  · exact h.core hc'

lemma distributorStep (h : s.Masked) (ht : DistributorStep s t) : t.Masked := by
  cases ht with
  | interrupts hb => exact h.of_bare hb
  | control v =>
    refine ⟨fun hr => ?_, h.probe, h.core⟩
    have hrouted : s.isRouted = true := hr
    show (if s.isRouted then v &&& 0x7fffffbf else v &&& 3).getLsbD 6 = false
    rw [if_pos hrouted, BitVec.getLsbD_and]
    exact Bool.and_false _
  | accessControl i v hsecure =>
    exact ⟨h.control, fun hr hs => absurd (hsecure hr) (Bool.eq_false_iff.mp hs), h.core⟩

lemma redistributorStep (h : s.Masked) {cpu : Nat} (ht : RedistributorStep s cpu t) : t.Masked := by
  cases ht with
  | interrupts hb => exact h.of_bare hb
  | control v =>
    refine h.modifyCore fun _ _ => ?_
    show (v &&& 1).getLsbD 3 = false
    rw [BitVec.getLsbD_and]
    exact Bool.and_false _
  | sleep | accessControl => exact h.modifyCore fun _ hc => hc

lemma access (h : s.Masked) (q : Request) : (s.after (.access q)).Masked :=
  after_access (fun _ => h.of_remote) (fun _ => h.distributorStep) (fun _ _ _ => h.redistributorStep) q

lemma setCurrent (h : s.Masked) (i : Nat) : ({ s with current := i } : State).Masked :=
  ⟨h.control, h.probe, h.core⟩

protected lemma after (h : s.Masked) (e : Event) : (s.after e).Masked := by
  cases e with
  | access q => exact h.access q
  | setCurrent cpu =>
    simp only [State.after, State.setCurrent]
    split
    · exact h.setCurrent cpu
    · exact h
  | raise id cpu => exact after_raise s cpu id ▸ h.of_bare (bare_modifyIrq ..)
  | raiseLpi id p cpu =>
    simp only [State.after, State.raiseLpi]
    split
    · exact h.modifyCore fun _ hc => hc
    · exact h
  | stickDistributor stuck => exact ⟨h.control, h.probe, h.core⟩
  | setAffinity cpu v => exact after_setAffinity s cpu v ▸ h.modifyCore fun _ hc => hc
  | stickRedistributor cpu stuck =>
    exact after_stickRedistributor s cpu stuck ▸ h.modifyCore fun _ hc => hc
  | stickWaker cpu stuck => exact after_stickWaker s cpu stuck ▸ h.modifyCore fun _ hc => hc

lemma reset (o : Options) : (State.reset o).Masked := by
  refine ⟨fun _ => BitVec.getLsbD_zero, fun _ _ => Vector.getElem_replicate .., fun {i c} hc => ?_⟩
  obtain ⟨-, rfl⟩ := core_reset_iff.mp hc
  exact BitVec.getLsbD_zero

end Masked

end State

/-- Whatever happens, the bits stay out. -/
lemma Reachable.masked {o : Options} {s : State} (h : Reachable o s) : s.Masked := by
  induction h with
  | reset => exact .reset o
  | after _ e ih => exact ih.after e

/-! ### The bit that tells of a write on its way -/

namespace State

variable {s : State}

/-- The control register does not hold the bit. -/
def Settled (s : State) : Prop := s.control.getLsbD 31 = false

namespace Settled

lemma of_remote (h : s.Settled) {t : State} (he : t.remote = s.remote) : t.Settled := by
  rw [Settled, show t.control = s.control from (congrArg State.control he :)]
  exact h

lemma of_bare (h : s.Settled) {t : State} (hb : t.bare = s.bare) : t.Settled :=
  h.of_remote (remote_of_bare hb)

lemma distributorStep (h : s.Settled) (ht : DistributorStep s t) : t.Settled := by
  cases ht with
  | interrupts hb => exact h.of_bare hb
  | control v =>
    have hmask (m : BitVec 32) (hm : m.getLsbD 31 = false) : (v &&& m).getLsbD 31 = false := by
      rw [BitVec.getLsbD_and, hm, Bool.and_false]
    show (if s.isRouted then v &&& 0x7fffffbf else v &&& 3).getLsbD 31 = false
    split
    · exact hmask _ rfl
    · exact hmask _ rfl
  | accessControl => exact h

lemma redistributorStep (h : s.Settled) {cpu : Nat} (ht : RedistributorStep s cpu t) : t.Settled := by
  cases ht with
  | interrupts hb => exact h.of_bare hb
  | control | sleep | accessControl => exact h

lemma access (h : s.Settled) (q : Request) : (s.after (.access q)).Settled :=
  after_access (fun _ => h.of_remote) (fun _ => h.distributorStep) (fun _ _ _ => h.redistributorStep) q

/-- Events from outside do not reach the register. -/
protected lemma after (h : s.Settled) (e : Event) : (s.after e).Settled := by
  cases e with
  | access q => exact h.access q
  | raise id cpu => exact after_raise s cpu id ▸ h.of_bare (bare_modifyIrq ..)
  | setAffinity cpu v => exact after_setAffinity s cpu v ▸ h
  | stickDistributor stuck => exact h
  | stickRedistributor cpu stuck => exact after_stickRedistributor s cpu stuck ▸ h
  | stickWaker cpu stuck => exact after_stickWaker s cpu stuck ▸ h
  | setCurrent | raiseLpi =>
    simp only [State.after, State.setCurrent, State.raiseLpi]
    split <;> exact h

end Settled

end State

/-- Only the hardware itself shows it, in place of what the register holds. -/
lemma Reachable.settled {o : Options} {s : State} (h : Reachable o s) : s.Settled := by
  induction h with
  | reset => exact BitVec.getLsbD_zero
  | after _ e ih => exact ih.after e

end InterruptControl.Hardware
