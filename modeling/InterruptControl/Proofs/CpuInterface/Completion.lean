import InterruptControl.Proofs.Gic.Interface

/-!
What completing or deactivating an interrupt may touch, whatever number it is asked for.

Both CPU interfaces keep part of the number only: ten bits on a banked controller, twenty-four on
a routed one. Nothing but the interrupt with that number is completed. It is another one if the
number does not fit.
-/

namespace InterruptControl

open Bus Hardware Program

/-- What the registers of the CPU interface keep of the number. -/
def IntId.kept (routed : Bool) (id : IntId) : Nat := id.number % if routed then 0x1000000 else 0x400

lemma IntId.kept_eq {routed : Bool} {id : IntId} (h : id.number < if routed then 0x1000000 else 0x400) :
    id.kept routed = id.number := Nat.mod_eq_of_lt h

namespace Hardware.State

variable {s t : State} {n : Nat}

/-- From `s` to `t`, no interrupt but number `n` of the current core became inactive or changed at
all, and of what the cores run, at most an entry of it on the current core is gone. -/
structure Confined (n : Nat) (s t : State) : Prop where
  bare : t.bare = s.bare ∨ t.bare = (s.dropPriority s.current n).bare
  at? : ∀ p, t.at? p = s.at? p
    ∨ s.place? n s.current = some p ∧ t.at? p = (s.at? p).map fun q => { q with active := false }

lemma confined_deactivate (h : s.deactivate s.current n = .ok t) : Confined n s t := by
  obtain rfl := eq_of_deactivate h
  refine ⟨.inl (bare_modifyIrq ..), fun p => ?_⟩
  rw [at?_modifyIrq]
  split
  next hp => exact .inr ⟨hp, rfl⟩
  next => exact .inl rfl

lemma confined_endInterrupt {twoStep : Bool} (h : s.endInterrupt s.current n twoStep = .ok t) :
    Confined n s t := by
  obtain rfl := eq_of_endInterrupt h
  rcases twoStep with _ | _
  · refine ⟨.inr (bare_modifyIrq ..), fun p => ?_⟩
    rw [ended, if_neg Bool.false_ne_true, at?_modifyIrq, place?_dropPriority, at?_dropPriority]
    split
    next hp => exact .inr ⟨hp, rfl⟩
    next => exact .inl rfl
  · exact ⟨.inr rfl, fun p => .inl (at?_dropPriority p)⟩

/-- A call fails, and has done nothing, or it touches interrupt `n` at most. -/
def Confines (n : Nat) (s : State) (p : Program Unit) : Prop :=
  (∃ e, p.run Board.answer (.controller s) = (.error e, .controller s))
    ∨ ∃ t, p.run Board.answer (.controller s) = (.ok (), .controller t) ∧ Confined n s t

lemma Confines.guarded {p : Program Unit} (h : Confines n s p) (b : Bool) :
    Confines n s (require b >>= fun _ => p) := by
  rcases b with _ | _
  · exact .inl ⟨.assertion, rfl⟩
  · exact h

lemma Confines.run_eq {p : Program Unit} (h : Confines n s p) (hok : (s.perform p).1.isOk = true) :
    p.run Board.answer (.controller s) = (.ok (), .controller (s.perform p).2) := by
  rcases h with ⟨e, h⟩ | ⟨t, h, -⟩
  · rw [perform, h] at hok
    exact absurd hok Bool.false_ne_true
  · rw [perform, h]
    rfl

end Hardware.State

/-! ### The two interfaces -/

namespace Banked.CpuInterface

variable {s : State} (hr : s.isRouted = false) (a : Ack)

lemma mask_encode : (encode a &&& 0x3ff).toNat = a.id.kept false :=
  (BitVec.toNat_and ..).trans ((Nat.and_two_pow_sub_one_eq_mod _ 10).trans (toNat_encode a))

include hr

lemma confines_complete : s.Confines (a.id.kept false) (onBus.complete a) := by
  refine State.Confines.guarded ?_ _
  have hwrite := (run_write32 Board.answer (.controller s) onBus.endAddress (encode a)).trans
    (answer_write hr (o := 0x10) (by decide) (encode a))
  have hword : s.writeInterface 0x10 (encode a) = s.endInterrupt s.current (a.id.kept false)
      ((s.currentCore?.map fun c => c.mappedControl.getLsbD 9).getD false) := by
    rw [← mask_encode]
    rfl
  rw [hword] at hwrite
  rcases hend : s.endInterrupt s.current (a.id.kept false) _ with e | t <;> rw [hend] at hwrite
  · exact .inl ⟨_, hwrite⟩
  · exact .inr ⟨t, hwrite, State.confined_endInterrupt hend⟩

lemma confines_deactivate : s.Confines (a.id.kept false) (onBus.deactivate a) := by
  refine State.Confines.guarded ?_ _
  have hwrite := (run_write32 Board.answer (.controller s) onBus.deactivateAddress (encode a)).trans
    (answer_write hr (o := 0x1000) (by decide) (encode a))
  have hword : s.writeInterface 0x1000 (encode a) = s.deactivate s.current (a.id.kept false) := by
    rw [← mask_encode]
    rfl
  rw [hword] at hwrite
  rcases hend : s.deactivate s.current (a.id.kept false) with e | t <;> rw [hend] at hwrite
  · exact .inl ⟨_, hwrite⟩
  · exact .inr ⟨t, hwrite, State.confined_deactivate hend⟩

end Banked.CpuInterface

namespace Routed.CpuInterface

variable (s : State) (a : Ack)

lemma mask_raw : (a.id.raw.setWidth 64 &&& 0xffffff).toNat = a.id.kept true := by
  rw [BitVec.toNat_and, BitVec.toNat_setWidth_of_le (by decide)]
  exact Nat.and_two_pow_sub_one_eq_mod _ 24

lemma confines_complete : s.Confines (a.id.kept true) (complete a) := by
  refine State.Confines.guarded ?_ _
  have hwrite := (run_writeSystem Board.answer (.controller s) .endOfInterrupt1 (a.id.raw.setWidth 64)).trans
    (Board.answer_writeSystem ..)
  rcases hc : s.cores[s.current]? with _ | c
  · rw [State.writeSystem, hc] at hwrite
    exact .inl ⟨_, hwrite⟩
  rw [State.writeSystem, hc] at hwrite
  simp only [mask_raw] at hwrite
  rcases hend : s.endInterrupt s.current (a.id.kept true) _ with e | t <;> rw [hend] at hwrite
  · exact .inl ⟨_, hwrite⟩
  · exact .inr ⟨t, hwrite, State.confined_endInterrupt hend⟩

lemma confines_deactivate : s.Confines (a.id.kept true) (deactivate a) := by
  refine State.Confines.guarded ?_ _
  have hwrite := (run_writeSystem Board.answer (.controller s) .deactivate (a.id.raw.setWidth 64)).trans
    (Board.answer_writeSystem ..)
  rcases hc : s.cores[s.current]? with _ | c
  · rw [State.writeSystem, hc] at hwrite
    exact .inl ⟨_, hwrite⟩
  rw [State.writeSystem, hc] at hwrite
  simp only [mask_raw] at hwrite
  rcases hend : s.deactivate s.current (a.id.kept true) with e | t <;> rw [hend] at hwrite
  · exact .inl ⟨_, hwrite⟩
  · exact .inr ⟨t, hwrite, State.confined_deactivate hend⟩

end Routed.CpuInterface

/-! ### The interface that the hardware has -/

namespace CpuInterface

def acknowledge (routed : Bool) : Program (Option Ack) :=
  if routed then Routed.CpuInterface.acknowledge else Banked.CpuInterface.onBus.acknowledge

def complete (routed : Bool) (a : Ack) : Program Unit :=
  if routed then Routed.CpuInterface.complete a else Banked.CpuInterface.onBus.complete a

def deactivate (routed : Bool) (a : Ack) : Program Unit :=
  if routed then Routed.CpuInterface.deactivate a else Banked.CpuInterface.onBus.deactivate a

variable (s : State) (a : Ack)

lemma confines_complete : s.Confines (a.id.kept s.isRouted) (complete s.isRouted a) := by
  rcases hr : s.isRouted with _ | _
  · exact Banked.CpuInterface.confines_complete hr a
  · exact Routed.CpuInterface.confines_complete s a

lemma confines_deactivate : s.Confines (a.id.kept s.isRouted) (deactivate s.isRouted a) := by
  rcases hr : s.isRouted with _ | _
  · exact Banked.CpuInterface.confines_deactivate hr a
  · exact Routed.CpuInterface.confines_deactivate s a

/-- Completing and deactivating fail, or they touch at most the interrupt whose number the registers
keep. That is the one that was asked for if its number fits into them. -/
theorem completion_confined :
    s.Confines (a.id.kept s.isRouted) (complete s.isRouted a)
      ∧ s.Confines (a.id.kept s.isRouted) (deactivate s.isRouted a)
      ∧ (a.id.number < (if s.isRouted then 0x1000000 else 0x400) →
          a.id.kept s.isRouted = a.id.number) :=
  ⟨confines_complete s a, confines_deactivate s a, IntId.kept_eq⟩

/-- What a core of a banked controller does to be served interrupt 33. -/
def bankedService : List Event :=
  [.access (.write .word Region.distributor.base 3),
    .access (.write .word (Region.distributor.base + 0x104) 2),
    .access (.write .byte (Region.distributor.base + 0x800 + 33) 1), .raise 33 0,
    .access (.write .word Region.interface.base 3),
    .access (.write .word (Region.interface.base + 4) 0xff),
    .access (.read .word (Region.interface.base + 0xc))]

set_option maxRecDepth 100000 in
theorem completion_confined_in_service :
    let s := bankedService.foldl State.after (.reset .banked)
    s.Confines 33 (complete s.isRouted ⟨.ofNat 33, none⟩) := by
  intro s
  have hr : s.isRouted = false := by decide +kernel
  obtain ⟨hcomplete, -, hkept⟩ := completion_confined s ⟨.ofNat 33, none⟩
  rw [hkept (by rw [hr]; decide)] at hcomplete
  exact hcomplete

/-- The same for a routed one. -/
def routedService : List Event :=
  [.access (.write .word Region.distributor.base 2),
    .access (.write .word (Region.distributor.base + 0x84) 2),
    .access (.write .word (Region.distributor.base + 0x104) 2), .raise 33 0,
    .access (.writeSystem .systemEnable 1), .access (.writeSystem .groupEnable1 1),
    .access (.writeSystem .priorityMask 0xff), .access (.readSystem .acknowledge1)]

set_option maxRecDepth 100000 in
/-- A number that does not fit means another interrupt, and that one is completed. -/
theorem completion_aliases :
    (∃ s t, Reachable .banked s ∧ s.isRouted = false
        ∧ (complete false ⟨.ofNat 1057, none⟩).run Board.answer (.controller s) = (.ok (), .controller t)
        ∧ (s.irq? 33 0).map (·.active) = some true ∧ (t.irq? 33 0).map (·.active) = some false
        ∧ s.cores[0]?.map (·.running) = some [⟨33, 0⟩] ∧ t.cores[0]?.map (·.running) = some [])
      ∧ ∃ s t, Reachable .routed s ∧ s.isRouted = true
        ∧ (complete true ⟨.ofNat 0x1000021, none⟩).run Board.answer (.controller s)
          = (.ok (), .controller t)
        ∧ (s.irq? 33 0).map (·.active) = some true ∧ (t.irq? 33 0).map (·.active) = some false
        ∧ s.cores[0]?.map (·.running) = some [⟨33, 0⟩] ∧ t.cores[0]?.map (·.running) = some [] := by
  constructor
  · let s := bankedService.foldl State.after (.reset .banked)
    let a : Ack := ⟨.ofNat 1057, none⟩
    have hfacts : s.isRouted = false ∧ (s.perform (complete false a)).1.isOk = true
        ∧ ((s.irq? 33 0).map (·.active) = some true
        ∧ ((s.perform (complete false a)).2.irq? 33 0).map (·.active) = some false
        ∧ s.cores[0]?.map (·.running) = some [⟨33, 0⟩]
        ∧ (s.perform (complete false a)).2.cores[0]?.map (·.running) = some []) := by decide +kernel
    obtain ⟨hr, hok, hrest⟩ := hfacts
    exact ⟨s, _, Reachable.reset.foldl _, hr,
      (Banked.CpuInterface.confines_complete hr a).run_eq hok, hrest⟩
  · let s := routedService.foldl State.after (.reset .routed)
    let a : Ack := ⟨.ofNat 0x1000021, none⟩
    have hfacts : s.isRouted = true ∧ (s.perform (complete true a)).1.isOk = true
        ∧ ((s.irq? 33 0).map (·.active) = some true
        ∧ ((s.perform (complete true a)).2.irq? 33 0).map (·.active) = some false
        ∧ s.cores[0]?.map (·.running) = some [⟨33, 0⟩]
        ∧ (s.perform (complete true a)).2.cores[0]?.map (·.running) = some []) := by decide +kernel
    obtain ⟨hr, hok, hrest⟩ := hfacts
    exact ⟨s, _, Reachable.reset.foldl _, hr,
      (Routed.CpuInterface.confines_complete s a).run_eq hok, hrest⟩

end CpuInterface

end InterruptControl
