import InterruptControl.Proofs.CpuInterface.SoftwareInterrupt
import InterruptControl.Proofs.Distributor.SoftwareInterrupt
import InterruptControl.Proofs.Twins.Calls

/-!
The other calls on twins: SGIs, which are requested from the distributor of the one and from the
calling core of the other, and all that has to do with the CPU interface.
-/

namespace InterruptControl

open Bus Hardware Program

/-! ### Interrupts between cores -/

/-- The cores that an SGI for a destination goes to, if that is no list. -/
def Hardware.State.sgiCores {L : Type} (s : State) : Destination L → List Nat
  | .allOther => (List.range s.cores.size).filter (· ≠ s.current)
  | .current => (List.range s.cores.size).filter (· = s.current)
  | .listed _ => []

lemma Hardware.State.mem_filter_cores {s : State} (p : Nat → Prop) [DecidablePred p] {cpu : Nat}
    {c : Core} (hc : s.cores[cpu]? = some c) :
    cpu ∈ (List.range s.cores.size).filter (p ·) ↔ p cpu := by
  have hlt := (Array.getElem?_eq_some_iff.mp hc).1
  simp only [List.mem_filter, List.mem_range, hlt, decide_eq_true_eq, true_and]

/-- An SGI of a banked controller is requested from the distributor. -/
lemma Banked.Distributor.run_sendSgi {o : Options} {s : State} (hs : s.Sound o) (ho : o.isRouted = false)
    (hcpus : 0 < o.cpus) (hfew : o.cpus ≤ 8) (id : IntId) {dest : Destination CpuSet}
    (hdest : dest = .current ∨ dest = .allOther) :
    ((Distributor.mk Region.distributor.base).sendSgi id dest).run Board.answer (.controller s)
      = if id.isSgi then (.ok (), .controller (s.sendTo id.number (s.sgiCores dest)))
        else (.error .assertion, .controller s) := by
  split
  swap
  next hid => rw [sendSgi, run_require_bind, if_neg hid]
  next hid =>
    rw [run_sendSgi_signalled hs ho hcpus hfew hid]
    rcases hdest with rfl | rfl <;>
      rw [State.sgiCores, State.sendTo_eq _ _ (List.nodup_range.filter _)] <;>
      refine congrArg (fun t => (Except.ok (), Board.controller t)) (State.signalled_congr fun cpu d hd => ?_)
    · exact decide_eq_decide.mpr (State.mem_filter_cores (· = s.current) hd).symm
    · exact decide_eq_decide.mpr (State.mem_filter_cores (· ≠ s.current) hd).symm

/-- The cores of a small controller are all in one cluster, each with its number as the lowest
level. -/
def Hardware.State.Clustered (s : State) : Prop :=
  s.cores.size ≤ 8 ∧ ∀ {cpu : Nat} {c : Core}, s.cores[cpu]? = some c →
    c.affinityRegister = BitVec.twoPow 64 31 ||| BitVec.ofNat 64 cpu

/-- There, the affinity names the core. -/
lemma Hardware.State.Clustered.affinity_eq_iff {s : State} (h : s.Clustered) {i j : Nat} {c d : Core}
    (hc : s.cores[i]? = some c) (hd : s.cores[j]? = some d) :
    Affinity.ofCoreRegister d.affinityRegister = .ofCoreRegister c.affinityRegister ↔ j = i := by
  have hi := (Array.getElem?_eq_some_iff.mp hc).1.trans_le h.1
  have hj := (Array.getElem?_eq_some_iff.mp hd).1.trans_le h.1
  have hlevels : ∀ i < 8, ∀ j < 8, Affinity.ofCoreRegister (BitVec.twoPow 64 31 ||| BitVec.ofNat 64 j)
      = .ofCoreRegister (BitVec.twoPow 64 31 ||| BitVec.ofNat 64 i) ↔ j = i := by decide
  rw [h.2 hc, h.2 hd]
  exact hlevels i hi j hj

/-- An SGI of a routed controller is requested from the calling core. -/
lemma Routed.CpuInterface.run_sendSgi {s : State} {c : Core} (hc : s.cores[s.current]? = some c)
    (h : s.Clustered) (id : IntId) {dest : Destination ClusterList}
    (hdest : dest = .current ∨ dest = .allOther) :
    (sendSgi id dest).run Board.answer (.controller s)
      = if id.isSgi then (.ok (), .controller (s.sendTo id.number (s.sgiCores dest)))
        else (.error .assertion, .controller s) := by
  split
  swap
  next hid => rw [sendSgi, run_require_bind, if_neg hid]
  next hid =>
    rcases hdest with rfl | rfl
    · rw [run_sendSgi_current hc hid, State.sgiCores, State.sendTo_eq _ _ (List.nodup_range.filter _)]
      refine congrArg (fun t => (Except.ok (), Board.controller t)) (State.signalled_congr fun cpu d hd => ?_)
      exact decide_eq_decide.mpr ((h.affinity_eq_iff hc hd).trans
        (State.mem_filter_cores (· = s.current) hd).symm)
    · rw [run_sendSgi_allOther hc hid, State.sgiCores, State.sendTo_eq _ _ (List.nodup_range.filter _)]
      refine congrArg (fun t => (Except.ok (), Board.controller t)) (State.signalled_congr fun cpu d hd => ?_)
      exact decide_eq_decide.mpr (State.mem_filter_cores (· ≠ s.current) hd).symm

/-- The same interrupt of those that a banked controller can name, whoever sent it. -/
def Ack.Alike (a a' : Ack) : Prop := a'.id = a.id ∧ a.id.number < 1024

/-- Both CPU interfaces can name the interrupt. -/
lemma Hardware.Options.Twins.number_lt {o o' : Options} (h : o.Twins o') {n : Nat} (hn : n < 1024) :
    (n < if o.isRouted then 0x1000000 else 1024) ∧ n < if o'.isRouted then 0x1000000 else 1024 := by
  rw [h.banked, h.routed]
  exact ⟨hn, hn.trans (by decide)⟩

/-- The cores of a twin are numbered within their cluster. -/
lemma Hardware.State.Twin.clustered {o o' : Options} {twoStep : Bool} {s s' : State}
    (h : State.Twin o o' twoStep s s') (ho : o.Twins o') : s'.Clustered := by
  refine ⟨h.sound'.size ▸ ho.cpus ▸ ho.few, fun {cpu d} hd => ?_⟩
  have hlt : cpu < o.cpus := ho.cpus ▸ h.sound'.size ▸ (Array.getElem?_eq_some_iff.mp hd).1
  obtain ⟨e, e', he, he'⟩ := h.exists_cores ho hlt
  obtain rfl := Option.some.inj (hd.symm.trans he')
  rw [(h.core he he').1.affinity, ho.affinityRegister hlt]

namespace Gic

variable {o o' : Options} {twoStep : Bool} {H H' : Type} {A : H → H' → Prop} {g : Gic H} {g' : Gic H'}

/-- An SGI to the sender, or to all others, reaches the same cores. -/
lemma parallel_sendSgi (ho : o.Twins o') (id : IntId) {dest : Destination CpuSet}
    {dest' : Destination ClusterList}
    (hdest : dest = .current ∧ dest' = .current ∨ dest = .allOther ∧ dest' = .allOther) :
    Parallel o o' twoStep Eq ((Banked.Distributor.mk Region.distributor.base).sendSgi id dest)
      (Routed.CpuInterface.sendSgi id dest') := by
  intro s s' h
  obtain ⟨c, c', hc, hc'⟩ := h.exists_current ho
  have hrun := Banked.Distributor.run_sendSgi h.sound ho.banked ho.some ho.few id
    (hdest.imp And.left And.left)
  have hrun' := Routed.CpuInterface.run_sendSgi hc' (h.clustered ho) id
    (hdest.imp And.right And.right)
  have hcores : s'.sgiCores dest' = s.sgiCores dest := by
    rcases hdest with ⟨rfl, rfl⟩ | ⟨rfl, rfl⟩ <;> simp only [State.sgiCores, h.size ho, h.current]
  rw [hcores] at hrun'
  split at hrun
  next hid =>
    rw [if_pos hid] at hrun'
    exact ⟨_, _, _, _, hrun, hrun', .ok rfl, h.sendTo _ _⟩
  next hid =>
    rw [if_neg hid] at hrun'
    exact ⟨_, _, s, s', hrun, hrun', .error _, h⟩

/-- Special numbers are no interrupts. -/
lemma refused_of_special {H : Type} {g : Gic H} {o : Options} (hg : g.engine.Drives o) {a : Ack}
    (h : a.id.isSpecial = true) :
    g.complete a = Program.fail .assertion ∧ g.deactivate a = Program.fail .assertion := by
  rw [complete, deactivate]
  generalize g.engine = e at hg ⊢
  generalize g.twoStep = b
  cases hg with
  | banked =>
    simp only [Banked.CpuInterface.complete, Banked.CpuInterface.deactivate, h]
    cases b <;> exact ⟨rfl, rfl⟩
  | routed =>
    simp only [Routed.CpuInterface.complete, Routed.CpuInterface.deactivate, h]
    cases b <;> exact ⟨rfl, rfl⟩

section Interface

variable (ho : o.Twins o') (hg : g.Twin o o' twoStep A g')
include ho hg

lemma parallel_sendToCurrent (id : IntId) : Parallel o o' twoStep Eq (g.sendToCurrent id) (g'.sendToCurrent id) := by
  obtain ⟨_, _, he⟩ := hg.drives.exists_banked ho.banked
  obtain ⟨_, _, he'⟩ := hg.drives'.exists_routed ho.routed
  simp only [sendToCurrent, he, he']
  exact parallel_sendSgi ho id (.inl ⟨rfl, rfl⟩)

lemma parallel_sendToAllOther (id : IntId) :
    Parallel o o' twoStep Eq (g.sendToAllOther id) (g'.sendToAllOther id) := by
  obtain ⟨_, _, he⟩ := hg.drives.exists_banked ho.banked
  obtain ⟨_, _, he'⟩ := hg.drives'.exists_routed ho.routed
  simp only [sendToAllOther, he, he']
  exact parallel_sendSgi ho id (.inr ⟨rfl, rfl⟩)

/-! ### The CPU interface of the calling core -/

lemma parallel_setPriorityMask (mask : Priority) :
    Parallel o o' twoStep Eq (g.setPriorityMask mask) (g'.setPriorityMask mask) := by
  obtain ⟨_, _, he⟩ := hg.drives.exists_banked ho.banked
  obtain ⟨_, _, he'⟩ := hg.drives'.exists_routed ho.routed
  simp only [setPriorityMask, he, he']
  intro s s' h
  obtain ⟨c, c', hc, hc'⟩ := h.exists_current ho
  have hrun : (Banked.CpuInterface.onBus.setPriorityMask mask).run Board.answer (.controller s)
      = (.ok (), .controller (s.modifyCore s.current fun c =>
        { c with mappedPriorityMask := mask.setWidth 32 &&& 0xff })) :=
    (run_write32 ..).trans
      (Banked.CpuInterface.answer_write (h.sound.isRouted.trans ho.banked) (o := 0x4) (by decide) _)
  have hrun' : (Routed.CpuInterface.setPriorityMask mask).run Board.answer (.controller s')
      = (.ok (), .controller (s'.modifyCore s'.current fun c =>
        { c with priorityMask := mask.setWidth 64 &&& 0xff })) := by
    refine (run_writeSystem ..).trans ((Board.answer_writeSystem ..).trans ?_)
    rw [State.writeSystem, hc']
    rfl
  refine ⟨_, _, _, _, hrun, hrun', .ok rfl, ?_⟩
  rw [h.current]
  refine h.modifyCore _ ⟨fun _ _ => rfl, fun _ => ⟨rfl, rfl⟩, fun _ _ => rfl⟩
    ⟨fun _ _ => rfl, fun _ => ⟨rfl, rfl⟩, fun _ _ => rfl⟩ fun _ _ hcore => ?_
  have hmask : (mask.setWidth 64 &&& 0xff).setWidth 32 = mask.setWidth 32 &&& 0xff := by
    simp [BitVec.setWidth_and]
  exact ⟨hcore.running, hcore.lpis, hmask, hcore.completion, hcore.affinity⟩

lemma parallel_priorityMask : Parallel o o' twoStep Eq g.priorityMask g'.priorityMask := by
  obtain ⟨_, _, he⟩ := hg.drives.exists_banked ho.banked
  obtain ⟨_, _, he'⟩ := hg.drives'.exists_routed ho.routed
  simp only [priorityMask, he, he']
  intro s s' h
  obtain ⟨c, c', hc, hc'⟩ := h.exists_current ho
  have hrun : Banked.CpuInterface.onBus.priorityMask.run Board.answer (.controller s)
      = (.ok ((Banked.priorityMask.get c.mappedPriorityMask).setWidth 8), .controller s) :=
    (run_bind_ok ((run_read32 ..).trans
      (Banked.CpuInterface.answer_read (h.sound.isRouted.trans ho.banked) hc (o := 0x4) (by decide)))).trans
      (run_pure ..)
  have hread : Board.answer (.controller s') (.readSystem .priorityMask)
      = (.ok c'.priorityMask, .controller s') := by
    rw [Board.answer_readSystem]
    simp only [State.readSystem, hc']
    rfl
  have hrun' : Routed.CpuInterface.priorityMask.run Board.answer (.controller s')
      = (.ok (c'.priorityMask.setWidth 8), .controller s') :=
    (run_bind_ok ((run_readSystem ..).trans hread)).trans (run_pure ..)
  have hmask : (Banked.priorityMask.get c.mappedPriorityMask).setWidth 8 = c'.priorityMask.setWidth 8 := by
    rw [← (h.core hc (h.current ▸ hc')).1.mask]
    refine BitVec.eq_of_getLsbD_eq fun i hi => ?_
    rw [BitVec.getLsbD_setWidth, BitField.getLsbD_get, BitVec.getLsbD_setWidth, BitVec.getLsbD_setWidth]
    simp [Banked.priorityMask, BitField.of, hi, show i < 32 by omega]
  exact ⟨_, _, s, s', hrun, hrun', hmask ▸ .ok rfl, h⟩

/-- Both cores are given the same interrupt, or none. -/
lemma parallel_acknowledge :
    Parallel o o' twoStep (Option.Rel Ack.Alike) g.acknowledge g'.acknowledge := by
  intro s s' h
  obtain ⟨c, c', hc, hc'⟩ := h.exists_current ho
  have hcore := (h.core hc (h.current ▸ hc')).1
  have hlpis : ∀ n ∈ c.lpis.map Prod.fst, n < 0x1000000 := by simp [hcore.lpis.1]
  have hlpis' : ∀ n ∈ c'.lpis.map Prod.fst, n < 0x1000000 := by simp [hcore.lpis.2]
  have hrun := run_acknowledge hg.drives.fronts h.sound hc hlpis
  have hrun' := run_acknowledge hg.drives'.fronts h.sound' hc' hlpis'
  rw [h.current, h.next?_eq ho] at hrun'
  refine ⟨_, _, _, _, hrun, hrun', .ok ?_, h.taken ho _⟩
  rcases hn : s.next? s.current with _ | e
  · exact .none
  · obtain ⟨hnumber, hlt, -⟩ := State.ack_of_next? h.sound hc hlpis hn
    rw [ho.banked, if_neg Bool.false_ne_true] at hlt
    exact .some ⟨rfl, hnumber.symm ▸ hlt⟩

variable {a a' : Ack} (ha : a.Alike a')
include ha

lemma parallel_complete : Parallel o o' twoStep Eq (g.complete a) (g'.complete a') := by
  obtain ⟨hid, hlt⟩ := ha
  rcases hspecial : a.id.isSpecial with _ | _
  swap
  · rw [(refused_of_special hg.drives hspecial).1, (refused_of_special hg.drives' (hid ▸ hspecial)).1]
    exact .fail _
  intro s s' h
  obtain ⟨c, c', hc, hc'⟩ := h.exists_current ho
  have hcore := (h.core hc (h.current ▸ hc')).1
  have hrun := run_complete hg.drives.fronts h.sound hc (ho.number_lt hlt).1 hspecial
  have hrun' := run_complete hg.drives'.fronts h.sound' hc' (hid ▸ (ho.number_lt hlt).2) (hid ▸ hspecial)
  rw [ho.banked, hcore.completion.1] at hrun
  rw [ho.routed, hcore.completion.2, h.current, hid] at hrun'
  have hend := h.endInterrupt ho s.current a.id.number
  generalize s.endInterrupt s.current a.id.number twoStep = r at hend hrun
  generalize s'.endInterrupt s.current a.id.number twoStep = r' at hend hrun'
  cases hend with
  | ok ht => exact ⟨_, _, _, _, hrun, hrun', .ok rfl, ht⟩
  | error e => exact ⟨_, _, _, _, hrun, hrun', .error _, h⟩

lemma parallel_deactivate : Parallel o o' twoStep Eq (g.deactivate a) (g'.deactivate a') := by
  obtain ⟨hid, hlt⟩ := ha
  rcases hspecial : a.id.isSpecial with _ | _
  swap
  · rw [(refused_of_special hg.drives hspecial).2, (refused_of_special hg.drives' (hid ▸ hspecial)).2]
    exact .fail _
  rcases htwo : twoStep with _ | _
  · have hfail : g.deactivate a = Program.fail .assertion := by
      rw [deactivate, hg.mode, htwo]
      rfl
    have hfail' : g'.deactivate a' = Program.fail .assertion := by
      rw [deactivate, hg.mode', htwo]
      rfl
    rw [hfail, hfail']
    exact .fail _
  rw [← htwo]
  intro s s' h
  obtain ⟨c, c', hc, hc'⟩ := h.exists_current ho
  have hrun := run_deactivate hg.drives.fronts h.sound hc (ho.number_lt hlt).1 hspecial
    (hg.mode.trans htwo)
  have hrun' := run_deactivate hg.drives'.fronts h.sound' hc' (hid ▸ (ho.number_lt hlt).2)
    (hid ▸ hspecial) (hg.mode'.trans htwo)
  rw [h.current, hid] at hrun'
  have hend := h.deactivate ho s.current a.id.number
  generalize s.deactivate s.current a.id.number = r at hend hrun
  generalize s'.deactivate s.current a.id.number = r' at hend hrun'
  cases hend with
  | ok ht => exact ⟨_, _, _, _, hrun, hrun', .ok rfl, ht⟩
  | error e => exact ⟨_, _, _, _, hrun, hrun', .error _, h⟩

/-! ### Parts of the dispatch loop -/

/-- An interrupt that was served is completed. -/
lemma parallel_finish : Parallel o o' twoStep Eq (g.finish a) (g'.finish a') := by
  refine (parallel_complete ho hg ha).bind fun _ => ?_
  rw [hg.mode, hg.mode', ha.1]
  split
  · exact parallel_deactivate ho hg ha
  · exact .pure rfl

/-- One without a handler is masked. -/
lemma parallel_reject (hfit : o.Fits) (hfit' : o'.Fits) :
    Parallel o o' twoStep Eq (g.reject a) (g'.reject a') := by
  rw [reject, reject, ha.1]
  split
  · exact .notify _ _
  · exact (Parallel.notify _ _).bind fun _ => parallel_setFlag ho hfit hfit' hg a.id .enabled false

end Interface

end Gic

end InterruptControl
