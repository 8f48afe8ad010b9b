import InterruptControl.Gic.Dispatch
import InterruptControl.Proofs.Bus.Trace
import InterruptControl.Proofs.IntId

/-!
Which requests the calls of the front end make. All but three of them leave it to others to
take interrupts and to complete them.
-/

namespace InterruptControl

open Bus Program

/-! ### Tables and blocks -/

section Tables

variable {P : Request → Prop}

/-- All the words of the table may be read and written. -/
structure Table.Within (P : Request → Prop) (t : Table) : Prop where
  read : ∀ i < t.words, P (.read .word (t.word i))
  write : ∀ i < t.words, ∀ v, P (.write .word (t.word i) v)

namespace Table.Within

variable {t : Table} (h : t.Within P) (i : Nat)
include h

lemma test : (t.test i).Within P := .guarded_bind fun hi =>
  .bind (.request (h.read _ (of_decide_eq_true hi))) fun _ => .pure _

lemma set : (t.set i).Within P := .guarded_bind fun hi =>
  .request (h.write _ (of_decide_eq_true hi) _)

lemma clear : (t.clear i).Within P := .guarded_bind fun hi => by
  refine .bind (.request (h.read _ (of_decide_eq_true hi))) fun v => ?_
  split
  · exact .pure _
  · exact .request (h.write _ (of_decide_eq_true hi) _)

lemma setEdge (e : Bool) : (t.setEdge i e).Within P := .guarded_bind fun hi =>
  .bind (.request (h.read _ (of_decide_eq_true hi))) fun _ =>
    .request (h.write _ (of_decide_eq_true hi) _)

lemma isEdge : (t.isEdge i).Within P := .guarded_bind fun hi =>
  .bind (.request (h.read _ (of_decide_eq_true hi))) fun _ => .pure _

end Table.Within

/-- The state of the interrupt at the slot may be read and written. -/
structure Slot.Within (P : Request → Prop) (s : Slot) : Prop where
  setting (f : Flag) : (s.layout.settingTable f).Within P
  clearing (f : Flag) : (s.layout.clearingTable f).Within P
  triggers : s.layout.triggerTable.Within P
  readPriority : P (.read .byte (s.layout.priorities + s.index))
  writePriority : ∀ v, P (.write .byte (s.layout.priorities + s.index) v)

/-- So may the state of the interrupt that the block finds. -/
def Block.Within (P : Request → Prop) (b : Block) (id : IntId) : Prop :=
  ∀ {α : Type} (f : Slot → Program α), (∀ s : Slot, s.Within P → (f s).Within P) →
    (b.locate id >>= f).Within P

namespace Block.Within

variable {b : Block} {id : IntId} (h : b.Within P id)
include h

lemma setFlag (f : Flag) (v : Bool) : (b.setFlag f id v).Within P := h _ fun s hs => by
  cases v
  · exact (hs.clearing f).clear _
  · exact (hs.setting f).set _

lemma hasFlag (f : Flag) : (b.hasFlag f id).Within P := h _ fun _ hs => (hs.setting f).test _

lemma setPriority (p : Priority) : (b.setPriority id p).Within P :=
  h _ fun _ hs => .request (hs.writePriority p)

lemma priority : (b.priority id).Within P := h _ fun _ hs => .request hs.readPriority

lemma setTrigger (t : Trigger) : (b.setTrigger id t).Within P := h _ fun s hs => by
  split
  · exact .pure _
  · exact hs.triggers.setEdge _ _

lemma trigger : (b.trigger id).Within P := h _ fun s hs => by
  split
  · exact .pure _
  · exact .bind (hs.triggers.isEdge _) fun _ => .pure _

end Block.Within

end Tables

/-! ### A banked controller -/

namespace Banked.Distributor

variable {d : Distributor} (hd : d.base = Region.distributor.base)
include hd

/-- All of the distributor lies before the CPU interface. -/
lemma quiet {w : Width} {o : Nat} (ho : o < 0x10000) (routed : Bool) :
    Quiet routed (.read w (d.base + o)) ∧ ∀ v, Quiet routed (.write w (d.base + o) v) := by
  refine Quiet.of_lt ?_ routed
  rw [hd, Region.base, Region.base]
  omega

lemma table_within {t : Table} {o : Nat} (ht : t.base = d.base + o) (ho : o + 4 * t.words ≤ 0x10000)
    (routed : Bool) : t.Within (Quiet routed) := by
  have (i : Nat) (hi : i < t.words) (w : Width) := quiet hd (w := w) (o := o + 4 * i) (by omega) routed
  refine ⟨fun i hi => ?_, fun i hi v => ?_⟩ <;> rw [Table.word, ht, Nat.add_assoc]
  · exact (this i hi .word).1
  · exact (this i hi .word).2 v

lemma block_within (id : IntId) (routed : Bool) : d.block.Within (Quiet routed) id := by
  intro α f hf
  refine .guarded_bind fun hid => hf _ ?_
  have hid : id.number < 1020 := of_decide_eq_true hid
  have hprio := quiet hd (w := .byte) (o := 0x400 + id.number) (by omega) routed
  rw [← Nat.add_assoc] at hprio
  refine ⟨fun f => ?_, fun f => ?_, table_within hd (o := 0xc00) rfl (Nat.le_of_ble_eq_true rfl) routed, hprio.1,
    hprio.2⟩
  · cases f
    · exact table_within hd (o := 0x100) rfl (Nat.le_of_ble_eq_true rfl) routed
    · exact table_within hd (o := 0x200) rfl (Nat.le_of_ble_eq_true rfl) routed
    · exact table_within hd (o := 0x300) rfl (Nat.le_of_ble_eq_true rfl) routed
  · cases f
    · exact table_within hd (o := 0x180) rfl (Nat.le_of_ble_eq_true rfl) routed
    · exact table_within hd (o := 0x280) rfl (Nat.le_of_ble_eq_true rfl) routed
    · exact table_within hd (o := 0x380) rfl (Nat.le_of_ble_eq_true rfl) routed

lemma setTargets_within (id : IntId) (s : CpuSet) (routed : Bool) :
    (d.setTargets id s).Within (Quiet routed) := by
  refine .require_bind fun hid => .require_bind fun _ => .request ?_
  have hid : id.number < 1020 := of_decide_eq_true hid
  have := (quiet hd (w := .byte) (o := 0x800 + id.number) (by omega) routed).2
  rw [← Nat.add_assoc] at this
  exact this _

omit hd in
lemma cpuCount_within {P : Request → Prop} (hP : P (.read .word d.typeAddress)) :
    d.cpuCount.Within P := .bind (.request hP) fun _ => .pure _

lemma implementer_within (routed : Bool) : d.implementer.Within (Quiet routed) :=
  .bind (.request (quiet hd (o := 0x8) (by decide) routed).1) fun _ => .pure _

lemma sendSgi_within (id : IntId) (dest : Destination CpuSet) (routed : Bool) :
    (d.sendSgi id dest).Within (Quiet routed) :=
  .bind (.require _) fun _ => .request ((quiet hd (o := 0xf00) (by decide) routed).2 _)

end Banked.Distributor

/-! ### A routed controller -/

namespace Routed

/-- Accesses to memory reach no CPU interface. -/
lemma quiet {w : Width} (a : Nat) : Quiet true (.read w a) ∧ ∀ v, Quiet true (.write w a v) :=
  ⟨.inl rfl, fun _ => .inl rfl⟩

lemma slot_within (s : Slot) : s.Within (Quiet true) where
  setting _ := ⟨fun _ _ => .inl rfl, fun _ _ _ => .inl rfl⟩
  clearing _ := ⟨fun _ _ => .inl rfl, fun _ _ _ => .inl rfl⟩
  triggers := ⟨fun _ _ => .inl rfl, fun _ _ _ => .inl rfl⟩
  readPriority := .inl rfl
  writePriority _ := .inl rfl

namespace Distributor

variable (d : Distributor) (id : IntId)

lemma place_within {P : Request → Prop} (hP : P (.read .word d.typeAddress)) :
    (d.place id).Within P := by
  unfold place
  split
  · exact .bind (.bind (.request hP) fun _ => .pure _) fun _ =>
      .bind (.require _) fun _ => .pure _
  · exact .bind (.require _) fun _ => .pure _

lemma block_within : d.block.Within (Quiet true) id := fun _ hf =>
  .bind (.bind (d.place_within id (quiet _).1) fun _ => .pure _) fun s => hf s (slot_within s)

lemma routeAddress_within : (d.routeAddress id).Within (Quiet true) :=
  .bind (d.place_within id (quiet _).1) fun _ => .pure _

lemma setRoute_within (a : Affinity) : (d.setRoute id a).Within (Quiet true) :=
  .bind (.require _) fun _ => .bind (d.routeAddress_within id) fun _ => .request ((quiet _).2 _)

lemma setRouteAny_within : (d.setRouteAny id).Within (Quiet true) :=
  .bind (.require _) fun _ => .bind (d.routeAddress_within id) fun _ => .request ((quiet _).2 _)

lemma implementer_within : d.implementer.Within (Quiet true) :=
  .bind (.request (quiet _).1) fun _ => .pure _

end Distributor

namespace Redistributor

variable (r : Redistributor)

lemma info_within {P : Request → Prop} (hP : P (.read .doubleword r.infoAddress)) :
    r.info.Within P := .bind (.request hP) fun _ => .pure _

lemma index_within {P : Request → Prop} (hP : P (.read .doubleword r.infoAddress)) (id : IntId) :
    (r.index id).Within P := by
  refine .bind (.require _) fun _ => ?_
  split
  · exact .bind (r.info_within hP) fun _ => .bind (.require _) fun _ => .pure _
  · exact .pure _

lemma block_within (id : IntId) : r.block.Within (Quiet true) id := fun _ hf =>
  .bind (.bind (r.index_within (quiet _).1 id) fun _ => .pure _) fun s => hf s (slot_within s)

lemma scan_within (stride : Nat) (a : Affinity) (n address : Nat) :
    (scan stride a n address).Within (Quiet true) := by
  induction n generalizing address with
  | zero => exact .fail (by simp)
  | succ n ih =>
    refine .bind (info_within _ (quiet _).1) fun i => ?_
    split
    · exact .pure _
    split
    · exact .pure _
    · exact ih _

end Redistributor

lemma currentAffinity_within {P : Request → Prop} (hP : P (.readSystem .coreAffinity)) :
    Affinity.current.Within P := .bind (.request hP) fun _ => .pure _

lemma coreAffinity_quiet (routed : Bool) : Quiet routed (.readSystem .coreAffinity) :=
  (by decide : SystemRegister.coreAffinity ∉ _)

lemma Driver.currentRedistributor_within (d : Driver) :
    d.currentRedistributor.Within (Quiet true) := by
  refine .bind (currentAffinity_within (coreAffinity_quiet _)) fun a =>
    .bind (Redistributor.scan_within _ _ _ _) fun r => ?_
  cases r
  · exact .fail (by simp)
  · exact .pure _

lemma CpuInterface.sendSgi_within (id : IntId) (dest : Destination ClusterList) (routed : Bool) :
    (CpuInterface.sendSgi id dest).Within (Quiet routed) := by
  refine .bind (.require _) fun _ => .bind ?_ fun _ =>
    .bind (.request (by decide : SystemRegister.softwareInterrupt1 ∉ _)) fun _ => .request trivial
  cases dest with
  | allOther => exact .pure _
  | current =>
    exact .bind (currentAffinity_within (coreAffinity_quiet _)) fun _ =>
      .bind (.expect _) fun _ => .pure _
  | listed l => exact .pure _

end Routed

/-! ### The front end -/

/-- The front end is for a controller of its kind, and looks for the registers of a banked one
where they are. -/
inductive Engine.Fronts (o : Hardware.Options) : Engine → Prop
  | banked (ho : o.isRouted = false) (lines : Nat) (started : Bool) :
    Fronts o (.banked ⟨⟨Region.distributor.base⟩, ⟨Region.interface.base⟩, lines, started⟩)
  | routed (ho : o.isRouted = true) (d : Routed.Driver) : Fronts o (.routed d)

/-- It looks for the registers of a routed controller where they are, too. -/
inductive Engine.Drives (o : Hardware.Options) : Engine → Prop
  | banked (ho : o.isRouted = false) (lines : Nat) (started : Bool) :
    Drives o (.banked ⟨⟨Region.distributor.base⟩, ⟨Region.interface.base⟩, lines, started⟩)
  | routed (ho : o.isRouted = true) (security : Routed.SecurityState) (started : Bool) :
    Drives o (.routed
      ⟨⟨Region.distributor.base, security⟩, Region.redistributors.base, o.stride, started⟩)

lemma Engine.Drives.fronts {e : Engine} {o : Hardware.Options} (h : e.Drives o) : e.Fronts o := by
  cases h with
  | banked ho lines started => exact .banked ho lines started
  | routed ho => exact .routed ho _

namespace Gic

variable {H : Type} {g : Gic H} {o : Hardware.Options} (hg : g.engine.Fronts o)
include hg

/-- Where the block of an interrupt comes from is found out by quiet requests. -/
lemma block_within (id : IntId) {α : Type} {f : Block → Program α}
    (hf : ∀ b : Block, b.Within (Quiet o.isRouted) id → (f b).Within (Quiet o.isRouted)) :
    (g.block id >>= f).Within (Quiet o.isRouted) := by
  unfold block
  generalize g.engine = e at hg ⊢
  cases hg with
  | banked ho => exact hf _ (Banked.Distributor.block_within rfl id _)
  | routed ho =>
    rw [ho] at hf ⊢
    simp only
    split
    · rw [Program.bind_assoc]
      exact .bind (Routed.Driver.currentRedistributor_within _) fun r => hf _ (r.block_within id)
    · exact hf _ (Routed.Distributor.block_within _ id)

lemma setFlag_within (f : Flag) (id : IntId) (v : Bool) :
    (g.setFlag f id v).Within (Quiet o.isRouted) := block_within hg id fun _ hb => hb.setFlag f v

lemma hasFlag_within (f : Flag) (id : IntId) : (g.hasFlag f id).Within (Quiet o.isRouted) :=
  block_within hg id fun _ hb => hb.hasFlag f

lemma setPriority_within (id : IntId) (p : Priority) :
    (g.setPriority id p).Within (Quiet o.isRouted) := block_within hg id fun _ hb => hb.setPriority p

lemma priority_within (id : IntId) : (g.priority id).Within (Quiet o.isRouted) :=
  block_within hg id fun _ hb => hb.priority

lemma setTrigger_within (id : IntId) (t : Trigger) :
    (g.setTrigger id t).Within (Quiet o.isRouted) := block_within hg id fun _ hb => hb.setTrigger t

lemma trigger_within (id : IntId) : (g.trigger id).Within (Quiet o.isRouted) :=
  block_within hg id fun _ hb => hb.trigger

lemma routeTo_within (id : IntId) (a : Affinity) : (g.routeTo id a).Within (Quiet o.isRouted) := by
  unfold routeTo
  generalize g.engine = e at hg ⊢
  cases hg with
  | banked ho =>
    exact .bind (.expect _) fun _ => Banked.Distributor.setTargets_within rfl _ _ _
  | routed ho => exact ho ▸ Routed.Distributor.setRoute_within _ _ _

lemma routeToAny_within (id : IntId) : (g.routeToAny id).Within (Quiet o.isRouted) := by
  unfold routeToAny
  generalize g.engine = e at hg ⊢
  cases hg with
  | banked ho =>
    exact .bind (Banked.Distributor.cpuCount_within
        (Banked.Distributor.quiet rfl (o := 0x4) (by decide) _).1) fun _ =>
      Banked.Distributor.setTargets_within rfl _ _ _
  | routed ho => exact ho ▸ Routed.Distributor.setRouteAny_within _ _

lemma routeByDefault_within (id : IntId) : (g.routeByDefault id).Within (Quiet o.isRouted) := by
  unfold routeByDefault
  generalize g.engine = e at hg ⊢
  cases hg with
  | banked ho => exact Banked.Distributor.setTargets_within rfl _ _ _
  | routed ho =>
    rw [ho]
    exact .bind (Routed.currentAffinity_within (Routed.coreAffinity_quiet _)) fun _ =>
      Routed.Distributor.setRoute_within _ _ _

lemma configure_within (c : Setup) : (g.configure c).Within (Quiet o.isRouted) := by
  refine .bind (setFlag_within hg _ _ _) fun _ => .bind (setTrigger_within hg _ _) fun _ =>
    .bind (setPriority_within hg _ _) fun _ => ?_
  have hend : (notify (.configured c.id.number c.trigger.name c.priority.toNat) >>= fun _ =>
      g.setFlag .enabled c.id true).Within (Quiet o.isRouted) :=
    .bind (.request trivial) fun _ => setFlag_within hg _ _ _
  simp only
  split
  · exact hend
  rcases c.target with _ | a
  · exact .bind (routeByDefault_within hg _) fun _ => hend
  · exact .bind (routeTo_within hg _ _) fun _ => hend

lemma sendToCurrent_within (id : IntId) : (g.sendToCurrent id).Within (Quiet o.isRouted) := by
  unfold sendToCurrent
  generalize g.engine = e at hg ⊢
  cases hg with
  | banked ho => exact Banked.Distributor.sendSgi_within rfl _ _ _
  | routed ho => exact Routed.CpuInterface.sendSgi_within _ _ _

lemma sendToAllOther_within (id : IntId) : (g.sendToAllOther id).Within (Quiet o.isRouted) := by
  unfold sendToAllOther
  generalize g.engine = e at hg ⊢
  cases hg with
  | banked ho => exact Banked.Distributor.sendSgi_within rfl _ _ _
  | routed ho => exact Routed.CpuInterface.sendSgi_within _ _ _

lemma sendToSet_within (id : IntId) (s : CpuSet) : (g.sendToSet id s).Within (Quiet o.isRouted) := by
  unfold sendToSet banked
  generalize g.engine = e at hg ⊢
  cases hg with
  | banked ho => exact Banked.Distributor.sendSgi_within rfl _ _ _
  | routed ho => exact .fail (by simp)

lemma sendToCluster_within (id : IntId) (l : ClusterList) :
    (g.sendToCluster id l).Within (Quiet o.isRouted) := by
  unfold sendToCluster routed
  generalize g.engine = e at hg ⊢
  cases hg with
  | banked ho => exact .fail (by simp)
  | routed ho => exact Routed.CpuInterface.sendSgi_within _ _ _

omit hg in
/-- The priority mask of a banked controller is next to the registers that are not quiet. -/
lemma mask_quiet (routed : Bool) : Quiet routed (.read .word (Region.interface.base + 0x4))
    ∧ ∀ v, Quiet routed (.write .word (Region.interface.base + 0x4) v) := by
  have : ∀ o ∈ [0xc, 0x10, 0x1000], wrapAddress (Region.interface.base + 0x4)
      ≠ Region.interface.base + o := by decide
  exact ⟨.inr this, fun _ => .inr this⟩

lemma setPriorityMask_within (mask : Priority) :
    (g.setPriorityMask mask).Within (Quiet o.isRouted) := by
  unfold setPriorityMask
  generalize g.engine = e at hg ⊢
  cases hg with
  | banked ho => exact .request ((mask_quiet _).2 _)
  | routed ho => exact .request (by decide : SystemRegister.priorityMask ∉ _)

lemma priorityMask_within : g.priorityMask.Within (Quiet o.isRouted) := by
  unfold priorityMask
  generalize g.engine = e at hg ⊢
  cases hg with
  | banked ho => exact .bind (.request (mask_quiet _).1) fun _ => .pure _
  | routed ho =>
    exact .bind (.request (by decide : SystemRegister.priorityMask ∉ _)) fun _ => .pure _

lemma name_within : g.name.Within (Quiet o.isRouted) := by
  unfold name
  generalize g.engine = e at hg ⊢
  cases hg with
  | banked ho =>
    exact .bind (Banked.Distributor.implementer_within rfl _) fun _ => .pure _
  | routed ho => exact ho ▸ .bind (Routed.Distributor.implementer_within _) fun _ => .pure _

lemma reject_within (a : Ack) : (g.reject a).Within (Quiet o.isRouted) := by
  unfold reject
  split
  · exact .request trivial
  · exact .bind (.request trivial) fun _ => setFlag_within hg _ _ _

end Gic

end InterruptControl
