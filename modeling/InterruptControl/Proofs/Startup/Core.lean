import InterruptControl.Proofs.Gic.Interface
import InterruptControl.Proofs.Redistributor
import InterruptControl.Proofs.Startup.Distributor

/-!
What starting a core leaves: its private interrupts renewed, and its CPU interface open to every
priority. Nothing of another core is reached, and on a routed controller none of a distributor.
-/

namespace InterruptControl

open Bus Hardware Program

namespace Hardware

/-- A core that was woken up. -/
def Core.woken (c : Core) : Core := { c with asleep := false }

/-- An interface of system registers that is open. -/
def Core.opened (twoStep : Bool) (c : Core) : Core := { c with
  systemEnable := 7
  priorityMask := 0xff
  groupEnable1 := 1
  control := Routed.CpuControl.twoStep.set c.control (if twoStep then 1 else 0) &&& 3 }

/-- The registers of a core once it is started. -/
def Core.started (routed twoStep : Bool) (c : Core) : Core :=
  if routed then Core.opened twoStep c.woken
  else { c with
    mappedControl := if twoStep then 0x203 else 3
    mappedPriorityMask := 0xff
    mappedBinaryPoint := 2
    mappedBinaryPoint1 := 3 }

lemma Core.apart_opened (twoStep : Bool) : Core.Apart (Core.opened twoStep) :=
  ⟨fun _ => rfl, fun _ => ⟨rfl, rfl⟩⟩

lemma Core.apart_started (routed twoStep : Bool) : Core.Apart (Core.started routed twoStep) := by
  cases routed
  · exact ⟨fun _ => rfl, fun _ => ⟨rfl, rfl⟩⟩
  · exact ⟨fun _ => rfl, fun _ => ⟨rfl, rfl⟩⟩

end Hardware

namespace Bus

/-- The call does nothing but to set registers of the current core. -/
def Sets (p : Program Unit) (s : State) (f : Core → Core) : Prop :=
  p.run Board.answer (.controller s) = (.ok (), .controller (s.modifyCurrent f))

namespace Sets

variable {p q : Program Unit} {s : State} {f g : Core → Core}

lemma bind (hp : Sets p s f) (hq : Sets q (s.modifyCurrent f) g) :
    Sets (p >>= fun _ => q) s fun c => g (f c) := by
  unfold Sets at hp hq ⊢
  rw [run_bind_ok hp, hq]
  exact congrArg (fun t => (Except.ok (), Board.controller t)) (State.modifyCore_modifyCore ..)

/-- What comes after two calls. -/
lemma run_bind {α : Type} (h : Sets (p >>= fun _ => q) s f) {k : Unit → Program α} :
    (p >>= fun _ => q >>= k).run Board.answer (.controller s)
      = (k ()).run Board.answer (.controller (s.modifyCurrent f)) := by
  rw [← bind_assoc]
  exact run_bind_ok h

/-- The value comes from the core that is set. -/
lemma congr (h : Sets p s f) {c : Core} (hc : s.cores[s.current]? = some c) (hfg : f c = g c) :
    Sets p s g := by
  refine h.trans (congrArg (fun t => (Except.ok (), Board.controller t)) ?_)
  refine State.modifyCore_congr fun c' hc' => ?_
  obtain rfl := Option.some.inj (hc'.symm.trans hc)
  exact hfg

end Sets

end Bus

/-! ### A core of a banked controller -/

namespace Banked

variable {o : Options} {s : State} {c : Core}

/-- Looking for a target that is not zero changes nothing. -/
lemma Distributor.run_firstTarget (s : State) {i n : Nat} (h : i + n ≤ 0x400) :
    ∃ v, (Distributor.firstTarget ⟨Region.distributor.base⟩ i n).run Board.answer (.controller s)
      = (.ok v, .controller s) := by
  induction n generalizing i with
  | zero => exact ⟨0, rfl⟩
  | succ n ih =>
    have hread := (Bank.answer_byte (s := s) (d := 0x800) (i := i) (by omega)).1
    obtain ⟨v, hv⟩ := ih (i := i + 1) (by omega)
    by_cases hzero : s.readDistributorByte (0x800 + i) = 0
    · refine ⟨v, (run_bind_ok ((run_read8 ..).trans hread)).trans ?_⟩
      rw [if_neg (not_not_intro hzero)]
      exact hv
    · refine ⟨s.readDistributorByte (0x800 + i), (run_bind_ok ((run_read8 ..).trans hread)).trans ?_⟩
      rw [if_pos hzero]
      rfl

lemma Distributor.run_resetPrivate (hr : s.isRouted = false) (hc : s.cores[s.current]? = some c) :
    ∃ t, (Distributor.resetPrivate ⟨Region.distributor.base⟩).run Board.answer (.controller s)
        = (.ok (), .controller t)
      ∧ State.Renews s.options (s.options.Private s.current) s t := by
  have hkept : (Bank.distributor s).Kept s := Bank.kept_distributor s
  have hwords (f : Flag) : 0 < ((Bank.distributor s).layout.clearingTable f).words := Nat.zero_lt_succ 31
  have hgroup : ∀ i < 32, WriteRule.plain.apply .group1 ((BitVec.allOnes 32).getLsbD i)
      = (·.put .group1 true) := by
    intro i hi
    rw [BitVec.getLsbD_allOnes, decide_eq_true hi]
    rfl
  obtain ⟨t1, hrun1, h1⟩ := hkept.write_word (.clearing .enabled) (Bank.apply_clear .enabled)
    (hwords .enabled)
  obtain ⟨t2, hrun2, h2⟩ := (hkept.of_bare h1.bare).write_word (.clearing .pending)
    (Bank.apply_clear .pending) (hwords .pending)
  have hbare2 := h2.bare.trans h1.bare
  obtain ⟨t3, hrun3, h3⟩ := (hkept.of_bare hbare2).write_word (.clearing .active)
    (Bank.apply_clear .active) (hwords .active)
  have hbare3 := h3.bare.trans hbare2
  obtain ⟨t4, hrun4, h4⟩ := (hkept.of_bare hbare3).write_word (.plain (a := .group1) (Bool.or_true _))
    hgroup (k := 0) (Nat.zero_lt_succ 31)
  obtain ⟨t5, hrun5, h5⟩ := (hkept.of_bare (h4.bare.trans hbare3)).fill_priorities Priority.default
    (show 0 + 32 ≤ (Bank.distributor s).size by show 32 ≤ 1020; omega)
  obtain ⟨v, hmask⟩ := Distributor.run_firstTarget t5 (i := 0) (n := 32) (by omega)
  have hcovers (p : Place) : (Bank.distributor s).Covers 0 32 p ↔ s.options.Private s.current p := by
    rw [Bank.covers_first hr hc, Options.Private, Options.privateCount_of_banked hr]
  have hall := ((((h1.congr hcovers).trans (h2.congr hcovers)).trans (h3.congr hcovers)).trans
    (h4.congr hcovers)).trans (h5.congr hcovers)
  refine ⟨t5, ?_, .of_changes hall fun p hp => funext fun q => ?_⟩
  · refine (run_bind_ok hrun1).trans ?_
    refine (run_bind_ok hrun2).trans ?_
    refine (run_bind_ok hrun3).trans ?_
    refine (run_bind_ok hrun4).trans ?_
    refine (run_bind_ok hrun5).trans ?_
    exact (run_bind_ok hmask).trans (run_notify ..)
  · rw [Options.renew, hp.isShared, show s.options.isRouted = false from hr]
    rfl

namespace CpuInterface

/-- A write to one of the registers that only set the core up. -/
lemma sets_write (hr : s.isRouted = false) {a o : Nat} {v : BitVec 32} {f : Core → Core}
    (ha : a = Region.interface.base + o) (ho : o < 0x2000)
    (hf : s.writeInterface o v = .ok (s.modifyCurrent f)) : Sets (write32 a v) s f := by
  have hanswer := answer_write hr ho v
  rw [hf] at hanswer
  rw [ha]
  exact (run_write32 ..).trans hanswer

lemma sets_start (hr : s.isRouted = false) : Sets onBus.start s fun c => { c with
    mappedControl := 3
    mappedPriorityMask := 0xff
    mappedBinaryPoint := 2
    mappedBinaryPoint1 := 3 } := by
  have h : Sets onBus.start s _ :=
    .bind (sets_write (by exact hr) (o := 0x0) rfl (by decide) rfl) <|
    .bind (sets_write (by exact hr) (o := 0x4) rfl (by decide) rfl) <|
    .bind (sets_write (by exact hr) (o := 0x8) rfl (by decide) rfl) <|
    .bind (sets_write (by exact hr) (o := 0x1c) rfl (by decide) rfl) <|
    sets_write (by exact hr) (o := 0x0) rfl (by decide) rfl
  exact h

lemma sets_setTwoStep (hr : s.isRouted = false) (hc : s.current < s.cores.size) (twoStep : Bool) :
    Sets (onBus.setTwoStep twoStep) s fun c => { c with
      mappedControl := CpuControl.twoStep.set c.mappedControl (if twoStep then 1 else 0) &&& 0x21f } := by
  have hcore := Array.getElem?_eq_getElem hc
  have hread := answer_read hr hcore (o := 0x0) (by decide)
  have hwrite : Sets (write32 onBus.controlAddress
      (CpuControl.twoStep.set s.cores[s.current].mappedControl (if twoStep then 1 else 0))) s _ :=
    sets_write hr (o := 0x0) rfl (by decide) rfl
  have h : Sets (onBus.setTwoStep twoStep) s _ :=
    (run_bind_ok ((run_read32 ..).trans hread)).trans hwrite
  exact h.congr hcore rfl

end CpuInterface

/-- All that the start of a core leaves. -/
lemma Driver.run_startCore (hs : s.Sound o) (ho : o.isRouted = false)
    (hc : s.cores[s.current]? = some c) (lines : Nat) (twoStep : Bool) :
    ∃ t, (Driver.startCore ⟨⟨Region.distributor.base⟩, ⟨Region.interface.base⟩, lines, true⟩ twoStep).run
        Board.answer (.controller s) = (.ok (.ok ()), .controller t)
      ∧ State.Renews o (o.Private s.current) (s.modifyCurrent (Core.started o.isRouted twoStep)) t := by
  obtain rfl := hs.options
  obtain ⟨t, hrun, ht⟩ := Distributor.run_resetPrivate (s := s) ho hc
  have hr : t.isRouted = false := (State.isRouted_of_bare ht.bare).trans ho
  have hcurrent : t.current = s.current := State.current_of_bare ht.bare
  have hlt : t.current < t.cores.size := by
    rw [hcurrent, State.size_of_bare ht.bare]
    exact (Array.getElem?_eq_some_iff.mp hc).1
  have hmode : CpuControl.twoStep.set 3 (if twoStep then 1 else 0) &&& 0x21f
      = if twoStep then 0x203 else 3 := by cases twoStep <;> decide
  have hinterface : Sets (do
      CpuInterface.onBus.start
      CpuInterface.onBus.setTwoStep twoStep) t (Core.started s.options.isRouted twoStep) := by
    have h := (CpuInterface.sets_start hr).bind (CpuInterface.sets_setTwoStep (by exact hr)
      (by rwa [State.modifyCurrent, State.size_modifyCore]) twoStep)
    refine h.congr (Array.getElem?_eq_getElem hlt) ?_
    rw [ho]
    exact congrArg (fun v => { Core.started false twoStep _ with mappedControl := v }) hmode
  refine ⟨t.modifyCurrent (Core.started s.options.isRouted twoStep), ?_, ?_⟩
  · refine (run_bind_ok hrun).trans ?_
    exact hinterface.run_bind.trans ((run_bind_ok (run_notify ..)).trans (run_pure ..))
  · show State.Renews _ _ _ (t.modifyCore t.current _)
    rw [hcurrent]
    exact ht.modifyCore s.current (Core.apart_started s.options.isRouted twoStep)

end Banked

/-! ### A core of a routed controller -/

namespace Hardware

/-- Nothing keeps the core from being started: every write completes, it wakes up, and it has the
affinity that it came up with. -/
structure Core.Ready (o : Options) (i : Nat) (c : Core) : Prop where
  writes : c.writeStuck = false
  wakes : c.wakerStuck = false
  affinity : c.affinityRegister = o.affinityRegister i

/-- No two cores come up with the same affinity. -/
def Options.Distinct (o : Options) : Prop := ∀ i j, i < o.cpus → j < o.cpus →
  packAffinity (o.affinityRegister i) = packAffinity (o.affinityRegister j) → i = j

lemma Options.distinct_routed : Options.routed.Distinct := by
  have hall : ∀ i < 4, ∀ j < 4, packAffinity (Options.routed.affinityRegister i)
      = packAffinity (Options.routed.affinityRegister j) → i = j := by decide +kernel
  exact fun i j hi hj => hall i hi j hj

end Hardware

namespace Routed

variable {o : Options} {s : State} {c : Core} {cpu : Nat}

namespace Redistributor

/-- The redistributor of a core where it is on the bus. -/
abbrev onBus (o : Options) (cpu : Nat) : Redistributor := ⟨Region.redistributors.base + cpu * o.stride⟩

lemma run_isAwake (h : Bank.OnBus s cpu c) (hawake : c.asleep = false) (hwakes : c.wakerStuck = false) :
    (onBus s.options cpu).isAwake.run Board.answer (.controller s) = (.ok true, .controller s) := by
  have hread := Bank.answer_core h (o := 0x14) .word (by omega)
  have hzero : State.readWaker c = 0 := by
    rw [State.readWaker, hawake, hwakes]
    rfl
  have hframe : s.readCoreFrame cpu c 0x14 .word = 0 := by
    simp [State.readCoreFrame, hzero]
  rw [hframe] at hread
  exact (run_bind_ok ((run_read32 ..).trans hread)).trans (run_pure ..)

/-- Clearing the bit in the register wakes the core up, whether or not that shows. -/
lemma answer_writeWaker (h : Bank.OnBus s cpu c) (v : BitVec 32) :
    Board.answer (.controller s)
        (.write .word (onBus s.options cpu).wakerAddress (Waker.processorSleep.clear v))
      = (.ok (), .controller (s.modifyCore cpu Core.woken)) := by
  have hclear : (Waker.processorSleep.clear v).getLsbD 1 = false := by
    rw [BitField.getLsbD_clear]
    rfl
  have hwrite := Bank.answer_writeCore h (o := 0x14) .word (by omega) (Waker.processorSleep.clear v)
  have hstep : s.writeCoreFrame cpu 0x14 ((Waker.processorSleep.clear v).setWidth 32)
      = s.modifyCore cpu Core.woken := by
    rw [State.writeCoreFrame, if_neg (by decide), if_pos rfl, BitVec.setWidth_eq, hclear]
    rfl
  rwa [hstep] at hwrite

/-- A core that was woken up is where it was. -/
lemma onBus_woken (h : Bank.OnBus s cpu c) : Bank.OnBus (s.modifyCore cpu Core.woken) cpu c.woken := by
  refine ⟨h.routed, ?_, h.built, h.reached⟩
  rw [State.getElem?_modifyCore, if_pos rfl, h.core, Option.map_some]

lemma run_wake (h : Bank.OnBus s cpu c) (hwakes : c.wakerStuck = false) :
    (onBus s.options cpu).wake.run Board.answer (.controller s)
      = (.ok (.ok ()), .controller (s.modifyCore cpu Core.woken)) := by
  have hread := Bank.answer_core h (o := 0x14) .word (by omega)
  have hpoll := run_isAwake (onBus_woken h) rfl hwakes
  refine (run_bind_ok ((run_read32 ..).trans hread)).trans ?_
  refine (run_bind_ok ((run_write32 ..).trans (answer_writeWaker h _))).trans ?_
  exact (run_bind_ok (run_retry (by decide) hpoll)).trans (run_pure ..)

lemma run_settle (h : Bank.OnBus s cpu c) (hwrites : c.writeStuck = false)
    (hsettles : c.redistributorControl.getLsbD 3 = false) :
    (onBus s.options cpu).settle.run Board.answer (.controller s) = (.ok (.ok ()), .controller s) := by
  have hread := Bank.answer_core h (o := 0x0) .word (by omega)
  have hframe : s.readCoreFrame cpu c 0x0 .word = c.redistributorControl.setWidth 64 := by
    rw [State.readCoreFrame, if_pos rfl, hwrites, if_neg Bool.false_ne_true]
    exact BitVec.or_zero
  have hpoll : (onBus s.options cpu).isSettled.run Board.answer (.controller s)
      = (.ok true, .controller s) := by
    refine (run_bind_ok ((run_read32 ..).trans hread)).trans ?_
    rw [run_pure, RedistributorControl.writePending, BitField.isSet_bit, hframe, BitVec.getLsbD_setWidth,
      BitVec.getLsbD_setWidth, hsettles]
    rfl
  exact (run_bind_ok (run_retry (by decide) hpoll)).trans (run_pure ..)

lemma run_resetPrivate (h : Bank.OnBus s cpu c) (hfit : s.options.Fits) :
    ∃ t, ((onBus s.options cpu).resetPrivate Priority.default).run Board.answer (.controller s)
        = (.ok (), .controller t)
      ∧ State.Renews s.options (s.options.Private cpu) s t := by
  have h96 := Bank.privateCount_le s.options
  have hcount := State.privateCount_ofWord c hfit h.built h.routed
  set bound := BitVec.ofNat 32 s.options.privateCount with hb
  have hbound : bound.toNat = s.options.privateCount := by
    rw [hb, BitVec.toNat_ofNat]
    exact Nat.mod_eq_of_lt (by omega)
  have hsize : 0 + min s.options.privateCount 96 ≤ (Bank.redistributor s cpu).size := by
    show _ ≤ 96
    omega
  have hbits : (Bank.redistributor s cpu).layout.bitWords = 3 := rfl
  have hkept := Bank.kept_redistributor h
  obtain ⟨t1, hrun1, h1⟩ := hkept.clear_groups (fun _ => rfl) bound
  obtain ⟨t2, hrun2, h2⟩ := (hkept.of_bare h1.bare).fill_priorities Priority.default hsize
  rw [hbits, hbound] at h1
  have hcovers {hi : Nat} (hhi : s.options.privateCount ≤ hi) (p : Place) :
      (Bank.redistributor s cpu).Covers 0 hi p ↔ s.options.Private cpu p :=
    Bank.covers_redistributor h.routed h.core hhi
  have hwords : s.options.privateCount ≤ min ((s.options.privateCount + 31) / 32) 3 * 32 := by
    omega
  have hall := (h1.congr (hcovers hwords)).trans (h2.congr (hcovers (by omega)))
  refine ⟨t2, ?_, .of_changes hall fun p hp => funext fun q => ?_⟩
  · refine (run_bind_ok (Keeper.run_info h)).trans ?_
    rw [hcount]
    exact (hrun1 _).trans hrun2
  · rw [Options.renew, hp.isShared, show s.options.isRouted = true from h.routed]
    rfl

/-- Its registers are as they were, and where they were. -/
lemma resetPrivate_onBus (h : Bank.OnBus s cpu c) (hfit : s.options.Fits) :
    ∃ t c', ((onBus s.options cpu).resetPrivate Priority.default).run Board.answer (.controller s)
        = (.ok (), .controller t)
      ∧ State.Renews s.options (s.options.Private cpu) s t ∧ Bank.OnBus t cpu c'
      ∧ c'.writeStuck = c.writeStuck ∧ c'.redistributorControl = c.redistributorControl := by
  obtain ⟨t, hrun, ht⟩ := run_resetPrivate h hfit
  obtain ⟨c', hc', he⟩ := State.exists_core_of_bare ht.bare.symm h.core
  have hoptions : t.options = s.options := State.options_of_bare ht.bare
  exact ⟨t, c', hrun, ht, ⟨(State.isRouted_of_bare ht.bare).trans h.routed, hc', hoptions ▸ h.built,
    hoptions ▸ h.reached⟩, (congrArg Core.writeStuck he :).symm,
    (congrArg Core.redistributorControl he :).symm⟩

end Redistributor

namespace CpuInterface

lemma sets_barrier (s : State) : Sets barrier s fun c => c := by
  refine (run_barrier ..).trans ?_
  rw [State.modifyCurrent, State.modifyCore_id]
  rfl

variable (hc : s.current < s.cores.size)
include hc

lemma sets_writeSystem {r : SystemRegister} {v : BitVec 64} {f : Core → Core}
    (hf : s.cores[s.current]? = some s.cores[s.current] → s.writeSystem r v = .ok (s.modifyCurrent f)) :
    Sets (writeSystem r v) s f := by
  refine ((run_writeSystem ..).trans (Board.answer_writeSystem r v)).trans ?_
  rw [hf (Array.getElem?_eq_getElem hc)]

lemma answer_readSystem {r : SystemRegister} (hr : r ≠ .acknowledge1) :
    Board.answer (.controller s) (.readSystem r)
      = (.ok (s.systemWord s.current s.cores[s.current] r), .controller s) := by
  rw [Board.answer_readSystem]
  simp only [State.readSystem, Array.getElem?_eq_getElem hc, if_neg hr]

lemma sets_enableRegisters : Sets enableRegisters s fun c => { c with systemEnable := 7 } := by
  have hseven (v : BitVec 64) : (v ||| SystemEnable.registers.mask ||| SystemEnable.disableFastBypass.mask
      ||| SystemEnable.disableBypass.mask) &&& 7 = 7 := by
    have hmask : SystemEnable.registers.mask ||| (SystemEnable.disableFastBypass.mask
        ||| SystemEnable.disableBypass.mask) = (7 : BitVec 64) := by decide
    rw [BitVec.or_assoc, BitVec.or_assoc, hmask]
    refine BitVec.eq_of_getLsbD_eq fun i _ => ?_
    rw [BitVec.getLsbD_and, BitVec.getLsbD_or]
    cases (7 : BitVec 64).getLsbD i <;> simp
  have hread := (run_readSystem ..).trans (answer_readSystem hc (r := .systemEnable) (by decide))
  have hwrite (v : BitVec 64) : Sets (do
      writeSystem .systemEnable (v ||| SystemEnable.registers.mask
        ||| SystemEnable.disableFastBypass.mask ||| SystemEnable.disableBypass.mask)
      barrier) s _ :=
    .bind (sets_writeSystem hc fun h => by simp only [State.writeSystem, h]; rfl) (sets_barrier _)
  have h : Sets enableRegisters s _ := (run_bind_ok hread).trans (hwrite _)
  refine h.congr (Array.getElem?_eq_getElem hc) ?_
  exact congrArg (fun v => { s.cores[s.current] with systemEnable := v }) (hseven _)

lemma sets_setTwoStep (twoStep : Bool) : Sets (setTwoStep twoStep) s fun c => { c with
    control := CpuControl.twoStep.set c.control (if twoStep then 1 else 0) &&& 3 } := by
  have hread := (run_readSystem ..).trans (answer_readSystem hc (r := .control) (by decide))
  have hwrite (v : BitVec 64) : Sets (do
      writeSystem .control (CpuControl.twoStep.set v (if twoStep then 1 else 0))
      barrier) s _ :=
    .bind (sets_writeSystem hc fun h => by simp only [State.writeSystem, h]; rfl) (sets_barrier _)
  have h : Sets (setTwoStep twoStep) s _ := (run_bind_ok hread).trans (hwrite _)
  exact h.congr (Array.getElem?_eq_getElem hc) rfl

lemma sets_startInterface (twoStep : Bool) :
    Sets (Driver.startInterface twoStep) s (Core.opened twoStep) := by
  have hlt {t : State} (f : Core → Core) (ht : t.current < t.cores.size) :
      (t.modifyCurrent f).current < (t.modifyCurrent f).cores.size := by
    rwa [State.modifyCurrent, State.size_modifyCore]
  have h : Sets (Driver.startInterface twoStep) s _ :=
    .bind (sets_enableRegisters hc) <|
    .bind (sets_writeSystem (by exact hlt _ hc) fun h => by simp only [State.writeSystem, h]; rfl) <|
    .bind (.bind (sets_writeSystem (by exact hlt _ (hlt _ hc)) fun h => by
      simp only [State.writeSystem, h]; rfl) (sets_barrier _)) <|
    sets_setTwoStep (by exact hlt _ (hlt _ (hlt _ hc))) twoStep
  exact h

end CpuInterface

/-! ### A core and the redistributor that is found for it -/

lemma Driver.run_startRedistributor (h : Bank.OnBus s cpu c) (hfit : s.options.Fits)
    (hm : s.Masked) (hwakes : c.wakerStuck = false) (hwrites : c.writeStuck = false) :
    ∃ t, (startRedistributor (Redistributor.onBus s.options cpu)).run Board.answer (.controller s)
        = (.ok (), .controller t)
      ∧ State.Renews s.options (s.options.Private cpu) (s.modifyCore cpu Core.woken) t := by
  obtain ⟨t, c', hreset, ht, hon, hstuck, hcontrol⟩ :=
    Redistributor.resetPrivate_onBus (Redistributor.onBus_woken h) hfit
  have hcore : c.redistributorControl.getLsbD 3 = false := hm.core h.core
  have hsettle := Redistributor.run_settle hon (hstuck.trans hwrites) (hcontrol ▸ hcore)
  have hoptions : t.options = s.options := (State.options_of_bare ht.bare).trans rfl
  rw [hoptions] at hsettle
  refine ⟨t, ?_, ht⟩
  refine (run_bind_ok (Redistributor.run_wake h hwakes)).trans ?_
  refine (run_bind_ok (run_pure ..)).trans ?_
  refine (run_bind_ok (run_notify ..)).trans ?_
  refine (run_bind_ok hreset).trans ?_
  exact (run_bind_ok hsettle).trans rfl

/-- The redistributor that is found for the current core may be that of another one. -/
lemma Driver.run_startHome (hs : s.Sound o) (hfit : o.Fits) (ho : o.isRouted = true)
    (hm : s.Masked) (hreported : s.Reported) (hc : s.cores[s.home]? = some c)
    (hwakes : c.wakerStuck = false) (hwrites : c.writeStuck = false) (security : SecurityState)
    (twoStep : Bool) :
    ∃ t, (Driver.startCore ⟨⟨Region.distributor.base, security⟩, Region.redistributors.base, o.stride,
          true⟩ twoStep).run Board.answer (.controller s) = (.ok (.ok ()), .controller t)
      ∧ State.Renews o (o.Private s.home)
          ((s.modifyCore s.home Core.woken).modifyCurrent (Core.opened twoStep)) t := by
  have ⟨here, hhere, _⟩ := hreported
  have hfound := Driver.run_currentRedistributor (d := ⟨⟨Region.distributor.base, security⟩,
    Region.redistributors.base, o.stride, true⟩) hs hfit ho rfl rfl hreported hhere
  obtain rfl := hs.options
  obtain ⟨c₀, hon⟩ := Keeper.onBus hs hfit ho (hs.size ▸ (Array.getElem?_eq_some_iff.mp hc).1)
  obtain rfl : c₀ = c := Option.some.inj (hon.core.symm.trans hc)
  obtain ⟨t, hrun, ht⟩ := Driver.run_startRedistributor hon hfit hm hwakes hwrites
  have hcurrent : t.current = s.current := (State.current_of_bare ht.bare).trans rfl
  have hlt : t.current < t.cores.size := by
    rw [hcurrent, State.size_of_bare ht.bare, State.size_modifyCore]
    exact (Array.getElem?_eq_some_iff.mp hhere).1
  refine ⟨t.modifyCurrent (Core.opened twoStep), ?_, ?_⟩
  · refine (run_bind_ok hfound).trans ?_
    refine (run_bind_ok hrun).trans ?_
    exact (run_bind_ok (CpuInterface.sets_startInterface hlt twoStep)).trans
      ((run_bind_ok (run_notify ..)).trans (run_pure ..))
  · show State.Renews _ _ _ (t.modifyCore t.current _)
    rw [hcurrent]
    exact ht.modifyCore s.current (Core.apart_opened twoStep)

/-- Where all affinities are different, the redistributor that is found is that of the core. -/
lemma home_eq_current (hs : s.Sound o) (ho : o.isRouted = true) (hdistinct : o.Distinct)
    (hc : s.cores[s.current]? = some c) (ha : c.affinityRegister = o.affinityRegister s.current) :
    s.Reported ∧ s.home = s.current := by
  have hreports := (hs.core s.current c hc).affinity
  have hhome : s.AtHome := by
    intro _ c' hc'
    obtain rfl := Option.some.inj (hc'.symm.trans hc)
    rw [ha, hreports]
  have hreported := hhome.reported (hs.isRouted.trans ho) hc
  obtain ⟨c', hc', haffinity, -⟩ := State.home_spec hreported hc
  have hcurrent : s.current < o.cpus := hs.size ▸ (Array.getElem?_eq_some_iff.mp hc).1
  have hlt : s.home < o.cpus := hs.size ▸ (Array.getElem?_eq_some_iff.mp hc').1
  refine ⟨hreported, hdistinct _ _ hlt hcurrent ?_⟩
  rw [← (hs.core s.home c' hc').affinity, haffinity, ha]

/-- All that the start of a core leaves if its own redistributor is found. -/
lemma Driver.run_startCore (hs : s.Sound o) (hfit : o.Fits) (ho : o.isRouted = true)
    (hm : s.Masked) (hhome : s.home = s.current) (hc : s.cores[s.current]? = some c)
    (hwakes : c.wakerStuck = false) (hwrites : c.writeStuck = false) (security : SecurityState)
    (twoStep : Bool) :
    ∃ t, (Driver.startCore ⟨⟨Region.distributor.base, security⟩, Region.redistributors.base, o.stride,
          true⟩ twoStep).run Board.answer (.controller s) = (.ok (.ok ()), .controller t)
      ∧ State.Renews o (o.Private s.current) (s.modifyCurrent (Core.started o.isRouted twoStep)) t := by
  have hreported := State.reported_of_home hhome hc
  obtain ⟨t, hrun, ht⟩ := Driver.run_startHome hs hfit ho hm hreported (hhome ▸ hc) hwakes hwrites
    security twoStep
  have htwice : (s.modifyCore s.current Core.woken).modifyCurrent (Core.opened twoStep)
      = s.modifyCurrent (Core.started o.isRouted twoStep) := by
    rw [ho]
    exact State.modifyCore_modifyCore ..
  exact ⟨t, hrun, htwice ▸ hhome ▸ ht⟩

end Routed

end InterruptControl
