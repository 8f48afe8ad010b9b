import InterruptControl.Proofs.Hardware.Identity
import InterruptControl.Proofs.Hardware.Masks
import InterruptControl.Proofs.Startup.Renewal
import InterruptControl.Startup.Banked
import InterruptControl.Startup.Routed

/-!
What starting the distributor leaves: all shared interrupts renewed, and groups and routing
enabled for the security state that was found.

The tables have room for more interrupts than there are, and the loops run over whole words. A
bank covers just those that are built in.
-/

namespace InterruptControl

open Bus Hardware Program

/-- A condition that holds at once is not polled again. -/
lemma Program.run_retry {σ : Type} {d : Device σ} {s s' : σ} {p : Program Bool} {n : Nat} (hn : 0 < n)
    (h : p.run d s = (.ok true, s')) : (retry p n).run d s = (.ok (.ok ()), s') := by
  rcases n with _ | n
  · exact absurd hn (lt_irrefl 0)
  · exact (run_bind_ok h).trans (run_pure ..)

namespace Hardware

/-- The security state that the software runs in. -/
def Options.security (o : Options) : Routed.SecurityState :=
  if o.singleSecurity then .single else if o.secureAccess then .secure else .nonSecure

/-- What the distributor is set to once it is started: group 1 is enabled, in all the ways that the
security state has, and so is routing. A banked one has both of its groups enabled. -/
def Options.runningControl (o : Options) : BitVec 32 :=
  if o.isRouted then
    match o.security with
    | .single => 0x12
    | .nonSecure => 0x13
    | .secure => 0x32
  else 3

namespace State

variable {s : State} {v : BitVec 32}

/-! ### The registers of the distributor -/

lemma answer_readControl : Board.answer (.controller s) (.read .word Region.distributor.base)
    = (.ok s.readControl, .controller s) :=
  (Board.answer_read_distributor (o := 0x0) .word rfl (by omega)).trans
    (congrArg (fun v => (Except.ok v, _)) (readDistributorWord_register (by omega)))

lemma answer_writeControl : Board.answer (.controller s) (.write .word Region.distributor.base v)
    = (.ok (), .controller
        { s with control := if s.isRouted then v &&& 0x7fffffbf else v &&& 3 }) :=
  (Board.answer_write_distributor (o := 0x0) .word v rfl (by omega)).trans
    (congrArg (fun t => (Except.ok (), Board.controller t))
      (writeDistributorWord_register (by omega) v))

lemma run_writeControl : (write32 Region.distributor.base v).run Board.answer (.controller s)
    = (.ok (), .controller
        { s with control := if s.isRouted then v &&& 0x7fffffbf else v &&& 3 }) :=
  (run_write32 ..).trans answer_writeControl

/-- The bound of the loops over the tables. -/
lemma toNat_sharedLimit (o : Options) : (BitVec.ofNat 32 o.sharedLimit).toNat = o.sharedLimit := by
  have h1020 := sharedLimit_le o
  rw [BitVec.toNat_ofNat]
  exact Nat.mod_eq_of_lt (by omega)

lemma answer_readProbe : Board.answer (.controller s) (.read .word (Region.distributor.base + 0xe00))
    = (.ok (s.accessControl[0]?.getD 0), .controller s) := by
  have hword : s.readDistributorWord 0xe00 = s.accessControl[0]?.getD 0 := by
    rw [readDistributorWord, findTable?_register_eq_none (by omega)]
    simp only
    rw [if_neg (by omega), if_neg (by omega), if_pos (by omega), Nat.sub_self, Nat.zero_div]
  exact (Board.answer_read_distributor (o := 0xe00) .word rfl (by omega)).trans
    (congrArg (fun v => (Except.ok v, _)) hword)

/-- Only the secure state changes it. -/
lemma writeDistributorWord_probe (hr : s.isRouted = true) : s.writeDistributorWord 0xe00 v
    = if s.options.secureAccess then { s with accessControl := s.accessControl.setIfInBounds 0 v }
      else s := by
  rw [writeDistributorWord, findTable?_register_eq_none (by omega)]
  simp only
  rw [if_neg (by omega), if_neg (by omega), if_pos (by omega), hr, Nat.sub_self, Nat.zero_div]
  rcases s.options.secureAccess with _ | _ <;> rfl

lemma answer_writeProbe (hr : s.isRouted = true) (hsecure : s.options.secureAccess = true) :
    Board.answer (.controller s) (.write .word (Region.distributor.base + 0xe00) v)
      = (.ok (), .controller { s with accessControl := s.accessControl.setIfInBounds 0 v }) := by
  refine (Board.answer_write_distributor (o := 0xe00) .word v rfl (by omega)).trans ?_
  rw [writeDistributor, writeDistributorWord_probe hr, if_pos hsecure]

lemma answer_writeProbe_refused (hr : s.isRouted = true) (hsecure : s.options.secureAccess = false) :
    Board.answer (.controller s) (.write .word (Region.distributor.base + 0xe00) v)
      = (.ok (), .controller s) := by
  refine (Board.answer_write_distributor (o := 0xe00) .word v rfl (by omega)).trans ?_
  rw [writeDistributor, writeDistributorWord_probe hr, hsecure, if_neg Bool.false_ne_true]

end State

end Hardware

/-! ### A banked distributor -/

namespace Banked.Driver

variable {o : Options} {s : State} {c : Core}

/-- All the tables of a distributor that is switched off meanwhile. -/
lemma run_tables (hfit : s.options.Fits) (hr : s.isRouted = false)
    (hc : s.cores[s.current]? = some c) {bound : BitVec 32}
    (hbound : bound.toNat = s.options.sharedLimit) : ∃ t u,
    (∀ {α : Type} (k : Unit → Program α),
      ((Distributor.clearAll ⟨Region.distributor.base⟩ .enabled bound >>= fun _ =>
        Distributor.clearAll ⟨Region.distributor.base⟩ .pending bound >>= fun _ =>
        Distributor.clearAll ⟨Region.distributor.base⟩ .active bound >>= k).run Board.answer
          (.controller s) = (k ()).run Board.answer (.controller t)))
      ∧ (∀ {α : Type} (k : Unit → Program α),
        ((Distributor.setGroup1All ⟨Region.distributor.base⟩ bound >>= fun _ =>
          Distributor.setPriorityAll ⟨Region.distributor.base⟩ bound Priority.default >>= fun _ =>
          Distributor.setTargetsAll ⟨Region.distributor.base⟩ bound ⟨1⟩ >>= fun _ =>
          Distributor.setLevelAll ⟨Region.distributor.base⟩ bound >>= k).run Board.answer
            (.controller t) = (k ()).run Board.answer (.controller u)))
      ∧ State.Renews s.options (fun p => s.options.Spi p ∨ s.options.Private s.current p) s u := by
  have h1020 := State.sharedLimit_le s.options
  have h32 := State.sharedLimit_ge hfit
  have hmin : min bound.toNat idLimit = s.options.sharedLimit := by
    rw [hbound, idLimit]
    exact Nat.min_eq_left h1020
  have hsize : 0 + min bound.toNat idLimit ≤ (Bank.distributor s).size := by
    rw [hmin, Nat.zero_add]
    exact h1020
  have hfixed : (Bank.distributor s).fixed ≤ 2 := Nat.le_succ 1
  have hwords : (Bank.distributor s).layout.triggerWords < 0x100000000 := show 64 < 0x100000000 by decide
  have hkept : (Bank.distributor s).Kept s := Bank.kept_distributor s
  obtain ⟨t1, hrun1, h1⟩ := hkept.clear_flags bound
  obtain ⟨t2, hrun2, h2⟩ := (hkept.of_bare h1.bare).fill_plain (a := .group1) (Bool.or_true _) true
    bound
  have hbare2 := h2.bare.trans h1.bare
  obtain ⟨t3, hrun3, h3⟩ := (hkept.of_bare hbare2).fill_priorities Priority.default hsize
  have hbare3 := h3.bare.trans hbare2
  obtain ⟨t4, hrun4, h4⟩ := Bank.fill_targets hbare3 hr 1 le_rfl
    (show 32 + (min bound.toNat idLimit - 32) ≤ 1020 by omega)
  obtain ⟨t5, hrun5, h5⟩ := (hkept.of_bare (h4.bare.trans hbare3)).fill_level hfixed
    bound (by omega) hwords
  refine ⟨t1, t5, hrun1, fun k => ?_, ?_⟩
  · exact (run_bind_ok hrun2).trans ((run_bind_ok hrun3).trans
      ((run_bind_ok hrun4).trans (run_bind_ok hrun5)))
  have hbits : (Bank.distributor s).layout.bitWords = 32 := rfl
  have htriggers : (Bank.distributor s).layout.triggerWords = 64 := rfl
  rw [hbits] at h1 h2
  rw [htriggers] at h5
  rw [hmin] at h3 h4
  rw [hbound] at h1 h2 h5
  have hall := ((h1.trans h2).congr fun p =>
      Bank.covers_banked hc (by omega) (by omega) (by omega) hr).trans
    (h3.congr fun p => Bank.covers_banked hc (by omega) (by omega) (by omega) hr)
  have hspis := (h4.congr fun p =>
      Bank.covers_spi hc (by omega) (by omega) (by omega) le_rfl (.inr rfl)).trans
    (h5.congr fun p => Bank.covers_spi hc (by omega) (by omega) (by omega) le_rfl (.inr rfl))
  refine ⟨hspis.bare.trans hall.bare, fun {p} hp => ?_, fun {p} hp => ?_⟩
  · by_cases hspi : s.options.Spi p
    · rw [hspis.on hspi, hall.on hp, Option.map_map]
      refine congrArg (Option.map · _) (funext fun q => ?_)
      rw [Options.renew, hspi.isShared, show s.options.isRouted = false from hr]
      rfl
    · -- private interrupts keep their targets and triggers
      rw [hspis.off hspi, hall.on hp]
      refine congrArg (Option.map · _) (funext fun q => ?_)
      rw [Options.renew, (hp.resolve_left hspi).isShared, show s.options.isRouted = false from hr]
      rfl
  · rw [hspis.off fun h => hp (.inl h), hall.off hp]

/-- The private interrupts of the core that starts it are renewed along with the shared ones. -/
lemma run_startDistributor (hs : s.Sound o) (hfit : o.Fits) (ho : o.isRouted = false)
    (hc : s.cores[s.current]? = some c) :
    ∃ t, (startDistributor ⟨Region.distributor.base⟩).run Board.answer (.controller s)
        = (.ok o.sharedLimit, .controller t)
      ∧ State.Renews o (fun p => o.Spi p ∨ o.Private s.current p)
          { s with control := o.runningControl } t := by
  obtain rfl := hs.options
  have hbound := State.toNat_sharedLimit s.options
  have hcontrol (t : State) (ht : t.isRouted = false) {v w : BitVec 32} (hv : v &&& 3 = w) :
      (write32 Region.distributor.base v).run Board.answer (.controller t)
        = (.ok (), .controller { t with control := w }) := by
    rw [State.run_writeControl, ht, if_neg Bool.false_ne_true, hv]
  have htype {α : Type} (t : State) (f : BitVec 32 → α) :
      (read32 (Region.distributor.base + 0x4) >>= fun v => pure (f v)).run Board.answer (.controller t)
        = (.ok (f t.options.typeWord), .controller t) :=
    (run_bind_ok ((run_read32 ..).trans (State.answer_readType _))).trans (run_pure ..)
  have hlines : (Distributor.lines ⟨Region.distributor.base⟩).run Board.answer
      (.controller { s with control := 0 })
        = (.ok s.options.sharedLimit, .controller { s with control := 0 }) :=
    (htype ..).trans (congrArg (fun n => (Except.ok n, _)) (Options.linesOf_typeWord hfit))
  obtain ⟨t, u, hrun, hrun', hrenews⟩ :=
    run_tables (s := { s with control := 0 }) hfit ho hc hbound
  have hu : u.isRouted = false := (State.isRouted_of_bare hrenews.bare).trans ho
  have hrunning : s.options.runningControl = 3 := by
    rw [Options.runningControl, ho, if_neg Bool.false_ne_true]
  refine ⟨{ u with control := 3 }, ?_, hrunning ▸ hrenews.setControl 3⟩
  refine (run_bind_ok (hcontrol s ho (w := 0) (by decide))).trans ?_
  refine (run_bind_ok hlines).trans ?_
  refine (run_bind_ok (htype ..)).trans ?_
  refine (run_bind_ok (run_notify ..)).trans ?_
  refine (hrun _).trans ?_
  refine (run_bind_ok (run_notify ..)).trans ?_
  refine (hrun' _).trans ?_
  refine (run_bind_ok (run_notify ..)).trans ?_
  refine (run_bind_ok (hcontrol u hu (w := 3) (by decide))).trans ?_
  exact (run_bind_ok (run_notify ..)).trans (run_pure ..)

lemma run_start (hs : s.Sound o) (hfit : o.Fits) (ho : o.isRouted = false)
    (hc : s.cores[s.current]? = some c) (lines : Nat) :
    ∃ t, (Driver.start ⟨⟨Region.distributor.base⟩, ⟨Region.interface.base⟩, lines, false⟩).run
        Board.answer (.controller s)
        = (.ok (.ok ⟨⟨Region.distributor.base⟩, ⟨Region.interface.base⟩, o.sharedLimit, true⟩),
          .controller t)
      ∧ State.Renews o (fun p => o.Spi p ∨ o.Private s.current p)
          { s with control := o.runningControl } t := by
  obtain ⟨t, hrun, ht⟩ := run_startDistributor hs hfit ho hc
  exact ⟨t, (run_bind_ok hrun).trans (run_pure ..), ht⟩

end Banked.Driver

/-! ### A routed distributor -/

namespace Routed.Driver

variable {o : Options} {s : State} {c : Core} {security : SecurityState}

/-- Reading the control register tells which security states there are, and writing to one that
only the secure state reaches tells which of them the software is in. -/
lemma run_detectSecurity (hs : s.Sound o) (ho : o.isRouted = true) (hm : s.Masked) :
    (Distributor.detectSecurity ⟨Region.distributor.base, security⟩).run Board.answer (.controller s)
      = (.ok o.security, .controller s) := by
  obtain rfl := hs.options
  have hr : s.isRouted = true := ho
  have hsingle : DistributorControl.disableSecurity.isSet s.readControl = s.options.singleSecurity := by
    rw [DistributorControl.disableSecurity, BitField.isSet_bit, State.readControl, hr,
      BitVec.getLsbD_or, BitVec.getLsbD_or, hm.control hr]
    rcases s.writeStuck with _ | _ <;> rcases s.options.singleSecurity with _ | _ <;> decide
  refine (run_bind_ok ((run_read32 ..).trans State.answer_readControl)).trans ?_
  rw [hsingle, Options.security]
  by_cases hone : s.options.singleSecurity = true
  · rw [if_pos hone, if_pos hone]
    rfl
  rw [if_neg hone, if_neg hone]
  refine (run_bind_ok ((run_read32 ..).trans State.answer_readProbe)).trans ?_
  by_cases hsecure : s.options.secureAccess = true
  · -- the old value is put back
    obtain ⟨s1, hs1⟩ : ∃ s1 : State, s1 = { s with
      accessControl := s.accessControl.setIfInBounds 0 Distributor.probeValue } := ⟨_, rfl⟩
    have hr1 : s1.isRouted = true := hs1 ▸ hr
    have hsecure1 : s1.options.secureAccess = true := hs1 ▸ hsecure
    have hseen : s1.accessControl[0]?.getD 0 = Distributor.probeValue := by simp [hs1]
    obtain ⟨x, hx⟩ : ∃ x, x = s.accessControl[0]?.getD 0 := ⟨_, rfl⟩
    have hold : s1.accessControl.setIfInBounds 0 x = s.accessControl := by
      ext i hi
      rcases i with _ | i <;> simp [hs1, hx]
    have hback : { s1 with accessControl := s1.accessControl.setIfInBounds 0 x } = s := by
      rw [hold, hs1]
    have hprobe := State.answer_writeProbe (v := Distributor.probeValue) hr hsecure
    rw [← hs1] at hprobe
    rw [if_pos hsecure]
    refine (run_bind_ok ((run_write32 ..).trans hprobe)).trans ?_
    refine (run_bind_ok ((run_read32 ..).trans State.answer_readProbe)).trans ?_
    refine (run_bind_ok ((run_write32 ..).trans (State.answer_writeProbe hr1 hsecure1))).trans ?_
    rw [← hx, hback, if_pos hseen, run_pure]
  · have hrefused : s.options.secureAccess = false := Bool.eq_false_iff.mpr hsecure
    have hzero : s.accessControl[0]?.getD 0 ≠ Distributor.probeValue := by
      simp only [Nat.zero_lt_succ, Vector.getElem?_eq_getElem, hm.probe hr hrefused]
      decide
    rw [if_neg hsecure]
    refine (run_bind_ok ((run_write32 ..).trans (State.answer_writeProbe_refused hr hrefused))).trans ?_
    refine (run_bind_ok ((run_read32 ..).trans State.answer_readProbe)).trans ?_
    refine (run_bind_ok ((run_write32 ..).trans (State.answer_writeProbe_refused hr hrefused))).trans ?_
    rw [if_neg hzero, run_pure]

lemma run_settle (hstuck : s.writeStuck = false) (hcontrol : s.control.getLsbD 31 = false) :
    (awaitDistributor ⟨Region.distributor.base, security⟩).run Board.answer (.controller s)
      = (.ok (), .controller s) := by
  have hclear : s.readControl.getLsbD 31 = false := by
    rw [State.readControl, hstuck, BitVec.getLsbD_or, BitVec.getLsbD_or, hcontrol]
    rcases (s.isRouted && s.options.singleSecurity) with _ | _ <;> decide
  have hpoll : (Distributor.isSettled ⟨Region.distributor.base, security⟩).run Board.answer
      (.controller s) = (.ok true, .controller s) := by
    refine (run_bind_ok ((run_read32 ..).trans State.answer_readControl)).trans ?_
    rw [run_pure, DistributorControl.writePending, BitField.isSet_bit, hclear]
    rfl
  have hsettle : (Distributor.settle ⟨Region.distributor.base, security⟩).run Board.answer
      (.controller s) = (.ok (.ok ()), .controller s) :=
    (run_bind_ok (run_retry (by decide) hpoll)).trans (run_pure ..)
  exact (run_bind_ok hsettle).trans rfl

/-- All the tables of the SPIs. -/
lemma run_tables (security : SecurityState) (hfit : s.options.Fits) (hr : s.isRouted = true)
    (hc : s.cores[s.current]? = some c) {bound : BitVec 32}
    (hbound : bound.toNat = s.options.sharedLimit) : ∃ t,
    (∀ {α : Type} (k : Unit → Program α),
      ((Distributor.clearAll ⟨Region.distributor.base, security⟩ .enabled bound >>= fun _ =>
        Distributor.clearAll ⟨Region.distributor.base, security⟩ .pending bound >>= fun _ =>
        Distributor.clearAll ⟨Region.distributor.base, security⟩ .active bound >>= fun _ =>
        Distributor.setGroup1All ⟨Region.distributor.base, security⟩ bound >>= fun _ =>
        Distributor.clearModifierAll ⟨Region.distributor.base, security⟩ bound >>= fun _ =>
        Distributor.setPriorityAll ⟨Region.distributor.base, security⟩ bound Priority.default
          >>= fun _ =>
        Distributor.setLevelAll ⟨Region.distributor.base, security⟩ bound >>= k).run Board.answer
          (.controller s) = (k ()).run Board.answer (.controller t)))
      ∧ State.Renews s.options s.options.Spi s t := by
  have h1020 := State.sharedLimit_le s.options
  have h32 := State.sharedLimit_ge hfit
  have hmin : min bound.toNat Routed.idLimit = s.options.sharedLimit := by
    rw [hbound, Routed.idLimit]
    exact Nat.min_eq_left h1020
  have hsize : 32 + (min bound.toNat Routed.idLimit - 32) ≤ (Bank.distributor s).size := by
    show _ ≤ 1020
    omega
  have hfixed : (Bank.distributor s).fixed ≤ 2 := Nat.le_succ 1
  have hbits : (Bank.distributor s).layout.bitWords = 32 := rfl
  have htriggers : (Bank.distributor s).layout.triggerWords = 64 := rfl
  have hoffers (a : Attribute) : (Bank.distributor s).offers a = true := by
    show (s.isRouted || a == .group1) = true
    rw [hr, Bool.true_or]
  have hkept : (Bank.distributor s).Kept s := Bank.kept_distributor s
  obtain ⟨t1, hrun1, h1⟩ := hkept.clear_groups hoffers bound
  obtain ⟨t2, hrun2, h2⟩ := (hkept.of_bare h1.bare).fill_priorities Priority.default hsize
  obtain ⟨t3, hrun3, h3⟩ := (hkept.of_bare (h2.bare.trans h1.bare)).fill_level hfixed
    bound (by omega) (by rw [htriggers]; decide)
  refine ⟨t3, fun k => (hrun1 _).trans ((run_bind_ok hrun2).trans (run_bind_ok hrun3)), ?_⟩
  rw [hbits, hbound] at h1
  rw [hmin] at h2
  rw [htriggers, hbound] at h3
  have hcovers {lo hi : Nat} (hlo : lo ≤ 32) (h : s.options.sharedLimit ≤ hi) (h' : hi ≤ 1024)
      (p : Place) : (Bank.distributor s).Covers lo hi p ↔ s.options.Spi p :=
    Bank.covers_spi hc h (h32.trans h) h' hlo (.inl hr)
  have hspis := ((h1.congr (hcovers (by omega) (by omega) (by omega))).trans
    (h2.congr (hcovers (by omega) (by omega) (by omega)))).trans
      (h3.congr (hcovers (by omega) (by omega) (by omega)))
  refine .of_changes hspis fun p hp => funext fun q => ?_
  rw [Options.renew, hp.isShared, show s.options.isRouted = true from hr]
  rfl

/-- All those of the extended SPIs, if there are any. -/
lemma run_resetExtended (security : SecurityState) (hfit : s.options.Fits) (hr : s.isRouted = true)
    (hc : s.cores[s.current]? = some c) : ∃ t,
    (Distributor.resetExtended ⟨Region.distributor.base, security⟩ Priority.default).run Board.answer
        (.controller s) = (.ok (), .controller t)
      ∧ State.Renews s.options s.options.ExtendedSpi s t := by
  have h1024 := State.extendedCount_le hfit
  have hcount := Distributor.run_extendedSpiCount hfit security
  by_cases hzero : s.options.extendedCount = 0
  · refine ⟨s, ?_, rfl, ?_, fun _ => rfl⟩
    · refine (run_bind_ok hcount).trans ?_
      rw [if_pos hzero]
      rfl
    · rintro p ⟨i, hi, -⟩
      omega
  set bound := BitVec.ofNat 32 s.options.extendedCount with hb
  have hbound : bound.toNat = s.options.extendedCount := by
    rw [hb, BitVec.toNat_ofNat]
    exact Nat.mod_eq_of_lt (by omega)
  have hsize : 0 + min s.options.extendedCount 1024 ≤ (Bank.extended s).size := by
    show _ ≤ 1024
    omega
  have hbits : (Bank.extended s).layout.bitWords = 32 := rfl
  have htriggers : (Bank.extended s).layout.triggerWords = 64 := rfl
  have hkept : (Bank.extended s).Kept s := Bank.kept_extended hr
  obtain ⟨t1, hrun1, h1⟩ := hkept.clear_groups (fun _ => rfl) bound
  obtain ⟨t2, hrun2, h2⟩ := (hkept.of_bare h1.bare).fill_level (Nat.zero_le 0) bound
    (by omega) (by rw [htriggers]; decide)
  obtain ⟨t3, hrun3, h3⟩ := (hkept.of_bare (h2.bare.trans h1.bare)).fill_priorities
    Priority.default hsize
  refine ⟨t3, ?_, ?_⟩
  · refine (run_bind_ok hcount).trans ?_
    rw [if_neg hzero]
    exact (hrun1 _).trans ((run_bind_ok hrun2).trans ((run_bind_ok hrun3).trans (run_notify ..)))
  rw [hbits, hbound] at h1
  rw [htriggers, hbound] at h2
  have hcovers {hi : Nat} (h : s.options.extendedCount ≤ hi) (h' : hi ≤ 1024) (p : Place) :
      (Bank.extended s).Covers 0 hi p ↔ s.options.ExtendedSpi p := Bank.covers_extended hc h h'
  have hextended := ((h1.congr (hcovers (by omega) (by omega))).trans
    (h2.congr (hcovers (by omega) (by omega)))).trans (h3.congr (hcovers (by omega) (by omega)))
  refine .of_changes hextended fun p hp => funext fun q => ?_
  rw [Options.renew, hp.isShared, show s.options.isRouted = true from hr]
  rfl

lemma run_lines (hfit : s.options.Fits) :
    (Distributor.lines ⟨Region.distributor.base, security⟩).run Board.answer (.controller s)
      = (.ok s.options.sharedLimit, .controller s) := by
  refine (run_bind_ok ((run_read32 ..).trans (State.answer_readType _))).trans ?_
  rw [run_pure, Options.linesOf_typeWord hfit]

variable (security) in
lemma run_disableGroups (hr : s.isRouted = true) :
    (Distributor.disableGroups ⟨Region.distributor.base, security⟩).run Board.answer (.controller s)
      = (.ok (), .controller { s with control :=
        (s.readControl &&& ~~~Distributor.groupEnables security) &&& 0x7fffffbf }) := by
  refine (run_bind_ok ((run_read32 ..).trans State.answer_readControl)).trans ?_
  refine State.run_writeControl.trans ?_
  rw [hr, if_pos rfl]

/-- Groups are enabled again, and routing, whatever they were before. -/
lemma run_startDistributor (hs : s.Sound o) (hfit : o.Fits) (ho : o.isRouted = true)
    (hstuck : s.writeStuck = false) (hc : s.cores[s.current]? = some c) :
    ∃ t, (startDistributor ⟨Region.distributor.base, o.security⟩).run Board.answer (.controller s)
        = (.ok (), .controller t)
      ∧ State.Renews o o.Shared { s with control := o.runningControl } t := by
  obtain rfl := hs.options
  have hbound := State.toNat_sharedLimit s.options
  have hcontrol (t : State) (ht : t.isRouted = true) (v : BitVec 32) :
      (write32 Region.distributor.base v).run Board.answer (.controller t)
        = (.ok (), .controller { t with control := v &&& 0x7fffffbf }) := by
    rw [State.run_writeControl, ht, if_pos rfl]
  have hpending (v : BitVec 32) : (v &&& 0x7fffffbf).getLsbD 31 = false := by
    rw [BitVec.getLsbD_and]
    exact Bool.and_false _
  have hdisable := run_disableGroups (s := s) s.options.security ho
  -- everything is off while the interrupts are changed
  obtain ⟨s0, hs0⟩ : ∃ s0 : State, s0 = { s with control :=
    (s.readControl &&& ~~~Distributor.groupEnables s.options.security) &&& 0x7fffffbf } := ⟨_, rfl⟩
  have hoptions : s0.options = s.options := hs0 ▸ rfl
  have hc0 : s0.cores[s0.current]? = some c := hs0 ▸ hc
  have hr0 : s0.isRouted = true := hs0 ▸ ho
  have hstuck0 : s0.writeStuck = false := hs0 ▸ hstuck
  have hsettled0 : s0.control.getLsbD 31 = false := hs0 ▸ hpending _
  rw [← hs0] at hdisable
  rw [← hoptions] at hbound
  obtain ⟨t, hrun, ht⟩ := run_tables s.options.security (hoptions ▸ hfit) hr0 hc0 hbound
  have htoptions : t.options = s0.options := State.options_of_bare ht.bare
  have htcurrent : t.current = s0.current := State.current_of_bare ht.bare
  obtain ⟨c', hc', -⟩ := State.exists_core_of_bare ht.bare.symm hc0
  obtain ⟨u, hrun', hu⟩ := run_resetExtended (s := t) s.options.security
    (htoptions.trans hoptions ▸ hfit) ((State.isRouted_of_bare ht.bare).trans hr0) (htcurrent ▸ hc')
  have hbare : u.bare = s0.bare := hu.bare.trans ht.bare
  have hstuck' : u.writeStuck = false := (congrArg State.writeStuck hbare :).trans hstuck0
  have hrunning : Distributor.runningControl s.options.security &&& 0x7fffffbf
      = s.options.runningControl := by
    rw [Options.runningControl, ho, if_pos rfl]
    rcases s.options.security <;> rfl
  have hrenews : State.Renews s.options s.options.Shared s0 u := by
    rw [htoptions] at hu
    exact hoptions ▸ ht.union hu
  obtain ⟨s1, hs1⟩ : ∃ s1 : State, s1 = { u with control := s.options.runningControl } := ⟨_, rfl⟩
  have henable := hcontrol u ((State.isRouted_of_bare hbare).trans hr0)
    (Distributor.runningControl s.options.security)
  have hsettled1 : s1.control.getLsbD 31 = false := by
    rw [hs1, ← hrunning]
    exact hpending _
  have hstuck1 : s1.writeStuck = false := hs1 ▸ hstuck'
  rw [hrunning, ← hs1] at henable
  refine ⟨s1, ?_, ?_⟩
  · refine (run_bind_ok (run_lines hfit)).trans ?_
    refine (run_bind_ok (run_notify ..)).trans ?_
    refine (run_bind_ok hdisable).trans ?_
    refine (run_bind_ok (run_barrier ..)).trans ?_
    refine (run_bind_ok (run_settle hstuck0 hsettled0)).trans ?_
    refine (run_bind_ok (run_notify ..)).trans ?_
    refine (hoptions ▸ hrun _).trans ?_
    refine (run_bind_ok hrun').trans ?_
    refine (run_bind_ok (run_notify ..)).trans ?_
    refine (run_bind_ok henable).trans ?_
    refine (run_bind_ok (run_barrier ..)).trans ?_
    exact run_settle hstuck1 hsettled1
  · have hcontrolled := hrenews.setControl s.options.runningControl
    rwa [hs0, ← hs1] at hcontrolled

/-- What is found out about security is kept. -/
lemma run_detect (hs : s.Sound o) (ho : o.isRouted = true) (hm : s.Masked) (started : Bool) :
    (Driver.detectSecurity ⟨⟨Region.distributor.base, security⟩, Region.redistributors.base, o.stride,
        started⟩).run Board.answer (.controller s)
      = (.ok ⟨⟨Region.distributor.base, o.security⟩, Region.redistributors.base, o.stride, started⟩,
        .controller s) :=
  (run_bind_ok (run_detectSecurity hs ho hm)).trans (run_pure ..)

variable (security) in
/-- All that the start leaves. -/
lemma run_start (hs : s.Sound o) (hfit : o.Fits) (ho : o.isRouted = true) (hm : s.Masked)
    (hstuck : s.writeStuck = false) (hc : s.cores[s.current]? = some c) :
    ∃ t, (Driver.start ⟨⟨Region.distributor.base, security⟩, Region.redistributors.base, o.stride,
          false⟩).run Board.answer (.controller s)
        = (.ok (.ok ⟨⟨Region.distributor.base, o.security⟩, Region.redistributors.base, o.stride, true⟩),
          .controller t)
      ∧ State.Renews o o.Shared { s with control := o.runningControl } t := by
  obtain ⟨t, hrun, ht⟩ := run_startDistributor hs hfit ho hstuck hc
  refine ⟨t, ?_, ht⟩
  refine (run_bind_ok (run_detect hs ho hm false)).trans ?_
  refine (run_bind_ok hrun).trans ?_
  exact (run_bind_ok (run_notify ..)).trans (run_pure ..)

end Routed.Driver

end InterruptControl
