import InterruptControl.Proofs.Distributor.Security
import InterruptControl.Proofs.Requests
import InterruptControl.Proofs.Script.Session
import InterruptControl.Proofs.Startup.Core

/-!
Bring-up of a routed controller that does not acknowledge what is written to it.

A start that waits in vain dies before it does anything that builds on the acknowledgement. All
that the distributor has lost by then are its groups. A core that does not wake up has kept its
private interrupts, and one whose redistributor does not settle was not opened.
-/

namespace InterruptControl

open Bus Hardware Program

namespace Program

variable {σ α : Type} {d : Device σ} {s t : σ} {l : List Request} {r : Refusal}

/-- A refusal that is not acceptable. -/
lemma Performs.insist {p : Program (Except Refusal α)} (h : Performs d p s (.ok (.error r)) t l) :
    Performs d (p >>= Program.insist) s (.error (.refused r)) t l := by
  have hdies : Performs d (Program.insist (.error r : Except Refusal α)) t
      (.error (.refused r)) t [] := ⟨rfl, rfl⟩
  simpa using h.bind hdies

end Program

/-! ### The distributor -/

namespace Routed

variable {o : Options} {s : State} {c : Core} {cpu : Nat} {security : SecurityState}

/-- All the polls of a write to the distributor that does not complete. -/
lemma Distributor.performs_settle (hstuck : s.writeStuck = true) :
    Performs Board.answer (Distributor.settle ⟨Region.distributor.base, security⟩) (.controller s)
      (.ok (.error .timeout)) (.controller s)
      (List.replicate 10000 (.read .word Region.distributor.base) ++ [.notify .distributorTimeout]) := by
  have hshown : s.readControl.getLsbD 31 = true := by
    rw [State.readControl, hstuck, BitVec.getLsbD_or, BitVec.getLsbD_or]
    rcases s.isRouted && s.options.singleSecurity with _ | _ <;> simp
  have hpoll : Performs Board.answer (Distributor.isSettled ⟨Region.distributor.base, security⟩)
      (.controller s) (.ok false) (.controller s) [.read .word Region.distributor.base] := by
    refine (Performs.request State.answer_readControl).bind (⟨?_, rfl⟩ : Performs _ _ _ _ _ [])
    rw [run_pure, DistributorControl.writePending, BitField.isSet_bit, hshown]
    rfl
  exact (hpoll.retry 10000).bind ((Performs.request rfl).bind (.pure _ _))

variable (security) in
/-- Only the groups of the security state that was found are disabled by then. -/
lemma Driver.timesOut_start (hs : Reachable o s) (hfit : o.Fits) (ho : o.isRouted = true)
    (hstuck : s.writeStuck = true) : ∃ t, Distributor.Disables o.security s t
      ∧ TimesOut Board.answer (Driver.start ⟨⟨Region.distributor.base, security⟩,
          Region.redistributors.base, o.stride, false⟩) (.controller s)
        (.read .word Region.distributor.base) 10000 .distributorTimeout (.controller t) := by
  have hr : s.isRouted = true := hs.sound.isRouted.trans ho
  obtain ⟨t, hdisable, ht⟩ :=
    Distributor.exists_disableGroups o.security hr (hs.masked.control hr) hs.settled
  have hstuck' : t.writeStuck = true := (congrArg State.writeStuck ht.frame).trans hstuck
  refine ⟨t, ht, ?_⟩
  refine .after (run_detect hs.sound ho hs.masked false) (.bind ?_)
  refine .after (run_lines (hs.sound.options ▸ hfit)) ?_
  refine .after (run_notify ..) ?_
  refine .after hdisable ?_
  exact .of_performs (l := []) (r := .barrier) (Performs.request rfl) (by simp)
    (Distributor.performs_settle hstuck').insist.bind_error

/-! ### The redistributor -/

namespace Redistributor

/-- All the polls of a core that does not wake up. -/
lemma performs_wake (h : Bank.OnBus s cpu c) (hstuck : c.wakerStuck = true) : ∃ v,
    Performs Board.answer (onBus s.options cpu).wake (.controller s) (.ok (.error .timeout))
      (.controller (s.modifyCore cpu Core.woken))
      ([.read .word (onBus s.options cpu).wakerAddress] ++
        ([.write .word (onBus s.options cpu).wakerAddress v] ++
          (List.replicate 1000 (.read .word (onBus s.options cpu).wakerAddress)
            ++ [.notify (.wakeTimeout (onBus s.options cpu).address)]))) := by
  have hread := Bank.answer_core h (o := 0x14) .word (by omega)
  have hread' := Bank.answer_core (onBus_woken h) (o := 0x14) .word (by omega)
  have hasleep : ((State.readCoreFrame (s.modifyCore cpu Core.woken) cpu c.woken 0x14 .word).setWidth
      Width.word.bits).getLsbD 2 = true := by
    simp [State.readCoreFrame, State.readWaker, Core.woken, hstuck, Width.bits]
  have hpoll : Performs Board.answer (onBus s.options cpu).isAwake
      (.controller (s.modifyCore cpu Core.woken)) (.ok false)
      (.controller (s.modifyCore cpu Core.woken))
      [.read .word (onBus s.options cpu).wakerAddress] := by
    refine (Performs.request hread').bind (⟨?_, rfl⟩ : Performs _ _ _ _ _ [])
    rw [run_pure, Waker.childrenAsleep, BitField.isSet_bit, hasleep]
    rfl
  refine ⟨_, (Performs.request hread).bind ((Performs.request (answer_writeWaker h _)).bind ?_)⟩
  exact (hpoll.retry 1000).bind ((Performs.request rfl).bind (.pure _ _))

/-- All the polls of a write to the redistributor that does not complete. -/
lemma performs_settle (h : Bank.OnBus s cpu c) (hstuck : c.writeStuck = true) :
    Performs Board.answer (onBus s.options cpu).settle (.controller s) (.ok (.error .timeout))
      (.controller s) (List.replicate 1000 (.read .word (onBus s.options cpu).controlAddress)
        ++ [.notify (.redistributorTimeout (onBus s.options cpu).address)]) := by
  have hread := Bank.answer_core h (o := 0x0) .word (by omega)
  have hpending : ((s.readCoreFrame cpu c 0x0 .word).setWidth Width.word.bits).getLsbD 3 = true := by
    simp [State.readCoreFrame, hstuck, Width.bits]
  have hpoll : Performs Board.answer (onBus s.options cpu).isSettled (.controller s) (.ok false)
      (.controller s) [.read .word (onBus s.options cpu).controlAddress] := by
    refine (Performs.request hread).bind (⟨?_, rfl⟩ : Performs _ _ _ _ _ [])
    rw [run_pure, RedistributorControl.writePending, BitField.isSet_bit, hpending]
    rfl
  exact (hpoll.retry 1000).bind ((Performs.request rfl).bind (.pure _ _))

/-- Private interrupts are reset by writes alone, once it is known how many there are. -/
lemma resetPrivate_within (r : Redistributor) (p : Priority) :
    (r.resetPrivate p).Within fun q => ∀ a, q ≠ .read .word a := by
  have hwrite {w : Width} (a : Nat) (v : BitVec w.bits) :
      (write w a v).Within fun q => ∀ a, q ≠ .read .word a := .request (by simp)
  have hfill (t : Table) (bound v : BitVec 32) :
      (t.fill bound v).Within fun q => ∀ a, q ≠ .read .word a := .each fun _ _ _ => hwrite ..
  refine .bind (.bind (.request (by simp)) fun _ => .pure _) fun i => ?_
  refine .bind (hfill ..) fun _ => .bind (hfill ..) fun _ => .bind (hfill ..) fun _ => ?_
  exact .bind (hfill ..) fun _ => .bind (hfill ..) fun _ => .each fun _ _ _ => hwrite ..

/-- Something is asked before the private interrupts are reset, and then nothing more is read in
words. -/
lemma performs_resetPrivate {r : Redistributor} {p : Priority} {b b' : Board}
    (h : (r.resetPrivate p).run Board.answer b = (.ok (), b')) (a : Nat) :
    ∃ l q, Performs Board.answer (r.resetPrivate p) b (.ok ()) b' (l ++ [q])
      ∧ q ≠ .read .word a := by
  have hne : (r.resetPrivate p).requests Board.answer b ≠ [] := by
    show (ask _ _).requests Board.answer b ≠ []
    rw [requests_ask]
    exact List.cons_ne_nil _ _
  refine ⟨_, _, ⟨h, (List.dropLast_append_getLast hne).symm⟩, ?_⟩
  exact (r.resetPrivate_within p).requests (List.getLast_mem hne) a

end Redistributor

namespace Driver

/-- The core was asked to wake up, and that is all. -/
lemma timesOut_wake (h : Bank.OnBus s cpu c) (hstuck : c.wakerStuck = true) :
    TimesOut Board.answer (startRedistributor (Redistributor.onBus s.options cpu)) (.controller s)
      (.read .word (Redistributor.onBus s.options cpu).wakerAddress) 1000
      (.wakeTimeout (Redistributor.onBus s.options cpu).address)
      (.controller (s.modifyCore cpu Core.woken)) := by
  obtain ⟨v, hwake⟩ := Redistributor.performs_wake h hstuck
  have hdies : TimesOut Board.answer ((Redistributor.onBus s.options cpu).wake >>= insist)
      (.controller s) _ _ _ _ :=
    ⟨hwake.insist.run, _, .write .word _ v, hwake.insist.requests, by simp⟩
  rw [startRedistributor, ← Program.bind_assoc]
  exact hdies.bind

/-- The private interrupts of the core are reset, and that is all. -/
lemma timesOut_settle (h : Bank.OnBus s cpu c) (hfit : s.options.Fits) (hwakes : c.wakerStuck = false)
    (hstuck : c.writeStuck = true) :
    ∃ t, TimesOut Board.answer (startRedistributor (Redistributor.onBus s.options cpu)) (.controller s)
        (.read .word (Redistributor.onBus s.options cpu).controlAddress) 1000
        (.redistributorTimeout (Redistributor.onBus s.options cpu).address) (.controller t)
      ∧ State.Renews s.options (s.options.Private cpu) (s.modifyCore cpu Core.woken) t := by
  obtain ⟨t, c', hreset, ht, hon, hsame, -⟩ :=
    Redistributor.resetPrivate_onBus (Redistributor.onBus_woken h) hfit
  obtain ⟨l, r, hperforms, hr⟩ := Redistributor.performs_resetPrivate hreset
    (Redistributor.onBus s.options cpu).controlAddress
  have hoptions : t.options = s.options := (State.options_of_bare ht.bare).trans rfl
  have hsettle := Redistributor.performs_settle hon (hsame.trans hstuck)
  rw [hoptions] at hsettle
  refine ⟨t, ?_, ht⟩
  refine .after (Redistributor.run_wake h hwakes) ?_
  refine .after (run_pure ..) ?_
  refine .after (run_notify ..) ?_
  exact .of_performs hperforms hr hsettle.insist

end Driver

/-! ### Bring-up as a whole -/

namespace Driver

variable {d : Driver} {twoStep : Bool}

/-- A session whose driver dies is left with the driver as it was. -/
lemma perform_start_error {w : Script.World} {m : Machine} {e : Failure} (hw : w.subject = .routed d)
    (h : d.start.run Machine.answer w.machine = (.error e, m)) :
    Script.DriverOp.perform .routed .start w = (.error e, w.withMachine m) := by
  have hcurrent : Script.Session.currentRouted w = (.ok d, w) := by
    refine (Script.Session.bind_ok (show (get : Script.Session _) w = (.ok w, w) from rfl)).trans ?_
    rw [hw]
    rfl
  refine (Script.Session.bind_ok hcurrent).trans ?_
  exact Script.Session.bind_error (Script.Session.perform_eq h)

/-- What comes of starting the distributor. If its writes do not complete, the start dies with the
driver not started, and nothing but the groups of the security state is different. -/
structure StartsOrDies (o : Options) (s : State) (d : Driver) : Prop where
  stuck (h : s.writeStuck = true) : ∃ t, Distributor.Disables o.security s t
      ∧ TimesOut Board.answer d.start (.controller s) (.read .word Region.distributor.base) 10000
        .distributorTimeout (.controller t)
      ∧ ∀ w : Script.World, w.subject = .routed d → w.machine.board = .controller s →
        w.machine.feeds = {} → ∃ m, m.board = .controller t
          ∧ Script.DriverOp.perform .routed .start w = (.error (.refused .timeout), w.withMachine m)
  starts (h : s.writeStuck = false) : ∃ d' t,
    d.start.run Board.answer (.controller s) = (.ok (.ok d'), .controller t)
      ∧ (Engine.routed d').Drives o ∧ d'.started = true

/-- What comes of starting the current core, with the redistributor that is found for it. If the
core of that one does not wake up, nothing is different but that it was asked to. If it does but
its writes do not complete, its private interrupts were reset, and the interface of no core is
different. -/
structure StartsCoreOrDies (o : Options) (s : State) (d : Driver) (twoStep : Bool) (c : Core) :
    Prop where
  asleep (h : c.wakerStuck = true) :
    TimesOut Board.answer (d.startCore twoStep) (.controller s)
      (.read .word (Region.redistributors.base + s.home * o.stride + 0x14)) 1000
      (.wakeTimeout (Redistributor.onBus o s.home).address)
      (.controller (s.modifyCore s.home Core.woken))
  stuck (h : c.wakerStuck = false) (h' : c.writeStuck = true) : ∃ t,
    TimesOut Board.answer (d.startCore twoStep) (.controller s)
        (.read .word (Region.redistributors.base + s.home * o.stride)) 1000
        (.redistributorTimeout (Redistributor.onBus o s.home).address) (.controller t)
      ∧ State.Renews o (o.Private s.home) (s.modifyCore s.home Core.woken) t
      ∧ State.Agree Core.steady s t
  starts (h : c.wakerStuck = false) (h' : c.writeStuck = false) : ∃ t,
    (d.startCore twoStep).run Board.answer (.controller s) = (.ok (.ok ()), .controller t)

section

variable (hs : Reachable o s) (hfit : o.Fits) (ho : o.isRouted = true)
include hs hfit ho

lemma starts_or_dies (hc : s.cores[s.current]? = some c) :
    StartsOrDies o s ⟨⟨Region.distributor.base, security⟩, Region.redistributors.base, o.stride,
      false⟩ := by
  refine ⟨fun hstuck => ?_, fun hstuck => ?_⟩
  · obtain ⟨t, ht, hdies⟩ := timesOut_start security hs hfit ho hstuck
    refine ⟨t, ht, hdies, fun w hw hb hf => ?_⟩
    obtain ⟨m, hrun, hm, -⟩ := Machine.exists_run hb hf hdies.run
    exact ⟨m, hm, perform_start_error hw hrun⟩
  · obtain ⟨t, hrun, -⟩ := run_start security hs.sound hfit ho hs.masked hstuck hc
    exact ⟨_, t, hrun, .routed ho o.security true, rfl⟩

lemma starts_core_or_dies (hreported : s.Reported) (hc : s.cores[s.home]? = some c)
    (twoStep : Bool) :
    StartsCoreOrDies o s ⟨⟨Region.distributor.base, security⟩, Region.redistributors.base, o.stride,
      true⟩ twoStep c := by
  have ⟨here, hhere, _⟩ := hreported
  have hfound := Driver.run_currentRedistributor (d := ⟨⟨Region.distributor.base, security⟩,
    Region.redistributors.base, o.stride, true⟩) hs.sound hfit ho rfl rfl hreported hhere
  obtain rfl := hs.sound.options
  obtain ⟨c₀, hon⟩ := Keeper.onBus hs.sound hfit ho
    (hs.sound.size ▸ (Array.getElem?_eq_some_iff.mp hc).1)
  obtain rfl : c₀ = c := Option.some.inj (hon.core.symm.trans hc)
  refine ⟨fun hasleep => ?_, fun hawake hstuck => ?_, fun hawake hwrites => ?_⟩
  · exact .after hfound (timesOut_wake hon hasleep).bind
  · obtain ⟨t, hdies, ht⟩ := timesOut_settle hon hfit hawake hstuck
    have hsteady : State.Agree Core.steady (s.modifyCore s.home Core.woken) t :=
      (State.Agree.of_bare ht.bare).mono fun _ _ => Core.steady_of_bare
    have hwoken : State.Agree Core.steady s (s.modifyCore s.home Core.woken) := .modifyCore _ _ fun _ => rfl
    exact ⟨t, .after hfound hdies.bind, ht, hwoken.trans hsteady⟩
  · obtain ⟨t, hrun, -⟩ := run_startHome hs.sound hfit ho hs.masked hreported hc hawake hwrites
      security twoStep
    exact ⟨t, hrun⟩

end

/-- **Nothing is built on a write that never completes**: whatever is stuck, a start that relies on
it dies of a timeout, after as many polls as it has and before anything that depends on the
acknowledgement; and if nothing is stuck, it succeeds. -/
theorem timeouts_are_fatal (hs : Reachable o s) (hfit : o.Fits) (hcpus : 0 < o.cpus)
    (hd : (Engine.routed d).Drives o) :
    (d.started = false → StartsOrDies o s d)
      ∧ (d.started = true → s.Reported → ∃ c, s.cores[s.home]? = some c
        ∧ ∀ twoStep, StartsCoreOrDies o s d twoStep c) := by
  obtain ⟨here, hc⟩ := hs.sound.exists_current hcpus
  cases hd with
  | routed ho security begun =>
    refine ⟨fun hfresh => ?_, fun hstarted hreported => ?_⟩
    · obtain rfl : begun = false := hfresh
      exact starts_or_dies hs hfit ho hc
    · obtain rfl : begun = true := hstarted
      have hhome := Array.getElem?_eq_getElem (State.home_lt hreported hc)
      exact ⟨_, hhome, starts_core_or_dies hs hfit ho hreported hhome⟩

/-- Groups and routing are enabled. Neither the distributor nor the redistributor of core 1 completes a
write, and core 2 does not wake up; the given core acts. -/
def deaf (cpu : Nat) : State :=
  [.access (.write .word Region.distributor.base 0x37), .stickDistributor true,
    .stickRedistributor 1 true, .stickWaker 2 true, .setCurrent cpu].foldl State.after (.reset .routed)

/-- The distributor cannot be started then, and loses its two groups but not its routing. Of the cores
only 0 and 3 can be started. -/
theorem timeouts_are_fatal_to_some :
    let d : Driver := ⟨⟨Region.distributor.base, .nonSecure⟩, Region.redistributors.base, 0x20000, false⟩
    let d' : Driver := { d with started := true }
    (∀ cpu, Reachable .routed (deaf cpu)) ∧ Options.routed.Fits
      ∧ (deaf 0).control = 0x37
      ∧ TimesOut Board.answer d.start (.controller (deaf 0)) (.read .word 0x08000000) 10000
        .distributorTimeout (.controller { deaf 0 with control := 0x34 })
      ∧ TimesOut Board.answer (d'.startCore true) (.controller (deaf 2))
        (.read .word 0x080e0014) 1000 (.wakeTimeout 0x080e0000)
        (.controller ((deaf 2).modifyCore 2 fun c => { c with asleep := false }))
      ∧ (∃ t, TimesOut Board.answer (d'.startCore true) (.controller (deaf 1))
        (.read .word 0x080c0000) 1000 (.redistributorTimeout 0x080c0000) (.controller t)
          ∧ State.Agree Core.steady (deaf 1) t)
      ∧ ∃ t, (d'.startCore true).run Board.answer (.controller (deaf 3))
        = (.ok (.ok ()), .controller t) := by
  intro d d'
  have hs (cpu : Nat) : Reachable .routed (deaf cpu) := Reachable.reset.foldl _
  have hcontrol : (deaf 0).control = 0x37 := by decide +kernel
  have hcores : ∀ cpu < 4, (deaf cpu).home = cpu ∧ ∀ c ∈ (deaf cpu).cores[(deaf cpu).current]?,
      c.redistributorAffinity = packAffinity c.affinityRegister := by decide +kernel
  have hstuck : ∀ cpu < 4, ∀ c ∈ (deaf cpu).cores[cpu]?, c.wakerStuck = decide (cpu = 2)
      ∧ c.writeStuck = decide (cpu = 1) := by decide +kernel
  have hcore (cpu : Nat) (hcpu : cpu < 4) : ∃ c, c.wakerStuck = decide (cpu = 2)
      ∧ c.writeStuck = decide (cpu = 1) ∧ StartsCoreOrDies .routed (deaf cpu) d' true c := by
    obtain ⟨hhome, hreports⟩ := hcores cpu hcpu
    obtain ⟨here, hc⟩ := (hs cpu).sound.exists_current (by decide)
    obtain ⟨c, hc', hstarts⟩ := (timeouts_are_fatal (d := d') (hs cpu) fits_routed (by decide)
      (.routed rfl _ true)).2 rfl ⟨_, hc, _, Array.mem_of_getElem? hc, hreports _ hc⟩
    rw [hhome] at hc'
    obtain ⟨hwaker, hwrite⟩ := hstuck cpu hcpu c hc'
    exact ⟨c, hwaker, hwrite, hstarts true⟩
  have hhome (cpu : Nat) (hcpu : cpu < 4) := (hcores cpu hcpu).1
  refine ⟨hs, fits_routed, hcontrol, ?_, ?_, ?_, ?_⟩
  · obtain ⟨t, ht, hdies, -⟩ := ((timeouts_are_fatal (d := d) (hs 0) fits_routed (by decide)
      (.routed rfl _ false)).1 rfl).stuck (by decide +kernel)
    have hleft : t.control = 0x34 := by
      refine BitVec.eq_of_getLsbD_eq fun i hi => (ht.bit i).trans ?_
      rw [hcontrol]
      revert i
      decide
    rwa [ht.frame, hleft] at hdies
  · obtain ⟨c, hwaker, -, hstarts⟩ := hcore 2 (by decide)
    have hdies := hstarts.asleep hwaker
    rwa [hhome 2 (by decide)] at hdies
  · obtain ⟨c, hwaker, hwrite, hstarts⟩ := hcore 1 (by decide)
    obtain ⟨t, hdies, -, hsteady⟩ := hstarts.stuck hwaker hwrite
    rw [hhome 1 (by decide)] at hdies
    exact ⟨t, hdies, hsteady⟩
  · obtain ⟨c, hwaker, hwrite, hstarts⟩ := hcore 3 (by decide)
    exact hstarts.starts hwaker hwrite

end Driver

end Routed

end InterruptControl
