import InterruptControl.Proofs.Hardware.Masks
import InterruptControl.Proofs.Redistributor

/-!
Hardware that acknowledges what is written to it, and knows the affinities of its cores.

Only what happens from outside may take that away: whatever the software asks for, the hardware
stays healthy.
-/

namespace InterruptControl.Hardware

/-- Some redistributor reports the affinity that the register of a core holds. Each one reports what
its core came up with. -/
def Options.Reports (o : Options) (v : BitVec 64) : Prop :=
  ∃ i < o.cpus, packAffinity (o.affinityRegister i) = packAffinity v

/-- The core wakes up and completes writes, and a redistributor reports its affinity. -/
structure Core.Healthy (o : Options) (c : Core) : Prop where
  writes : c.writeStuck = false
  wakes : c.wakerStuck = false
  reported : o.Reports c.affinityRegister

/-- Nothing is stuck, and the affinities of all cores are reported. -/
structure State.Healthy (o : Options) (s : State) : Prop where
  writes : s.writeStuck = false
  core {i : Nat} {c : Core} (hc : s.cores[i]? = some c) : c.Healthy o

/-- Nothing gets stuck, and no core gets an affinity that is not reported. -/
def Event.Gentle (o : Options) : Event → Prop
  | .stickDistributor stuck | .stickRedistributor _ stuck | .stickWaker _ stuck => stuck = false
  | .setAffinity _ v => o.Reports v
  | .access _ | .setCurrent _ | .raise .. | .raiseLpi .. => True

/-- What only happens to a core from outside. -/
def Core.circumstances (c : Core) : BitVec 64 × Bool × Bool :=
  (c.affinityRegister, c.writeStuck, c.wakerStuck)

namespace State

variable {o : Options} {s t : State}

lemma writeStuck_of_bare (h : t.bare = s.bare) : t.writeStuck = s.writeStuck :=
  (congrArg writeStuck h :)

lemma DistributorStep.writeStuck (h : DistributorStep s t) : t.writeStuck = s.writeStuck := by
  cases h with
  | interrupts h => exact writeStuck_of_bare h
  | control | accessControl => rfl

lemma RedistributorStep.writeStuck {cpu : Nat} (h : RedistributorStep s cpu t) :
    t.writeStuck = s.writeStuck := by
  cases h with
  | interrupts h => exact writeStuck_of_bare h
  | control | sleep | accessControl => rfl

namespace Healthy

lemma of_agree (h : s.Healthy o) (hstuck : t.writeStuck = s.writeStuck)
    (ha : Agree Core.circumstances s t) : t.Healthy o := by
  refine ⟨hstuck.trans h.writes, fun {i c'} hc' => ?_⟩
  obtain ⟨c, hc, he⟩ := ha.exists_core hc'
  simp only [Core.circumstances, Prod.mk.injEq] at he
  obtain ⟨haffinity, hwrites, hwakes⟩ := he
  obtain ⟨h1, h2, h3⟩ := h.core hc
  exact ⟨hwrites ▸ h1, hwakes ▸ h2, haffinity ▸ h3⟩

lemma of_remote (h : s.Healthy o) (he : t.remote = s.remote) : t.Healthy o :=
  h.of_agree (congrArg writeStuck he :)
    ((Agree.of_remote he).mono fun _ _ he => (congrArg Core.circumstances he :))

/-- Accesses do not reach what keeps the hardware healthy. -/
lemma access (h : s.Healthy o) (q : Request) : (s.after (.access q)).Healthy o := by
  refine after_access (fun _ => h.of_remote) (fun t ht => ?_) (fun _ cpu t ht => ?_) q
  · exact h.of_agree ht.writeStuck (ht.agree.mono fun _ _ he => (congrArg Core.circumstances he :))
  · exact h.of_agree ht.writeStuck (ht.agree.mono fun _ _ he => (congrArg Core.circumstances he :))

lemma modifyCore (h : s.Healthy o) {cpu : Nat} {f : Core → Core}
    (hf : ∀ c, c.Healthy o → (f c).Healthy o) : (s.modifyCore cpu f).Healthy o := by
  refine ⟨h.writes, fun {i c'} hc' => ?_⟩
  rw [getElem?_modifyCore] at hc'
  split at hc'
  · obtain ⟨c, hc, rfl⟩ := Option.map_eq_some_iff.mp hc'
    exact hf c (h.core hc)
  · exact h.core hc'

protected lemma after (h : s.Healthy o) {e : Event} (he : e.Gentle o) : (s.after e).Healthy o := by
  cases e with
  | access q => exact h.access q
  | setCurrent cpu =>
    simp only [State.after, State.setCurrent]
    split
    · exact ⟨h.writes, h.core⟩
    · exact h
  | setAffinity cpu v =>
    exact after_setAffinity s cpu v ▸ h.modifyCore fun c hc => ⟨hc.writes, hc.wakes, he⟩
  | raise id cpu => exact after_raise s cpu id ▸ h.of_remote (remote_of_bare (bare_modifyIrq ..))
  | raiseLpi id p cpu =>
    simp only [State.after, State.raiseLpi]
    split
    · exact h.of_agree rfl (.modifyCore s cpu fun _ => rfl)
    · exact h
  | stickDistributor stuck => exact ⟨he, h.core⟩
  | stickRedistributor cpu stuck =>
    exact after_stickRedistributor s cpu stuck ▸ h.modifyCore fun c hc => ⟨he, hc.wakes, hc.reported⟩
  | stickWaker cpu stuck =>
    exact after_stickWaker s cpu stuck ▸ h.modifyCore fun c hc => ⟨hc.writes, he, hc.reported⟩

/-- The software finds a redistributor for the current core. -/
lemma reported (h : s.Healthy o) (hs : s.Sound o) (hcpus : 0 < o.cpus) : s.Reported := by
  obtain ⟨c, hc⟩ := hs.exists_current hcpus
  obtain ⟨i, hi, hreports⟩ := (h.core hc).reported
  obtain ⟨c', hc'⟩ := hs.exists_core_of_lt hi
  exact ⟨c, hc, c', Array.mem_of_getElem? hc', (hs.core i c' hc').affinity.trans hreports⟩

end Healthy

/-- Hardware is healthy when it is switched on. -/
lemma healthy_reset (o : Options) : (State.reset o).Healthy o := by
  refine ⟨rfl, fun {i c} hc => ?_⟩
  obtain ⟨hi, rfl⟩ := State.core_reset_iff.mp hc
  exact ⟨rfl, rfl, i, hi, rfl⟩

/-- What no access takes away, no call takes away. -/
lemma perform_of_access {I : State → Prop} (hI : ∀ s q, I s → I (s.after (.access q))) {α : Type}
    (p : Program α) (hs : I s) : I (s.perform p).2 := by
  induction p generalizing s with
  | done a => exact hs
  | fail e => exact hs
  | ask q k ih =>
    have hanswer := s.answer_eq q
    have hnext := hI s q hs
    rw [perform, Program.run_ask]
    rcases he : Bus.Board.answer (.controller s) q with ⟨e | v, b⟩ <;> rw [he] at hanswer
    · obtain rfl : b = _ := hanswer
      exact hnext
    · obtain rfl : b = _ := hanswer
      exact ih v hnext

end State

lemma Reachable.perform {o : Options} {s : State} (h : Reachable o s) {α : Type} (p : Program α) :
    Reachable o (s.perform p).2 :=
  State.perform_of_access (fun _ q hs => hs.after (.access q)) p h

lemma State.Healthy.perform {o : Options} {s : State} (h : s.Healthy o) {α : Type} (p : Program α) :
    (s.perform p).2.Healthy o := perform_of_access (fun _ q hs => hs.access q) p h

end InterruptControl.Hardware
