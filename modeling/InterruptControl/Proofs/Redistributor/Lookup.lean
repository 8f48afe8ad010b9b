import InterruptControl.Proofs.Script.Session
import InterruptControl.Proofs.Startup.Core

/-!
Looking for the redistributor of an affinity, whatever the redistributors report: several may report
the same affinity, and none the one that is looked for.

Cores that come up with different affinities are few enough for their redistributors to report them
correctly, so each of them finds its own.
-/

namespace InterruptControl

open Bus Hardware Program

/-! ### Different affinities -/

namespace Hardware.Options

variable {o : Options}

/-- The register of core `r` of cluster `q`. -/
lemma affinityRegister_eq {per q r : Nat} (hper : per = max o.coresPerCluster 1) (hr : r < per) :
    o.affinityRegister (per * q + r)
      = BitVec.twoPow 64 31 ||| BitVec.ofNat 64 r ||| BitVec.ofNat 64 q <<< 8 := by
  have hcluster : (if o.coresPerCluster = 0 then 1 else o.coresPerCluster) = per := by
    split <;> omega
  have hmod : (per * q + r) % per = r := by rw [Nat.mul_add_mod, Nat.mod_eq_of_lt hr]
  have hdiv : (per * q + r) / per = q := by
    rw [Nat.mul_add_div (by omega), Nat.div_eq_of_lt hr, Nat.add_zero]
  simp only [affinityRegister, hcluster, hmod, hdiv]

/-- In every larger controller, two cores come up with the same affinity: the first ones of two clusters
with numbers that differ past their 16 bits, the first one of a cluster and one of a cluster below it
with a number past 8 bits, or two of the same cluster with numbers that differ past 24 bits. -/
lemma cpus_le_of_distinct (h : o.Distinct) : o.cpus ≤ 2 ^ 24 := by
  by_contra hlarge
  obtain ⟨per, hper⟩ : ∃ per, per = max o.coresPerCluster 1 := ⟨_, rfl⟩
  have hpos : 0 < per := by omega
  have hfirst := affinityRegister_eq (q := 0) hper hpos
  rw [Nat.mul_zero, Nat.add_zero] at hfirst
  rcases Nat.lt_or_ge 256 per with hwide | hnarrow
  · rcases Nat.lt_or_ge per o.cpus with hlt | hge
    · have hnext := affinityRegister_eq (q := 1) hper hpos
      have hmember := affinityRegister_eq (q := 0) hper hwide
      have := h (per * 1 + 0) (per * 0 + 256) (by omega) (by omega) (by
        rw [hnext, hmember]
        decide)
      omega
    · have hmember := affinityRegister_eq (q := 0) (r := 2 ^ 24) hper (by omega)
      have := h (per * 0 + 2 ^ 24) 0 (by omega) (by omega) (by
        rw [hmember, hfirst]
        decide)
      omega
  · have hfar := affinityRegister_eq (q := 2 ^ 16) hper hpos
    have := h (per * 2 ^ 16 + 0) 0 (by omega) (by omega) (by
      rw [hfar, hfirst]
      decide)
    omega

end Hardware.Options

/-! ### The first that reports an affinity -/

namespace Hardware.State

variable {s : State} {a : BitVec 32} {k : Nat}

lemma exists_firstAt (h : s.reported? k = some a) : ∃ j, s.FirstAt a j := by
  have hex : ∃ j, s.reported? j = some a := ⟨k, h⟩
  exact ⟨Nat.find hex, Nat.find_spec hex, fun _ hi => Nat.find_min hex hi⟩

end Hardware.State

namespace Routed

variable {s : State} {a : Affinity} {k : Nat}

namespace Redistributor

lemma performs_find_none (hs : s.Lined) (hcores : 0 < s.cores.size)
    (h : ∀ i, s.reported? i ≠ some a.word) :
    Performs Board.answer (find Region.redistributors.base s.options.stride a) (.controller s)
      (.ok (.error .noRedistributor)) (.controller s) (s.inquiries s.cores.size) := by
  have hfind := performs_find hs (j := s.cores.size - 1) (by omega) (fun i _ => h i) (.inr (by omega))
  rwa [if_neg (h _), Nat.sub_add_cancel hcores] at hfind

end Redistributor

namespace Driver

variable {c : Core} {g : Driver} (hs : s.Lined) (hregion : g.region = Region.redistributors.base)
  (hstride : g.stride = s.options.stride) (hc : s.cores[s.current]? = some c)
include hs hregion hstride hc

lemma performs_currentRedistributor_none
    (h : ∀ i, s.reported? i ≠ some (packAffinity c.affinityRegister)) :
    Performs Board.answer g.currentRedistributor (.controller s)
      (.error (.noRedistributor (.ofCoreRegister c.affinityRegister))) (.controller s)
      (.readSystem .coreAffinity :: s.inquiries s.cores.size) := by
  have hcores := Nat.zero_lt_of_lt (Array.getElem?_eq_some_iff.mp hc).1
  refine (Affinity.performs_current hc).bind ?_
  rw [redistributor, hregion, hstride, ← List.append_nil (List.map ..)]
  rw [← Affinity.word_ofCoreRegister] at h
  exact (Redistributor.performs_find_none hs hcores h).bind ⟨rfl, rfl⟩

/-- It fails exactly if there is none to be found. -/
lemma run_currentRedistributor_eq_error_iff {e : Failure} :
    (g.currentRedistributor.run Board.answer (.controller s)).1 = .error e
      ↔ e = .noRedistributor (.ofCoreRegister c.affinityRegister)
        ∧ ∀ i, s.reported? i ≠ some (packAffinity c.affinityRegister) := by
  by_cases h : ∃ i, s.reported? i = some (packAffinity c.affinityRegister)
  · obtain ⟨i, hi⟩ := h
    obtain ⟨k, hk⟩ := State.exists_firstAt hi
    rw [(performs_currentRedistributor_firstAt hs hregion hstride hc hk).run]
    exact ⟨nofun, fun he => absurd hi (he.2 i)⟩
  · rw [not_exists] at h
    rw [(performs_currentRedistributor_none hs hregion hstride hc h).run, Except.error.injEq]
    exact ⟨fun he => ⟨he.symm, h⟩, fun he => he.1.symm⟩

end Driver

end Routed

/-- A core with the affinity that it came up with, all of which are different, is the only one whose
redistributor reports it. -/
lemma Hardware.State.firstAt_current {o : Options} {s : State} {c : Core} (hs : s.Sound o)
    (hdistinct : o.Distinct) (hc : s.cores[s.current]? = some c)
    (ha : c.affinityRegister = o.affinityRegister s.current) :
    s.FirstAt (packAffinity c.affinityRegister) s.current := by
  have hcpus := Options.cpus_le_of_distinct hdistinct
  have hcurrent : s.current < o.cpus := hs.size ▸ (Array.getElem?_eq_some_iff.mp hc).1
  refine ⟨?_, fun i hi he => ?_⟩
  · rw [reported?_eq hc (by omega), (hs.core _ _ hc).affinity, ha]
  · have hget := Array.getElem?_eq_getElem (lt_size_of_reported? he)
    rw [reported?_eq hget (by omega), Option.some_inj, (hs.core _ _ hget).affinity, ha] at he
    exact hi.ne (hdistinct _ _ (hi.trans hcurrent) hcurrent he)

/-! ### In a session -/

namespace Script

open Routed (Redistributor)
open Routed.Redistributor (onBus)

variable {w : World} {s : State} {a : Affinity} {k : Nat}

/-- The step that looks for a redistributor of the hardware. -/
abbrev lookUp (s : State) (a : Affinity) : Session Result :=
  (RedistributorChoice.found a s.options.stride 0).perform

/-- The base of what may be at hand. -/
def baseOf (r : Option Redistributor) : Nat := (r.map fun r => r.address).getD 0

/-- A lookup asks the first `n` redistributors, all of which exist, and then answers. What it finds is
at hand after the step; if it finds nothing, what was at hand still is. -/
structure LooksUp (s : State) (a : Affinity) (r : Except Refusal Redistributor) (n : Nat) : Prop where
  call : Performs Board.answer (Redistributor.find Region.redistributors.base s.options.stride a)
    (.controller s) (.ok r) (.controller s) (s.inquiries n)
  exist : n ≤ s.cores.size
  step : ∀ w : World, w.machine.board = .controller s → w.machine.feeds = {} →
    ∃ m : Machine, m.board = .controller s ∧ lookUp s a w
      = (.ok (.located (r.map fun _ => ()) (baseOf (r.toOption.or w.redistributor))),
        { w.withMachine m with redistributor := r.toOption.or w.redistributor })

lemma looksUp_firstAt (hs : s.Lined) (h : s.FirstAt a.word k) :
    LooksUp s a (.ok (onBus s.options k)) (k + 1) := by
  have hcall := Redistributor.performs_find_firstAt hs h
  have hlt := State.lt_size_of_reported? h.reports
  refine ⟨hcall, hlt, fun w hb hf => ?_⟩
  have hpresent : (onBus s.options k).address ≠ 0 := by
    have hon := hs.onBus (Array.getElem?_eq_getElem hlt)
    have hend := hon.lt (o := 0) (by have := State.stride_ge s.options; omega)
    have hreached := hon.reached
    have hbase : 0 < Region.redistributors.base := by decide
    have haddress := Board.wrapAddress_of_lt
      (show Region.redistributors.base + k * s.options.stride < _ by omega)
    rw [Redistributor.address, haddress]
    omega
  obtain ⟨m, hrun, hm, -⟩ := Machine.exists_run hb hf hcall.run
  refine ⟨m, hm, (Session.bind_ok (Session.perform_eq hrun)).trans ?_⟩
  have hhold : hold (onBus s.options k) (w.withMachine m) = (.ok (.hex (onBus s.options k).address),
      { w.withMachine m with redistributor := some (onBus s.options k) }) := by
    refine (Session.bind_ok rfl).trans ?_
    rw [if_neg hpresent]
    rfl
  exact Session.bind_ok hhold

lemma looksUp_none (hs : s.Lined) (hcores : 0 < s.cores.size)
    (h : ∀ i, s.reported? i ≠ some a.word) :
    LooksUp s a (.error .noRedistributor) s.cores.size := by
  have hcall := Redistributor.performs_find_none hs hcores h
  refine ⟨hcall, le_rfl, fun w hb hf => ?_⟩
  obtain ⟨m, hrun, hm, -⟩ := Machine.exists_run hb hf hcall.run
  exact ⟨m, hm, (Session.bind_ok (Session.perform_eq hrun)).trans rfl⟩

end Script

/-- **The lookup of a redistributor is correct, and stays among those that exist.** Whatever the
redistributors report, only the last one says that it is, and a lookup asks them in order: up to the
first one that reports the affinity, which is found, or else all of them, to no avail.

So a core finds its own redistributor unless none reports its affinity, and then that is the failure.
Where all cores come up with different affinities, a core with the affinity that it came up with finds
the redistributor that is its own. -/
theorem redistributor_lookup_finds_first {s : State} (hs : s.Lined) (hcores : 0 < s.cores.size) :
    (∀ k c, s.cores[k]? = some c →
        (s.redistributorType k c).getLsbD 4 = decide (k + 1 = s.cores.size))
      ∧ (∀ (a : Affinity) k, s.FirstAt a.word k →
        Script.LooksUp s a (.ok (.onBus s.options k)) (k + 1))
      ∧ (∀ a : Affinity, (∀ i, s.reported? i ≠ some a.word) →
        Script.LooksUp s a (.error .noRedistributor) s.cores.size)
      ∧ ∀ g : Routed.Driver, g.region = Region.redistributors.base → g.stride = s.options.stride →
        ∀ c, s.cores[s.current]? = some c →
          (∀ k, s.FirstAt (packAffinity c.affinityRegister) k →
            Performs Board.answer g.currentRedistributor (.controller s)
              (.ok (.onBus s.options k)) (.controller s)
              (.readSystem .coreAffinity :: s.inquiries (k + 1)))
          ∧ (∃ a : Affinity, a.word = packAffinity c.affinityRegister
            ∧ ∀ e, (g.currentRedistributor.run Board.answer (.controller s)).1 = .error e
              ↔ e = .noRedistributor a ∧ ∀ i, s.reported? i ≠ some (packAffinity c.affinityRegister))
          ∧ ∀ o, Reachable o s → o.Distinct → c.affinityRegister = o.affinityRegister s.current →
            g.currentRedistributor.run Board.answer (.controller s)
              = (.ok (.onBus s.options s.current), .controller s) := by
  refine ⟨fun k c _ => ?_, fun a k => Script.looksUp_firstAt hs,
    fun a => Script.looksUp_none hs hcores, fun g hregion hstride c hc => ?_⟩
  · rw [← State.isSet_last c, Routed.RedistributorType.last, BitField.isSet_bit]
  have hfound {k : Nat} := Routed.Driver.performs_currentRedistributor_firstAt (k := k) hs hregion hstride hc
  refine ⟨fun k => hfound, ⟨.ofCoreRegister c.affinityRegister, Affinity.word_ofCoreRegister _,
    fun e => ?_⟩, fun o ho hdistinct ha => ?_⟩
  · exact Routed.Driver.run_currentRedistributor_eq_error_iff hs hregion hstride hc
  · exact (hfound (State.firstAt_current ho.sound hdistinct hc ha)).run

/-- Core 3 finds the redistributor that is its own, and none answers to the affinity 9. -/
theorem redistributor_lookup_finds_first_for_core_three :
    let s := (State.reset .routed).after (.setCurrent 3)
    let g : Routed.Driver := .ofBases Region.distributor.base Region.redistributors.base 0
    s.Lined ∧ 0 < s.cores.size ∧ Script.LooksUp s ⟨9, 0, 0, 0⟩ (.error .noRedistributor) 4
      ∧ Script.LooksUp s ⟨2, 0, 0, 0⟩ (.ok ⟨Region.redistributors.base + 2 * 0x20000⟩) 3
      ∧ g.currentRedistributor.run Board.answer (.controller s)
        = (.ok ⟨Region.redistributors.base + 3 * 0x20000⟩, .controller s) := by
  intro s g
  have hs : Reachable .routed s := .after .reset _
  have hlined : s.Lined := hs.sound.lined (by decide) rfl
  have hcores : s.cores.size = 4 := hs.sound.size
  have hcurrent : ∃ c, s.cores[s.current]? = some c
      ∧ c.affinityRegister = Options.routed.affinityRegister s.current :=
    ⟨.ofRegister (Options.routed.affinityRegister 3), by decide +kernel, by decide +kernel⟩
  have hnone : ∀ i < 4, s.reported? i ≠ some 9 := by decide +kernel
  have hsecond : s.FirstAt 2 2 := ⟨by decide +kernel, by decide +kernel⟩
  obtain ⟨c, hc, ha⟩ := hcurrent
  obtain ⟨-, hfinds, hfails, hdriver⟩ := redistributor_lookup_finds_first hlined (by omega)
  obtain ⟨-, -, hreset⟩ := hdriver g rfl rfl c hc
  refine ⟨hlined, by omega, ?_, hfinds ⟨2, 0, 0, 0⟩ 2 hsecond,
    hreset .routed hs Options.distinct_routed ha⟩
  rw [← hcores]
  exact hfails _ fun i hi => hnone i (hcores ▸ State.lt_size_of_reported? hi) hi

end InterruptControl
