import InterruptControl.Proofs.Bus.Board
import InterruptControl.Proofs.Hardware.Frame

/-!
The states that a controller can get into: from power-up, by accesses of its cores and by
what happens to it from outside, in any order. All of them are `Sound`.
-/

namespace InterruptControl.Hardware

/-- What can happen to a controller. What cannot be done is as if it had not been tried. -/
inductive Event where
  /-- An access of the current core. -/
  | access (q : Request)
  | setCurrent (cpu : Nat)
  | setAffinity (cpu : Nat) (v : BitVec 64)
  | raise (id cpu : Nat)
  | raiseLpi (id : Nat) (p : Priority) (cpu : Nat)
  | stickDistributor (stuck : Bool)
  | stickRedistributor (cpu : Nat) (stuck : Bool)
  | stickWaker (cpu : Nat) (stuck : Bool)

namespace State

/-- The state that is left, which is the old one if there is no new one. -/
def orElse (s : State) : Except Failure State → State
  | .ok t => t
  | .error _ => s

def after (s : State) : Event → State
  | .access q => (Bus.Board.answer (.controller s) q).2.hardware
  | .setCurrent cpu => s.orElse (s.setCurrent cpu)
  | .setAffinity cpu v => s.orElse (s.setAffinity cpu v)
  | .raise id cpu => s.orElse (s.raise id cpu)
  | .raiseLpi id p cpu => s.orElse (s.raiseLpi id p cpu)
  | .stickDistributor stuck => s.stickDistributor stuck
  | .stickRedistributor cpu stuck => s.orElse (s.stickRedistributor cpu stuck)
  | .stickWaker cpu stuck => s.orElse (s.stickWaker cpu stuck)

end State

/-- What a controller of the given options can get into after power-up. -/
inductive Reachable (o : Options) : State → Prop
  | reset : Reachable o (.reset o)
  | after {s : State} (h : Reachable o s) (e : Event) : Reachable o (s.after e)

/-- The LPIs of core `i` stand by ascending number, only a redistributor enables them, and it
reports the affinity that the core came up with. -/
structure Core.Sound (o : Options) (i : Nat) (c : Core) : Prop where
  lpis_ge : ∀ n ∈ c.lpis.map Prod.fst, 8192 ≤ n
  lpis_sorted : (c.lpis.map Prod.fst).Pairwise (· < ·)
  lpis_off : o.isRouted = false → c.redistributorControl = 0
  affinity : c.redistributorAffinity = packAffinity (o.affinityRegister i)

/-- What no access changes of a core: of a routed controller, LPIs may be enabled. -/
def Core.kept (routed : Bool) (c : Core) : Core.Wired :=
  { c.wired with redistributorControl := if routed then 0 else c.redistributorControl }

lemma Core.kept_of_wired {routed : Bool} {c c' : Core} (h : c.wired = c'.wired) :
    c.kept routed = c'.kept routed := by
  simp only [kept, h, show c.redistributorControl = c'.redistributorControl from
    (congrArg Wired.redistributorControl h :)]

lemma Core.kept_of_steady {c c' : Core} (h : c.steady = c'.steady) : c.kept true = c'.kept true := by
  have hl : c.lpis.map Prod.fst = c'.lpis.map Prod.fst := by
    simpa [steady, bare, Function.comp_def] using congrArg (fun c => c.lpis.map Prod.fst) h
  simp only [kept, wired, hl, show c.redistributorAffinity = c'.redistributorAffinity from
    (congrArg redistributorAffinity h :), if_true]

lemma Core.Sound.of_kept {o : Options} {i : Nat} {c c' : Core} (h : c.Sound o i)
    (he : c.kept o.isRouted = c'.kept o.isRouted) : c'.Sound o i := by
  have hl : c.lpis.map Prod.fst = c'.lpis.map Prod.fst := (congrArg Wired.lpis he :)
  have ha : c.redistributorAffinity = c'.redistributorAffinity :=
    (congrArg Wired.redistributorAffinity he :)
  refine ⟨hl ▸ h.lpis_ge, hl ▸ h.lpis_sorted, fun hr => ?_, ha ▸ h.affinity⟩
  have := (congrArg Wired.redistributorControl he :)
  simp only [kept, hr, Bool.false_eq_true, if_false] at this
  exact this ▸ h.lpis_off hr

/-- There are as many cores as are built in, one of them is current, and all are sound. -/
structure State.Sound (o : Options) (s : State) : Prop where
  options : s.options = o
  size : s.cores.size = o.cpus
  current : 0 < o.cpus → s.current < o.cpus
  core : ∀ (i : Nat) (c : Core), s.cores[i]? = some c → c.Sound o i

/-! ### LPIs -/

lemma fst_mem_insertEntry {k : Nat} {f : Irq → Irq} {l : List (Nat × Irq)} {n : Nat}
    (h : n ∈ (insertEntry k f l).map Prod.fst) : n = k ∨ n ∈ l.map Prod.fst := by
  induction l with
  | nil => simpa [insertEntry] using h
  | cons e rest ih =>
    simp only [insertEntry] at h
    split at h
    · exact .inr (by simpa using h)
    split at h
    · simpa using h
    · rw [List.map_cons, List.mem_cons] at h ⊢
      rcases h with h | h
      · exact .inr (.inl h)
      · exact (ih h).imp id .inr

lemma insertEntry_sorted {k : Nat} {f : Irq → Irq} {l : List (Nat × Irq)}
    (h : (l.map Prod.fst).Pairwise (· < ·)) :
    ((insertEntry k f l).map Prod.fst).Pairwise (· < ·) := by
  induction l with
  | nil => simp [insertEntry]
  | cons e rest ih =>
    rw [List.map_cons, List.pairwise_cons] at h
    simp only [insertEntry]
    split
    · simpa using h
    next hne =>
      split
      next hlt =>
        simp only [List.map_cons, List.pairwise_cons, List.mem_cons]
        refine ⟨?_, h⟩
        rintro n (rfl | hn)
        · exact hlt
        · exact hlt.trans (h.1 n hn)
      next hge =>
        rw [List.map_cons, List.pairwise_cons]
        refine ⟨fun n hn => ?_, ih h.2⟩
        rcases fst_mem_insertEntry hn with rfl | hn
        · show e.1 < n
          omega
        · exact h.1 n hn

/-! ### What an event leaves -/

namespace State

section Events

variable (s : State) (cpu : Nat)

/-- A core that does not exist is not changed, whether that is refused or not. -/
lemma orElse_changeCore (f : Core → Core) : s.orElse (s.changeCore cpu f) = s.modifyCore cpu f := by
  unfold changeCore
  split
  · rfl
  next h =>
    have hcores : s.cores.modify cpu f = s.cores := by
      rw [← Array.toList_inj, Array.toList_modify, List.modify_eq_self (Nat.le_of_not_lt h)]
    rw [orElse, modifyCore, hcores]

lemma after_setAffinity (v : BitVec 64) :
    s.after (.setAffinity cpu v) = s.modifyCore cpu fun c => { c with affinityRegister := v } :=
  orElse_changeCore ..

lemma after_stickRedistributor (stuck : Bool) :
    s.after (.stickRedistributor cpu stuck) = s.modifyCore cpu fun c => { c with writeStuck := stuck } :=
  orElse_changeCore ..

lemma after_stickWaker (stuck : Bool) :
    s.after (.stickWaker cpu stuck) = s.modifyCore cpu fun c => { c with wakerStuck := stuck } :=
  orElse_changeCore ..

/-- A line that goes up is a change of one interrupt. -/
lemma after_raise (id : Nat) :
    s.after (.raise id cpu) = s.modifyIrq id cpu fun q => { q with pending := true } := by
  simp only [after, raise]
  split
  · rfl
  next hnone =>
    refine (modifyIrq_eq_self s _ fun q hq => ?_).symm
    rw [hnone] at hq
    cases hq

end Events

/-- After power-up a core has its affinity, and all else as it is initially. -/
lemma core_reset_iff {o : Options} {i : Nat} {c : Core} :
    (reset o).cores[i]? = some c ↔ i < o.cpus ∧ c = .ofRegister (o.affinityRegister i) := by
  by_cases hi : i < o.cpus <;> simp [reset, hi, eq_comm]

end State

/-! ### Every event keeps a state sound -/

namespace State

variable {o : Options} {s t : State}

lemma isRouted_of_decode {a i : Nat} (h : (Bus.Board.controller s).decode a = some (.redistributors, i)) :
    s.isRouted = true := by
  obtain ⟨r, hr, he⟩ := Option.map_eq_some_iff.mp h
  obtain rfl : r = .redistributors := congrArg Prod.fst he
  have hin := List.find?_some hr
  by_contra hs
  simp only [Bool.not_eq_true] at hs
  simp only [Bool.and_eq_true, decide_eq_true_eq, Bus.Board.extent, hs, Bool.false_eq_true,
    if_false] at hin
  omega

/-- There is a controller after every access. -/
lemma answer_eq (s : State) (q : Request) :
    (Bus.Board.answer (.controller s) q).2 = .controller (s.after (.access q)) := by
  cases q with
  | read w a =>
    rcases hd : (Bus.Board.controller s).decode a with _ | ⟨r, i⟩ <;>
      simp only [after, Bus.Board.answer, hd] <;> rfl
  | write w a v =>
    rcases hd : (Bus.Board.controller s).decode a with _ | ⟨r, i⟩ <;>
      simp only [after, Bus.Board.answer, hd, Bus.Board.write]
    · rfl
    · rcases Bus.Board.writeRegion s r i w v with e | t <;> rfl
  | writeSystem r v =>
    simp only [after, Bus.Board.answer, Bus.Board.writeSystem]
    rcases s.writeSystem r v with e | t <;> rfl
  | readSystem _ | barrier | notify _ => rfl

/-- An access goes to the distributor, to a redistributor or to a CPU interface. -/
lemma after_access {I : State → Prop} (hinterface : ∀ t, t.remote = s.remote → I t)
    (hdistributor : ∀ t, DistributorStep s t → I t)
    (hredistributor : s.isRouted = true → ∀ cpu t, RedistributorStep s cpu t → I t) (q : Request) :
    I (s.after (.access q)) := by
  have hself : I s := hinterface s rfl
  cases q with
  | read w a =>
    rcases hd : (Bus.Board.controller s).decode a with _ | ⟨_ | _ | _, i⟩ <;>
      simp only [State.after, Bus.Board.answer, hd]
    case some.interface => exact hinterface _ (remote_readInterface s i w)
    all_goals exact hself
  | write w a v =>
    rcases hd : (Bus.Board.controller s).decode a with _ | ⟨_ | _ | _, i⟩ <;>
      simp only [State.after, Bus.Board.answer, hd]
    · exact hself
    · exact hdistributor _ (step_writeDistributor s i w v)
    · simp only [Bus.Board.write, Bus.Board.writeRegion]
      rcases hw : s.writeInterface i (v.setWidth 32) with e | t
      · exact hself
      · exact hinterface t (remote_writeInterface hw)
    · exact hredistributor (isRouted_of_decode hd) _ _ (step_writeRedistributor s i w v)
  | readSystem r => exact hinterface _ (remote_readSystem s r)
  | writeSystem r v =>
    simp only [State.after, Bus.Board.answer, Bus.Board.writeSystem]
    rcases hw : s.writeSystem r v with e | t
    · exact hself
    · exact hinterface t (remote_writeSystem hw)
  | barrier | notify _ => exact hself

/-- An access changes neither the current core nor what is kept of each one. -/
lemma agree_access (s : State) (q : Request) :
    Agree (Core.kept s.isRouted) s (s.after (.access q)) := by
  refine after_access (fun t ht => ?_) (fun t ht => ?_) (fun hr cpu t ht => ?_) q
  · exact (wired_of_remote ht).mono fun _ _ => Core.kept_of_wired
  · exact ht.agree.mono fun _ _ he => Core.kept_of_wired (Core.wired_of_bare he)
  · rw [hr]
    exact ht.agree.mono fun _ _ => Core.kept_of_steady

namespace Sound

lemma of_agree (h : s.Sound o) (ha : Agree (Core.kept o.isRouted) s t) : t.Sound o := by
  refine ⟨ha.options.trans h.options, ha.size.trans h.size, fun hpos => ?_, fun i c' hc => ?_⟩
  · rw [ha.current]
    exact h.current hpos
  · obtain ⟨c, hc', he⟩ := ha.exists_core hc
    exact (h.core i c hc').of_kept he

lemma of_bare (h : s.Sound o) (hb : t.bare = s.bare) : t.Sound o :=
  h.of_agree ((wired_of_bare s hb).mono fun _ _ => Core.kept_of_wired)

/-- A change of one core that leaves it sound. -/
lemma modifyCore (h : s.Sound o) {cpu : Nat} {f : Core → Core}
    (hf : ∀ c, c.Sound o cpu → (f c).Sound o cpu) : (s.modifyCore cpu f).Sound o := by
  refine ⟨h.options, by simpa using h.size, h.current, fun i c' hc => ?_⟩
  rw [getElem?_modifyCore] at hc
  split at hc
  next hi =>
    obtain ⟨c, hcore, rfl⟩ := Option.map_eq_some_iff.mp hc
    exact hi ▸ hf c (hi ▸ h.core i c hcore)
  next => exact h.core i c' hc

lemma isRouted (h : s.Sound o) : s.isRouted = o.isRouted := by rw [State.isRouted, h.options]

lemma exists_core_of_lt (h : s.Sound o) {i : Nat} (hi : i < o.cpus) : ∃ c, s.cores[i]? = some c :=
  ⟨_, Array.getElem?_eq_getElem (h.size ▸ hi)⟩

lemma exists_current (h : s.Sound o) (hcpus : 0 < o.cpus) : ∃ c, s.cores[s.current]? = some c :=
  h.exists_core_of_lt (h.current hcpus)

lemma access (h : s.Sound o) (q : Request) : (s.after (.access q)).Sound o :=
  h.of_agree (h.isRouted ▸ agree_access s q)

lemma setCurrent (h : s.Sound o) {i : Nat} (hi : i < o.cpus) :
    ({ s with current := i } : State).Sound o := ⟨h.options, h.size, fun _ => hi, h.core⟩

protected lemma after (h : s.Sound o) (e : Event) : (s.after e).Sound o := by
  cases e with
  | access q => exact h.access q
  | setCurrent cpu =>
    simp only [State.after, State.setCurrent]
    split
    next hcpu => exact h.setCurrent (h.size ▸ hcpu)
    next => exact h
  | setAffinity cpu v => exact after_setAffinity s cpu v ▸ h.modifyCore fun c hc => hc.of_kept rfl
  | raise id cpu => exact after_raise s cpu id ▸ h.of_bare (bare_modifyIrq ..)
  | raiseLpi id p cpu =>
    simp only [State.after, State.raiseLpi]
    split
    next hid =>
      simp only [Bool.and_eq_true, decide_eq_true_eq] at hid
      refine h.modifyCore fun c hc =>
        ⟨fun n hn => ?_, insertEntry_sorted hc.lpis_sorted, hc.lpis_off, hc.affinity⟩
      rcases fst_mem_insertEntry hn with rfl | hn
      · exact hid.1.2
      · exact hc.lpis_ge n hn
    next => exact h
  | stickDistributor stuck => exact ⟨h.options, h.size, h.current, h.core⟩
  | stickRedistributor cpu stuck =>
    exact after_stickRedistributor s cpu stuck ▸ h.modifyCore fun c hc => hc.of_kept rfl
  | stickWaker cpu stuck => exact after_stickWaker s cpu stuck ▸ h.modifyCore fun c hc => hc.of_kept rfl

lemma reset (o : Options) : (State.reset o).Sound o := by
  refine ⟨rfl, by simp [State.reset], fun h => h, fun i c hc => ?_⟩
  obtain ⟨-, rfl⟩ := core_reset_iff.mp hc
  exact ⟨by simp [Core.ofRegister], by simp [Core.ofRegister], fun _ => rfl, rfl⟩

end Sound

end State

namespace Reachable

variable {o : Options} {s : State}

lemma foldl (h : Reachable o s) (l : List Event) : Reachable o (l.foldl State.after s) := by
  induction l generalizing s with
  | nil => exact h
  | cons e rest ih => exact ih (h.after e)

/-- Whatever happens, the controller stays sound. -/
lemma sound (h : Reachable o s) : s.Sound o := by
  induction h with
  | reset => exact .reset o
  | after _ e ih => exact ih.after e

end Reachable

end InterruptControl.Hardware
