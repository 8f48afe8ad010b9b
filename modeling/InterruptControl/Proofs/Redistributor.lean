import InterruptControl.Proofs.Affinity
import InterruptControl.Proofs.Requests
import InterruptControl.Proofs.Settings
import InterruptControl.Startup.Routed

/-!
How the redistributor of a core is found: it is the first one that reports the affinity of
the core.
-/

namespace InterruptControl

open Bus Hardware Program

/-! ### The affinity of the current core -/

namespace Affinity

lemma performs_current {s : State} {c : Core} (hc : s.cores[s.current]? = some c) :
    Performs Board.answer Affinity.current (.controller s)
      (.ok (.ofCoreRegister c.affinityRegister)) (.controller s) [.readSystem .coreAffinity] := by
  have hread : Board.answer (.controller s) (.readSystem .coreAffinity)
      = (.ok c.affinityRegister, .controller s) := by
    rw [Board.answer_readSystem]
    simp only [State.readSystem, hc]
    rfl
  exact (Performs.request hread).bind (.pure _ _)

lemma run_current {s : State} {c : Core} (hc : s.cores[s.current]? = some c) :
    Affinity.current.run Board.answer (.controller s)
      = (.ok (.ofCoreRegister c.affinityRegister), .controller s) := (performs_current hc).run

end Affinity

/-! ### The redistributors in a row -/

namespace Routed

lemma RedistributorType.setWidth_get_affinity (v : BitVec 64) :
    (affinity.get v).setWidth 32 = v.extractLsb' 32 32 := by
  refine BitVec.eq_of_getLsbD_eq fun i hi => ?_
  rw [BitVec.getLsbD_setWidth, BitField.getLsbD_get, BitVec.getLsbD_extractLsb']
  simp [hi, affinity, BitField.of]

/-- The software finds an affinity where the upper half of the register consists of its levels. -/
lemma RedistributorInfo.affinity_ofWord_eq_iff {v : BitVec 64} {a : Affinity} :
    (ofWord v).affinity = a ↔ v.extractLsb' 32 32 = a.word := by
  rw [← RedistributorType.setWidth_get_affinity, ← Affinity.ofPacked_eq_iff]
  rfl

end Routed

namespace Hardware.State

variable {s : State} {a : BitVec 32} {k : Nat} {c : Core}

/-- What a redistributor reports as its affinity, in the upper half of its type register. -/
def reported? (s : State) (k : Nat) : Option (BitVec 32) :=
  s.cores[k]?.map fun c => (s.redistributorType k c).extractLsb' 32 32

/-- That is the affinity of its core, unless the number of the core is so large that it gets in
between. -/
lemma reported?_eq (hc : s.cores[k]? = some c) (hk : k < 2 ^ 24) :
    s.reported? k = some c.redistributorAffinity := by
  rw [reported?, hc, Option.map_some, ← Routed.RedistributorType.setWidth_get_affinity,
    get_affinity c hk, BitVec.setWidth_setWidth_of_le _ (show 32 ≤ 64 by decide), BitVec.setWidth_eq]

lemma lt_size_of_reported? (h : s.reported? k = some a) : k < s.cores.size := by
  obtain ⟨c, hc, -⟩ := Option.map_eq_some_iff.mp h
  exact (Array.getElem?_eq_some_iff.mp hc).1

/-- The redistributor reports the affinity, and none before it does. -/
structure FirstAt (s : State) (a : BitVec 32) (k : Nat) : Prop where
  reports : s.reported? k = some a
  before : ∀ i < k, s.reported? i ≠ some a

/-- The reads by which the first `n` redistributors are asked who they are, in order. -/
def inquiries (s : State) (n : Nat) : List Request := (List.range n).map fun i =>
  .read .doubleword (Region.redistributors.base + i * s.options.stride + 0x8)

/-- Every core of a routed controller has its redistributor, and their number is one of 32 bits. -/
structure Lined (s : State) : Prop where
  routed : s.isRouted = true
  size : s.cores.size = s.options.cpus
  counted : s.options.cpus < 0x100000000

lemma Lined.onBus (h : s.Lined) (hc : s.cores[k]? = some c) : Bank.OnBus s k c := by
  have hcounted := h.counted
  refine ⟨h.routed, hc, h.size ▸ (Array.getElem?_eq_some_iff.mp hc).1, ?_⟩
  have := Nat.mul_le_mul hcounted.le (stride_le s.options)
  simp only [Region.base]
  omega

lemma Sound.lined {o : Options} (hs : s.Sound o) (hcpus : o.cpus < 0x100000000)
    (hr : o.isRouted = true) : s.Lined := by
  obtain rfl := hs.options
  exact ⟨hr, hs.size, hcpus⟩

end Hardware.State

namespace Routed.Redistributor

variable {s : State} {a : Affinity} {j : Nat}

/-- The redistributors are asked one by one who they are, up to the first with the affinity or else to
the last. -/
lemma performs_scan (hs : s.Lined) (hj : j < s.cores.size)
    (hbefore : ∀ i < j, s.reported? i ≠ some a.word)
    (hstop : s.reported? j = some a.word ∨ j + 1 = s.cores.size) {n k : Nat} (hk : k ≤ j)
    (hn : j < k + n) :
    Performs Board.answer
      (scan s.options.stride a n (Region.redistributors.base + k * s.options.stride)) (.controller s)
      (.ok (if s.reported? j = some a.word then .ok ⟨Region.redistributors.base + j * s.options.stride⟩
        else .error .noRedistributor)) (.controller s)
      ((List.range' k (j + 1 - k)).map fun i =>
        .read .doubleword (Region.redistributors.base + i * s.options.stride + 0x8)) := by
  induction n generalizing k with
  | zero => omega
  | succ n ih =>
    have hget := Array.getElem?_eq_getElem (hk.trans_lt hj)
    set ck := s.cores[k]
    have hon := hs.onBus hget
    have hread := (Performs.request (Bank.answer_core hon (o := 0x8) .doubleword (by omega))).bind
      (f := fun v => Pure.pure (RedistributorInfo.ofWord v)) (.pure _ _)
    have hask : Performs Board.answer (info ⟨Region.redistributors.base + k * s.options.stride⟩)
        (.controller s) (.ok (.ofWord (s.redistributorType k ck))) (.controller s)
        [.read .doubleword (Region.redistributors.base + k * s.options.stride + 0x8)] :=
      ⟨Keeper.run_info hon, hread.requests⟩
    have hreported : s.reported? k = some a.word ↔
        (RedistributorInfo.ofWord (s.redistributorType k ck)).affinity = a := by
      rw [State.reported?, hget, Option.map_some, Option.some_inj,
        RedistributorInfo.affinity_ofWord_eq_iff]
    have hlast : (RedistributorInfo.ofWord (s.redistributorType k ck)).last
        = decide (k + 1 = s.cores.size) := State.isSet_last ck
    rw [show j + 1 - k = j - k + 1 by omega, List.range'_succ, List.map_cons]
    refine hask.bind ?_
    rw [hlast]
    rcases Nat.lt_or_ge k j with hlt | hge
    · have hne := hbefore k hlt
      rw [ne_eq, hreported] at hne
      have hmore : ¬ k + 1 = s.cores.size := by omega
      rw [if_neg hne, if_neg (by simpa using hmore), Nat.add_assoc, ← Nat.succ_mul]
      have hrest := ih (k := k + 1) (by omega) (by omega)
      rwa [Nat.add_sub_add_right] at hrest
    · obtain rfl : k = j := by omega
      simp only [hreported, Nat.sub_self] at hstop ⊢
      by_cases hfound : (RedistributorInfo.ofWord (s.redistributorType k ck)).affinity = a
      · simp only [if_pos hfound]
        exact .pure _ _
      · simp only [if_neg hfound, if_pos (decide_eq_true (hstop.resolve_left hfound))]
        exact .pure _ _

lemma performs_find (hs : s.Lined) (hj : j < s.cores.size)
    (hbefore : ∀ i < j, s.reported? i ≠ some a.word)
    (hstop : s.reported? j = some a.word ∨ j + 1 = s.cores.size) :
    Performs Board.answer (find Region.redistributors.base s.options.stride a) (.controller s)
      (.ok (if s.reported? j = some a.word then .ok ⟨Region.redistributors.base + j * s.options.stride⟩
        else .error .noRedistributor)) (.controller s) (s.inquiries (j + 1)) := by
  have hcounted := hs.counted
  rw [← hs.size] at hcounted
  have hscan := performs_scan hs hj hbefore hstop (n := maxEntries) (Nat.zero_le _)
    (by rw [maxEntries]; omega)
  rwa [Nat.zero_mul, Nat.add_zero, Nat.sub_zero, ← List.range_eq_range'] at hscan

lemma performs_find_firstAt (hs : s.Lined) (h : s.FirstAt a.word j) :
    Performs Board.answer (find Region.redistributors.base s.options.stride a) (.controller s)
      (.ok (.ok ⟨Region.redistributors.base + j * s.options.stride⟩)) (.controller s)
      (s.inquiries (j + 1)) := by
  have hfind := performs_find hs (State.lt_size_of_reported? h.reports) h.before (.inl h.reports)
  rwa [if_pos h.reports] at hfind

end Routed.Redistributor

/-- The driver finds the first redistributor that reports the affinity of the current core. It asks the
core and the redistributors up to that one who they are. -/
lemma Routed.Driver.performs_currentRedistributor_firstAt {s : State} {c : Core} {g : Driver} {k : Nat}
    (hs : s.Lined) (hregion : g.region = Region.redistributors.base)
    (hstride : g.stride = s.options.stride) (hc : s.cores[s.current]? = some c)
    (h : s.FirstAt (packAffinity c.affinityRegister) k) :
    Performs Board.answer g.currentRedistributor (.controller s)
      (.ok ⟨Region.redistributors.base + k * s.options.stride⟩) (.controller s)
      (.readSystem .coreAffinity :: s.inquiries (k + 1)) := by
  refine (Affinity.performs_current hc).bind ?_
  rw [redistributor, hregion, hstride, ← List.append_nil (List.map ..)]
  rw [← Affinity.word_ofCoreRegister] at h
  exact (Redistributor.performs_find_firstAt hs h).bind (.pure _ _)

/-! ### The redistributor of the current core -/

namespace Hardware.State

variable {o : Options} {s t : State} {c : Core}

/-- The core whose redistributor is found for the current core: the first one that reports its
affinity. -/
def home (s : State) : Nat :=
  match s.cores[s.current]? with
  | none => s.current
  | some c => s.cores.findIdx fun c' => c'.redistributorAffinity == packAffinity c.affinityRegister

/-- The current core still has the affinity that its redistributor reports, if it has one. -/
def AtHome (s : State) : Prop := s.isRouted = true → ∀ c, s.cores[s.current]? = some c →
  c.redistributorAffinity = packAffinity c.affinityRegister

lemma home_eq (hc : s.cores[s.current]? = some c) : s.home
    = s.cores.findIdx fun c' => c'.redistributorAffinity == packAffinity c.affinityRegister := by
  rw [home, hc]

section Agree

variable (h : Agree Core.identity s t)
include h

lemma AtHome.of_agree (hs : s.AtHome) : t.AtHome := by
  intro hr c' hc'
  obtain ⟨c, hc, he⟩ := h.exists_core hc'
  obtain ⟨h1, h2⟩ := Prod.mk.inj he
  rw [← h1, ← h2]
  exact hs (h.isRouted ▸ hr) c (h.current ▸ hc)

lemma home_of_agree : t.home = s.home := by
  have hfind (u : State) (a : BitVec 32) : u.cores.findIdx (·.redistributorAffinity == a)
      = (u.cores.map Core.identity).toList.findIdx (·.2 == a) := by
    simp only [Array.toList_map, List.findIdx_map]
    rcases u.cores with ⟨l⟩
    exact List.findIdx_toArray
  rcases hc : s.cores[s.current]? with _ | c
  · have hc' : t.cores[t.current]? = none := by
      rw [Array.getElem?_eq_none_iff] at hc ⊢
      rwa [h.size, h.current]
    rw [home, home, hc, hc', h.current]
  · obtain ⟨c', hc', he⟩ := h.symm.exists_core hc
    have ha : c'.affinityRegister = c.affinityRegister := congrArg Prod.fst he
    rw [home_eq hc, home_eq (h.current ▸ hc'), hfind, hfind, h.cores, ha]

end Agree

lemma home_of_bare (h : t.bare = s.bare) : t.home = s.home := home_of_agree ((Agree.of_bare h).mono
  fun _ _ he => Core.identity_of_idle (Core.idle_of_bare he))

/-- Some redistributor reports the affinity of the current core. -/
def Reported (s : State) : Prop := ∃ c, s.cores[s.current]? = some c
  ∧ ∃ c' ∈ s.cores, c'.redistributorAffinity = packAffinity c.affinityRegister

/-- The redistributor of the current core is found, if the interrupt is one that it keeps. -/
def Locates (s : State) (o : Options) (id : IntId) : Prop :=
  o.isRouted = true → id.isPrivate = true → s.Reported

lemma Reported.of_agree (h : s.Reported) (ha : Agree Core.identity s t) : t.Reported := by
  obtain ⟨c, hc, d, hd, he⟩ := h
  obtain ⟨i, hi⟩ := Array.mem_iff_getElem?.mp hd
  obtain ⟨c', hc', hcore⟩ := ha.symm.exists_core hc
  obtain ⟨d', hd', hother⟩ := ha.symm.exists_core hi
  obtain ⟨haffinity, -⟩ := Prod.mk.inj hcore
  obtain ⟨-, hreports⟩ := Prod.mk.inj hother
  refine ⟨c', ha.current ▸ hc', d', Array.mem_of_getElem? hd', ?_⟩
  rw [hreports, haffinity]
  exact he

lemma AtHome.reported (h : s.AtHome) (hr : s.isRouted = true) (hc : s.cores[s.current]? = some c) :
    s.Reported := ⟨c, hc, c, Array.mem_of_getElem? hc, h hr c hc⟩

lemma reported_of_home (h : s.home = s.current) (hc : s.cores[s.current]? = some c) : s.Reported := by
  have hlt : s.home < s.cores.size := h ▸ (Array.getElem?_eq_some_iff.mp hc).1
  rw [home_eq hc, Array.findIdx_lt_size] at hlt
  obtain ⟨c', hc', ha⟩ := hlt
  exact ⟨c, hc, c', hc', eq_of_beq ha⟩

section Found

variable (h : s.Reported) (hc : s.cores[s.current]? = some c)
include h hc

lemma home_lt : s.home < s.cores.size := by
  obtain ⟨c₀, hc₀, c', hc', ha⟩ := h
  obtain rfl := Option.some.inj (hc₀.symm.trans hc)
  rw [home_eq hc, Array.findIdx_lt_size]
  exact ⟨c', hc', by simp [ha]⟩

/-- The redistributor that is found reports the affinity, and no earlier one does. -/
lemma home_spec : ∃ c', s.cores[s.home]? = some c'
    ∧ c'.redistributorAffinity = packAffinity c.affinityRegister
    ∧ ∀ i < s.home, ∀ d, s.cores[i]? = some d →
        d.redistributorAffinity ≠ packAffinity c.affinityRegister := by
  have hlt := home_lt h hc
  refine ⟨_, Array.getElem?_eq_getElem hlt, ?_, fun i hi d hd he => ?_⟩
  · have hget := Array.getElem?_eq_getElem hlt
    nth_rewrite 1 [home_eq hc] at hget
    have hp := Array.findIdx_of_getElem?_eq_some hget
    exact eq_of_beq hp
  · obtain ⟨hsize, rfl⟩ := Array.getElem?_eq_some_iff.mp hd
    rw [home_eq hc] at hi
    exact absurd he (ne_of_beq_false (Array.not_of_lt_findIdx hi))

lemma firstAt_home (hs : s.Sound o) (hfit : o.Fits) :
    s.FirstAt (packAffinity c.affinityRegister) s.home := by
  obtain ⟨c', hc', ha, hfirst⟩ := home_spec h hc
  have hlt := home_lt h hc
  have hcpus := hs.size ▸ hfit.cpus
  refine ⟨?_, fun i hi => ?_⟩
  · rw [reported?_eq hc' (by omega), ha]
  · have hget := Array.getElem?_eq_getElem (hi.trans hlt)
    rw [reported?_eq hget (by omega), ne_eq, Option.some_inj]
    exact hfirst i hi _ hget

end Found

end Hardware.State

namespace Routed.Driver

variable {o : Options} {s : State} {c : Core} (hs : s.Sound o) (hfit : o.Fits)
  (hr : o.isRouted = true) {d : Driver} (hregion : d.region = Region.redistributors.base)
  (hstride : d.stride = o.stride) (hreported : s.Reported) (hc : s.cores[s.current]? = some c)
include hs hfit hr hregion hstride hreported hc

lemma performs_currentRedistributor :
    Performs Board.answer d.currentRedistributor (.controller s)
      (.ok ⟨Region.redistributors.base + s.home * o.stride⟩) (.controller s)
      (.readSystem .coreAffinity :: (List.range' 0 (s.home + 1)).map fun i =>
        .read .doubleword (Region.redistributors.base + i * o.stride + 0x8)) := by
  have hcpus := hfit.cpus
  have hfirst := State.firstAt_home hreported hc hs hfit
  obtain rfl := hs.options
  rw [← List.range_eq_range']
  exact performs_currentRedistributor_firstAt (hs.lined (by omega) hr) hregion hstride hc hfirst

lemma run_currentRedistributor : d.currentRedistributor.run Board.answer (.controller s)
    = (.ok ⟨Region.redistributors.base + s.home * o.stride⟩, .controller s) :=
  (performs_currentRedistributor hs hfit hr hregion hstride hreported hc).run

end Routed.Driver

end InterruptControl
