import InterruptControl.Proofs.Affinity
import InterruptControl.Proofs.Hardware.Delivery
import InterruptControl.Proofs.Settings

/-!
The routes of shared interrupts: what the distributor of a routed controller is asked for, what
is kept of it, and the cores that the hardware sends the interrupt to.
-/

namespace InterruptControl

open Bus Hardware Program

/-! ### The register of a route -/

namespace Routed.Distributor

variable {o : Options} {s : State} {id : IntId}

/-- The offset of the route of an interrupt. -/
def routeOffset (id : IntId) : Nat :=
  (if id.isExtendedSpi then 0x8000 else 0x6000)
    + 8 * (if id.isExtendedSpi then id.number - 4096 else id.number)

lemma cases_of_reports (h : o.reports id = true) :
    32 ≤ id.number ∧ id.number < 1020 ∧ routeOffset id = 0x6000 + 8 * id.number
      ∨ 4096 ≤ id.number ∧ id.number < 5120 ∧ routeOffset id = 0x8000 + 8 * (id.number - 4096) := by
  rw [Options.reports, Bool.or_eq_true, Bool.and_eq_true, id.isSpi_iff] at h
  rw [routeOffset]
  rcases he : id.isExtendedSpi with _ | _
  · rcases h with hspi | ⟨hextended, -⟩
    · exact .inl ⟨hspi.1, hspi.2, by simp only [Bool.false_eq_true, if_false]⟩
    · exact absurd (he.symm.trans hextended) Bool.false_ne_true
  · have := id.isExtendedSpi_iff.mp he
    exact .inr ⟨this.1, this.2, by simp only [if_true]⟩

lemma isPrivate_of_reports (h : o.reports id = true) : id.isPrivate = false := by
  rw [Bool.eq_false_iff, ne_eq, id.isPrivate_iff]
  rcases cases_of_reports h with h | h <;> omega

lemma isCoreNumber_of_reports (h : o.reports id = true) : isCoreNumber id.number = false := by
  simp only [isCoreNumber, Bool.or_eq_false_iff, Bool.and_eq_false_iff, decide_eq_false_iff_not]
  rcases cases_of_reports h with h | h <;> omega

lemma routeOffset_lt (h : o.reports id = true) : routeOffset id < 0x10000 := by
  rcases cases_of_reports h with h | h <;> omega

lemma routeNumber?_routeOffset (hr : s.isRouted = true) (h : o.reports id = true) :
    s.routeNumber? (routeOffset id) = some id.number := by
  rw [State.routeNumber?, if_pos hr]
  rcases cases_of_reports h with ⟨h32, h1020, he⟩ | ⟨h4096, h5120, he⟩
  · rw [he, if_pos (by omega)]
    congr 1
    omega
  · rw [he, if_neg (by omega), if_pos (by omega)]
    congr 1
    omega

/-- The distributor reaches the interrupt. -/
lemma distributorView_of_reports (h : o.reports id = true) :
    s.distributorView id.number = s.place? id.number s.current := by
  have h32 : ¬ id.number < 32 := by rcases cases_of_reports h with h | h <;> omega
  simp [State.distributorView, h32]

lemma run_routeAddress (security : SecurityState) (h : s.options.reports id = true) :
    (routeAddress ⟨Region.distributor.base, security⟩ id).run Board.answer (.controller s)
      = (.ok (Region.distributor.base + routeOffset id), .controller s) := by
  have hplace := Keeper.run_place_of_reports s id security
  rw [h, if_pos rfl] at hplace
  refine (run_bind_ok hplace).trans ?_
  rw [run_pure, routeOffset, Nat.add_assoc]

lemma run_routeAddress_refused (security : SecurityState) (h : s.options.reports id = false) :
    (routeAddress ⟨Region.distributor.base, security⟩ id).run Board.answer (.controller s)
      = (.error .assertion, .controller s) := by
  have hplace := Keeper.run_place_of_reports s id security
  rw [h, if_neg Bool.false_ne_true] at hplace
  exact run_bind_error hplace

/-- A route is written where the interrupt is kept, if it is one of the distributor's. -/
lemma run_writeRoute_of_reports (hr : s.isRouted = true) (security : SecurityState) (v : BitVec 64) :
    (do
        require !id.isPrivate
        let address ← routeAddress ⟨Region.distributor.base, security⟩ id
        write64 address v).run Board.answer (.controller s)
      = if s.options.reports id then
          (.ok (), .controller (s.modifyIrq id.number s.current fun q =>
            { q with route := v &&& State.routeMask }))
        else (.error .assertion, .controller s) := by
  split
  next hid =>
    have hwrite : s.writeDistributor (routeOffset id) .doubleword v
        = s.modifyIrq id.number s.current fun q => { q with route := v &&& State.routeMask } := by
      rw [State.writeDistributor, State.writeRoute, routeNumber?_routeOffset hr hid]
      simp only [State.modifyDistributorIrq, distributorView_of_reports hid]
      rfl
    rw [run_require_bind, isPrivate_of_reports hid, Bool.not_false, if_pos rfl,
      run_bind_ok (run_routeAddress security hid), run_write64,
      Board.answer_write_distributor .doubleword v rfl (routeOffset_lt hid), hwrite]
  next hid =>
    rw [run_require_bind]
    split
    · exact run_bind_error (run_routeAddress_refused security (Bool.eq_false_iff.mpr hid))
    · rfl

/-- If everything that is built in is reported, those are the interrupts that it serves. -/
lemma run_writeRoute (hfit : s.options.Fits) (hr : s.isRouted = true) (security : SecurityState)
    (v : BitVec 64) :
    (do
        require !id.isPrivate
        let address ← routeAddress ⟨Region.distributor.base, security⟩ id
        write64 address v).run Board.answer (.controller s)
      = if (Keeper.routed security).serves s.options id then
          (.ok (), .controller (s.modifyIrq id.number s.current fun q =>
            { q with route := v &&& State.routeMask }))
        else (.error .assertion, .controller s) := by
  rw [run_writeRoute_of_reports hr, hfit.reports]
  rfl

/-- What is kept of the route is what is read. -/
lemma run_route (hr : s.isRouted = true) (security : SecurityState)
    (h : s.options.reports id = true) {q : Irq} (hq : s.irq? id.number s.current = some q) :
    (route ⟨Region.distributor.base, security⟩ id).run Board.answer (.controller s)
      = (.ok (q.route.getLsbD 31, .ofRoute q.route), .controller s) := by
  have hread : s.readDistributor (routeOffset id) .doubleword = q.route := by
    rw [State.readDistributor, State.readRoute, routeNumber?_routeOffset hr h]
    simp only [State.distributorIrq?, State.irqAt?, distributorView_of_reports h]
    exact congrArg (fun q => (Option.map Irq.route q).getD 0) hq
  have hanswer : (read64 (Region.distributor.base + routeOffset id)).run Board.answer (.controller s)
      = (.ok q.route, .controller s) := by
    rw [run_read64, Board.answer_read_distributor .doubleword rfl (routeOffset_lt h), hread]
  refine (run_bind_ok (run_routeAddress security h)).trans ((run_bind_ok hanswer).trans ?_)
  rw [run_pure, Route.anyCore, BitField.isSet_bit]

end Routed.Distributor

/-! ### A change of a route -/

namespace Hardware.State

/-- The hardware sends interrupt `id` to core `cpu`. -/
def SendsTo (s : State) (id cpu : Nat) : Prop :=
  ∃ c q, s.cores[cpu]? = some c ∧ s.irq? id cpu = some q ∧ s.routedTo id q cpu c = true

/-- All cores look at the shared interrupt that the current one sees. -/
lemma sendsTo_iff_of_irq? {s : State} {id : Nat} {q : Irq} (hid : isCoreNumber id = false)
    (hq : s.irq? id s.current = some q) (cpu : Nat) :
    s.SendsTo id cpu ↔ ∃ c, s.cores[cpu]? = some c ∧ s.routedTo id q cpu c = true := by
  have hshared : s.shared? id = some q := by
    rcases hc : s.cores[s.current]? with _ | c
    · rw [irq?, place?_of_none _ hc] at hq
      cases hq
    · exact (irq?_eq_shared? hid hc).symm.trans hq
  constructor
  · rintro ⟨c, q', hc, hq', hr⟩
    rw [irq?_eq_shared? hid hc, hshared] at hq'
    obtain rfl := Option.some.inj hq'
    exact ⟨c, hc, hr⟩
  · rintro ⟨c, hc, hr⟩
    exact ⟨c, q, hc, (irq?_eq_shared? hid hc).trans hshared, hr⟩

/-- The registers that identify the cores are kept along with the rest. -/
lemma exists_register_iff_of_bare {s t : State} (h : t.bare = s.bare) (cpu : Nat) {P : BitVec 64 → Prop} :
    (∃ c, t.cores[cpu]? = some c ∧ P c.affinityRegister)
      ↔ ∃ c, s.cores[cpu]? = some c ∧ P c.affinityRegister := by
  have hmove {s t : State} (h : t.bare = s.bare) :
      (∃ c, t.cores[cpu]? = some c ∧ P c.affinityRegister) →
        ∃ c, s.cores[cpu]? = some c ∧ P c.affinityRegister := by
    rintro ⟨c, hc, hP⟩
    obtain ⟨c', hc', he⟩ := exists_core_of_bare h hc
    have hregister : c.affinityRegister = c'.affinityRegister := (congrArg Core.affinityRegister he :)
    exact ⟨c', hc', hregister ▸ hP⟩
  exact ⟨hmove h, hmove h.symm⟩

/-- The distributor of a routed controller is in charge of the interrupt, which is built in. -/
structure Routable (s : State) (id : IntId) : Prop where
  isRouted : s.isRouted = true
  reports : s.options.reports id = true
  implemented : (s.irq? id.number s.current).isSome = true

/-- The interrupt has the route `v` now, and nothing else is changed. -/
structure Reroutes (s : State) (id : IntId) (v : BitVec 64) (t : State) : Prop where
  bare : t.bare = s.bare
  at? (p : Place) : t.at? p =
    if s.place? id.number s.current = some p then (s.at? p).map ({ · with route := v }) else s.at? p

namespace Reroutes

variable {s t : State} {id : IntId} {v : BitVec 64}

lemma modifyIrq (s : State) (id : IntId) (v : BitVec 64) :
    s.Reroutes id v (s.modifyIrq id.number s.current ({ · with route := v })) :=
  ⟨bare_modifyIrq .., at?_modifyIrq s _⟩

lemma irq? (h : s.Reroutes id v t) :
    t.irq? id.number t.current = (s.irq? id.number s.current).map ({ · with route := v }) := by
  rw [State.irq?, State.irq?, place?_of_bare h.bare, current_of_bare h.bare]
  rcases hp : s.place? id.number s.current with _ | p
  · rfl
  · exact (h.at? p).trans (if_pos hp)

lemma routable (h : s.Reroutes id v t) (hs : s.Routable id) : t.Routable id := by
  refine ⟨(isRouted_of_bare h.bare).trans hs.isRouted, (options_of_bare h.bare) ▸ hs.reports, ?_⟩
  rw [h.irq?, Option.isSome_map]
  exact hs.implemented

/-- The cores that the interrupt goes to are those that the route names. -/
lemma sendsTo_iff (h : s.Reroutes id v t) (hs : s.Routable id) (cpu : Nat) :
    t.SendsTo id.number cpu ↔ ∃ c, s.cores[cpu]? = some c
      ∧ (v.getLsbD 31 = true ∨ .ofCoreRegister c.affinityRegister = Affinity.ofRoute v) := by
  have ht := h.routable hs
  have hcore := Routed.Distributor.isCoreNumber_of_reports ht.reports
  obtain ⟨q, hq⟩ := Option.isSome_iff_exists.mp hs.implemented
  have hirq : t.irq? id.number t.current = some { q with route := v } := by
    rw [h.irq?, hq]
    rfl
  have hrouted (c : Core) : t.routedTo id.number { q with route := v } cpu c = true ↔
      v.getLsbD 31 = true ∨ .ofCoreRegister c.affinityRegister = Affinity.ofRoute v := by
    rw [routedTo_iff, hcore, ht.isRouted, if_pos rfl, Affinity.packAffinity_eq_iff,
      Affinity.ofRoute_eq_ofCoreRegister, eq_comm (a := Affinity.ofCoreRegister v)]
    simp
  rw [sendsTo_iff_of_irq? hcore hirq]
  simp only [hrouted]
  exact exists_register_iff_of_bare h.bare cpu
    (P := fun r => v.getLsbD 31 = true ∨ .ofCoreRegister r = Affinity.ofRoute v)

end Reroutes

/-- An interrupt that is built in is reported if the counts that the distributor tells of fit. -/
lemma routable_of_lt {s : State} {id : IntId} (hr : s.isRouted = true) (hlines : s.options.lines < 32)
    (hspis : s.options.extendedSpiRange < 32) (hid : id.isSpi = true ∨ id.isExtendedSpi = true)
    (h : (s.irq? id.number s.current).isSome = true) : s.Routable id := by
  refine ⟨hr, ?_, h⟩
  rw [Options.reports_of_lt hlines hspis, Bool.or_eq_true, Bool.and_eq_true, decide_eq_true_iff]
  refine hid.imp_right fun hextended => ⟨hextended, ?_⟩
  have hrange := id.isExtendedSpi_iff.mp hextended
  have hcore : isCoreNumber id.number = false := by
    simp only [isCoreNumber, Bool.or_eq_false_iff, Bool.and_eq_false_iff, decide_eq_false_iff_not]
    omega
  rcases hc : s.cores[s.current]? with _ | c
  · rw [irq?, place?_of_none _ hc] at h
    exact absurd h Bool.false_ne_true
  · have hlimit := sharedLimit_le s.options
    rw [irq?_eq_shared? hcore hc, shared?, Options.index?, hcore, if_neg Bool.false_ne_true,
      if_neg (by omega)] at h
    split at h
    next hcount => omega
    next => exact absurd h Bool.false_ne_true

lemma routable_of_fits {s : State} {id : IntId} (hr : s.isRouted = true) (hfit : s.options.Fits)
    (hid : id.isSpi = true ∨ id.isExtendedSpi = true)
    (h : (s.irq? id.number s.current).isSome = true) : s.Routable id :=
  routable_of_lt hr hfit.lines hfit.extendedSpiRange hid h

end Hardware.State

/-! ### Setting a route -/

namespace Routed.Distributor

variable {s : State} {id : IntId} {m : Machine}

/-- A route that is written is read back as far as it is kept, and the hardware goes by it. -/
lemma exists_rerouted (hs : s.Routable id) (security : SecurityState) (hm : m.board = .controller s)
    (hf : m.feeds = {}) (v : BitVec 64) :
    ∃ t m₁ m₂,
      (do
        require !id.isPrivate
        let address ← routeAddress ⟨Region.distributor.base, security⟩ id
        write64 address v).run Machine.answer m = (.ok (), m₁)
      ∧ m₁.board = .controller t
      ∧ (route ⟨Region.distributor.base, security⟩ id).run Machine.answer m₁
        = (.ok ((v &&& State.routeMask).getLsbD 31, .ofRoute (v &&& State.routeMask)), m₂)
      ∧ m₂.board = .controller t ∧ s.Reroutes id (v &&& State.routeMask) t := by
  have hreroutes := State.Reroutes.modifyIrq s id (v &&& State.routeMask)
  have hwrite := @run_writeRoute_of_reports s id hs.isRouted security v
  rw [hs.reports, if_pos rfl] at hwrite
  obtain ⟨m₁, hset, hm₁, hf₁⟩ := Machine.exists_run hm hf hwrite
  have ht := hreroutes.routable hs
  obtain ⟨q, hq⟩ := Option.isSome_iff_exists.mp hs.implemented
  have hkept := hreroutes.irq?
  rw [hq] at hkept
  obtain ⟨m₂, hget, hm₂, -⟩ := Machine.exists_run hm₁ hf₁
    (run_route ht.isRouted security ht.reports hkept)
  exact ⟨_, m₁, m₂, hset, hm₁, hget, hm₂, hreroutes⟩

/-- **An interrupt with a route goes to exactly the cores whose register has that affinity**, and to
all of them with the route to any core. The getter shows which it is, and no other interrupt is
touched. The layouts of an affinity agree, whatever stands between the levels of a word; the number
of a core is to stay clear of the affinity that its redistributor reports along with it. -/
theorem routes_reach_the_named_cores :
    (∀ (s : State) (id : IntId), s.Routable id → ∀ (security : SecurityState) (m : Machine),
      m.board = .controller s → m.feeds = {} →
      (∀ a : Affinity, ∃ t m₁ m₂,
        (setRoute ⟨Region.distributor.base, security⟩ id a).run Machine.answer m = (.ok (), m₁)
        ∧ m₁.board = .controller t
        ∧ (route ⟨Region.distributor.base, security⟩ id).run Machine.answer m₁ = (.ok (false, a), m₂)
        ∧ m₂.board = .controller t
        ∧ (∀ cpu, t.SendsTo id.number cpu ↔
          ∃ c, s.cores[cpu]? = some c ∧ .ofCoreRegister c.affinityRegister = a)
        ∧ s.Reroutes id a.toRoute t)
      ∧ ∃ t m₁ m₂,
        (setRouteAny ⟨Region.distributor.base, security⟩ id).run Machine.answer m = (.ok (), m₁)
        ∧ m₁.board = .controller t
        ∧ (∃ a, (route ⟨Region.distributor.base, security⟩ id).run Machine.answer m₁
          = (.ok (true, a), m₂))
        ∧ m₂.board = .controller t
        ∧ (∀ cpu, t.SendsTo id.number cpu ↔ cpu < s.cores.size)
        ∧ s.Reroutes id Route.anyCore.mask t)
    ∧ (∀ a : Affinity, .ofRoute a.toRoute = a)
    ∧ (∀ v : BitVec 64, (Affinity.ofRoute v).toRoute = v &&& 0xff00ffffff)
    ∧ ∀ v : BitVec 64, (Affinity.ofCoreRegister v).packed = packAffinity v
      ∧ ∀ (s : State) (cpu : Nat) (c : Core), cpu < 2 ^ 24 →
        c.redistributorAffinity = (Core.ofRegister v).redistributorAffinity →
        RedistributorType.affinity.get (s.redistributorType cpu c)
          = (Affinity.ofCoreRegister v).packed.setWidth 64 := by
  refine ⟨fun s id hs security m hm hf => ⟨fun a => ?_, ?_⟩, Affinity.ofRoute_toRoute,
    Affinity.toRoute_ofRoute, fun v => ⟨Affinity.packed_ofCoreRegister v, ?_⟩⟩
  · obtain ⟨t, m₁, m₂, hset, hm₁, hget, hm₂, hreroutes⟩ :=
      exists_rerouted hs security hm hf a.toRoute
    have hone := a.toRoute_one
    rw [a.toRoute_and (by decide)] at hget hreroutes hone
    rw [hone, Affinity.ofRoute_toRoute] at hget
    refine ⟨t, m₁, m₂, hset, hm₁, hget, hm₂, fun cpu => ?_, hreroutes⟩
    rw [hreroutes.sendsTo_iff hs, hone, Affinity.ofRoute_toRoute]
    simp
  · obtain ⟨t, m₁, m₂, hset, hm₁, hget, hm₂, hreroutes⟩ :=
      exists_rerouted hs security hm hf Route.anyCore.mask
    refine ⟨t, m₁, m₂, hset, hm₁, ⟨_, hget⟩, hm₂, fun cpu => ?_, hreroutes⟩
    rw [hreroutes.sendsTo_iff hs]
    constructor
    · rintro ⟨c, hc, -⟩
      exact (Array.getElem?_eq_some_iff.mp hc).1
    · intro hcpu
      exact ⟨_, Array.getElem?_eq_getElem hcpu, .inl (by decide)⟩
  · intro s cpu c hcpu hc
    rw [State.get_affinity c hcpu, hc, Affinity.packed_ofCoreRegister]
    rfl

/-- The second extended SPI is routed to core 2, and so not to core 1. -/
theorem routes_reach_the_named_cores_of_extended_spi :
    (State.reset .manifold).Routable (.ofNat 4097)
    ∧ ∃ t m₁, (setRoute ⟨Region.distributor.base, .single⟩ (.ofNat 4097) ⟨2, 0, 0, 0⟩).run
        Machine.answer { board := .controller (.reset .manifold) } = (.ok (), m₁)
      ∧ m₁.board = .controller t ∧ t.SendsTo 4097 2 ∧ ¬ t.SendsTo 4097 1 := by
  have hroutable : (State.reset .manifold).Routable (.ofNat 4097) :=
    State.routable_of_fits rfl Options.fits_manifold (.inr rfl) rfl
  obtain ⟨t, m₁, m₂, hset, hm₁, -, -, hsends, -⟩ := (routes_reach_the_named_cores.1 _ _ hroutable
    .single { board := .controller (.reset .manifold) } rfl rfl).1 ⟨2, 0, 0, 0⟩
  refine ⟨hroutable, t, m₁, hset, hm₁, (hsends 2).mpr ⟨_, rfl, by decide⟩, fun h => ?_⟩
  obtain ⟨c, hc, ha⟩ := (hsends 1).mp h
  obtain rfl := Option.some.inj hc
  exact absurd ha (by decide)

end Routed.Distributor

end InterruptControl
