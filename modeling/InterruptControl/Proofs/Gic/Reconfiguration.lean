import InterruptControl.Proofs.Gic.Orders

/-!
An interrupt is set up step by step, and no step shows it half done.

Until the last step it is not enabled, and before it is disabled nothing else about it is changed. So
no core is given the interrupt on terms that were neither the old nor the new ones.
-/

namespace InterruptControl

open Bus Hardware Program

/-! ### Careful steps -/

/-- The interrupt does not become enabled, and how it is set up changes only while it is disabled. -/
structure Hardware.Irq.Careful (q q' : Irq) : Prop where
  enabled (h : q'.enabled = true) : q.enabled = true
  setup (h : q.enabled = true) : q'.edge = q.edge ∧ q'.priority = q.priority
    ∧ q'.targets = q.targets ∧ q'.route = q.route

lemma Hardware.Irq.Careful.refl (q : Irq) : q.Careful q := ⟨id, fun _ => ⟨rfl, rfl, rfl, rfl⟩⟩

/-- A disabled interrupt may be changed in any way that does not enable it. -/
lemma Hardware.Irq.Careful.of_disabled {q q' : Irq} (h : q.enabled = false) (h' : q'.enabled = false) :
    q.Careful q' :=
  ⟨fun he => absurd (h'.symm.trans he) Bool.false_ne_true,
    fun he => absurd (h.symm.trans he) Bool.false_ne_true⟩

/-- What is kept at the place, if anything is, is disabled. -/
def Hardware.State.DisabledAt (s : State) (x : Place) : Prop :=
  ∀ q, s.at? x = some q → q.enabled = false

lemma Hardware.State.disabledAt_modify {s : State} {x : Place} {f : Irq → Irq}
    (hf : ∀ q, s.at? x = some q → (f q).enabled = false) : (s.modify x f).DisabledAt x := by
  intro q hq
  rw [at?_modify_self] at hq
  obtain ⟨q', hq', rfl⟩ := Option.map_eq_some_iff.mp hq
  exact hf q' hq'

/-- A request along with the controller that it meets. It does nothing but to change, carefully, what
is kept at the place. -/
def Bus.CarefulAt (x : Place) (e : Board × Request) : Prop :=
  ∃ s f, e.1 = .controller s ∧ (Board.answer e.1 e.2).2 = .controller (s.modify x f)
    ∧ ∀ q, s.at? x = some q → q.Careful (f q)

namespace Bus

variable {α : Type} {p : Program α} {s : State} {x : Place} {f : Irq → Irq} {P : Request → Prop}

/-- A call that happens at once is as careful as it is as a whole. -/
lemma carefulAt_of_atOnce (hrun : (p.run Board.answer (.controller s)).2 = .controller (s.modify x f))
    (hp : p.AtOnce Board.answer P (.controller s)) (hf : ∀ q, s.at? x = some q → q.Careful (f q)) :
    ∀ e ∈ p.history Board.answer (.controller s), CarefulAt x e := by
  intro e he
  obtain ⟨-, hs, h | h⟩ := hp e he
  · exact ⟨s, id, hs, by rw [hs, h]; exact congrArg _ (State.modify_id ..).symm, fun q _ => .refl q⟩
  · exact ⟨s, f, hs, by rw [hs, h, hrun], hf⟩

/-- Asking changes nothing. -/
lemma carefulAt_of_identifies {o : Options} {a : α} (hs : s.Sound o) (hfit : o.Fits)
    (hrun : p.run Board.answer (.controller s) = (.ok a, .controller s))
    (hp : ∀ q ∈ p.requests Board.answer (.controller s), Identifies o q) :
    ∀ e ∈ p.history Board.answer (.controller s), CarefulAt x e :=
  carefulAt_of_atOnce (f := id) (by rw [hrun]; exact congrArg _ (State.modify_id ..).symm)
    (.of_identifies hs hfit hp fun _ => id) fun q _ => .refl q

lemma Puts.carefulAt_bind {p q : Program Unit} (hp : Puts p s x f)
    (h : ∀ e ∈ p.history Board.answer (.controller s), CarefulAt x e)
    (h' : ∀ e ∈ q.history Board.answer (.controller (s.modify x f)), CarefulAt x e) :
    ∀ e ∈ (p >>= fun _ => q).history Board.answer (.controller s), CarefulAt x e := by
  intro e he
  rw [history_bind_ok hp, List.mem_append] at he
  exact he.elim (h e) (h' e)

end Bus

namespace Gic

variable {H : Type} {g : Gic H} {o : Options} {s : State} {id : IntId} {x : Place} {c : Setup}
  {v : BitVec 64}

section Route

variable (hg : g.engine.Drives o) (hs : s.Sound o) (hfit : o.Fits) (hv : s.affinity? = some v)
include hg hs hfit hv

lemma atOnce_route (hlocates : s.Locates o c.id) (ht : c.Targetable o) :
    (g.route c).AtOnce Board.answer (fun _ => True) (.controller s) := by
  rw [route]
  split
  · exact .pure _
  rcases hc : c.target with _ | a
  · simp only [routeByDefault]
    generalize g.engine = e at hg
    cases hg with
    | banked ho =>
      exact (Keeper.admits_call hs hfit (k := .banked) ho (x := .set .targets ⟨1⟩) rfl c.id).atOnce.mono
        fun _ _ => trivial
    | routed ho security =>
      obtain ⟨k, hk, -⟩ := Option.map_eq_some_iff.mp hv
      have hset := Keeper.admits_call hs hfit (k := .routed security) ho
        (x := .setRoute (.ofCoreRegister k.affinityRegister)) rfl c.id
      exact (hset.after hs hfit (Affinity.run_current hk)
        fun _ => (Routed.currentAffinity_within .core).requests).atOnce.mono fun _ _ => trivial
  · exact (admits_order hg hs hfit hlocates (x := .routeTo a) fun b hb ho => by
      cases hb
      exact ht ho a hc).atOnce.mono fun _ _ => trivial

end Route

namespace Reaches

section Orders

variable (h : g.Reaches o s id x) (hfit : o.Fits)
include h hfit

lemma atOnce_order {y : Order} (hy : y.Targetable o) :
    (g.order y id).AtOnce Board.answer (fun _ => True) (.controller s) :=
  (admits_order h.drives h.sound hfit h.locates hy).atOnce.mono fun _ _ => trivial

/-- The interrupt is enabled by one write, the last request. -/
lemma history_enable : ∃ before w,
    (g.setFlag .enabled id true).history Board.answer (.controller s)
        = before ++ [(.controller s, w)]
      ∧ (∀ e ∈ before, CarefulAt x e)
      ∧ ((g.engine.keeper s id).cell o (.setting .enabled) id).Accessed w
      ∧ (Board.answer (.controller s) w).2
        = .controller (s.modify x fun q => { q with enabled := true }) := by
  have hmatches := matches_keeper h.drives h.sound h.locates
  have hfinds := Keeper.finds h.sound hfit hmatches h.serves
  have hplaces := Keeper.places h.sound (g.engine.keeper s id) id
  have hcell := Keeper.word_eq (c := .setting .enabled) rfl
    (((g.engine.keeper s id).bank s id).layout.settingTable .enabled) (hplaces.setting .enabled)
  have hblock := run_block h.drives h.sound hfit h.locates
  refine ⟨(g.block id).history Board.answer (.controller s)
      ++ (((g.engine.keeper s id).block o).locate id).history Board.answer (.controller s),
    .write .word (((g.engine.keeper s id).bank s id).layout.settingTable .enabled |>.word
      ((g.engine.keeper s id).index id / 32)) (Table.bit ((g.engine.keeper s id).index id)),
    ?_, ?_, hcell ▸ ⟨rfl, rfl⟩, ?_⟩
  · rw [setFlag, history_bind_ok hblock, Block.setFlag, history_bind_ok hfinds.locate, if_pos rfl,
      Table.history_set hfinds.lt_bits, List.append_assoc]
  · exact List.forall_mem_append.mpr
      ⟨carefulAt_of_identifies h.sound hfit hblock
        fun _ => identifies_block h.drives h.sound hfit h.locates,
      carefulAt_of_identifies h.sound hfit hfinds.locate
        fun _ => (Keeper.locate_within hmatches).requests⟩
  · have hplace : s.place? id.number ((g.engine.keeper s id).owner s) = some x := h.place
    rw [hfinds.keeps.writeBits (.setting .enabled) hfinds.lt_bits,
      hfinds.writeBits_bit _ (v := true) (r := .set) rfl, Keeper.modifyAt_view h.sound hfit hmatches h.serves,
      State.modifyIrq_of_place _ _ hplace]
    rfl

end Orders

section Prepare

/-- The call is careful wherever the interrupt is found disabled. -/
def CarefulOnceDisabled (g : Gic H) (o : Options) (v : BitVec 64) (id : IntId) (x : Place)
    (p : Program Unit) : Prop :=
  ∀ t, g.Reaches o t id x → t.affinity? = some v → t.DisabledAt x →
    ∀ e ∈ p.history Board.answer (.controller t), CarefulAt x e

/-- What comes before may change the interrupt, but not enable it. -/
lemma CarefulOnceDisabled.bind {p q : Program Unit} {f : Irq → Irq}
    (hp : ∀ t, g.Reaches o t id x → t.affinity? = some v →
      Puts p t x f ∧ p.AtOnce Board.answer (fun _ => True) (.controller t))
    (hf : ∀ q, q.enabled = false → (f q).enabled = false) (hq : CarefulOnceDisabled g o v id x q) :
    CarefulOnceDisabled g o v id x (p >>= fun _ => q) := by
  intro t h hv hoff
  obtain ⟨hputs, hatOnce⟩ := hp t h hv
  have hfirst := carefulAt_of_atOnce (congrArg Prod.snd hputs) hatOnce
    fun q hq => .of_disabled (hoff q hq) (hf q (hoff q hq))
  exact hputs.carefulAt_bind hfirst (hq _ (h.modify f)
    ((State.affinity?_of_bare (State.bare_modify ..)).trans hv)
    (State.disabledAt_modify fun q hq => hf q (hoff q hq)))

/-- The interrupt is disabled by the first step, and stays so. -/
lemma carefulAt_prepare (h : g.Reaches o s c.id x) (hfit : o.Fits) (hv : s.affinity? = some v)
    (ht : c.Targetable o) : ∀ e ∈ (g.prepare c).history Board.answer (.controller s), CarefulAt x e := by
  have hdisable := h.puts_flag hfit .enabled false
  have hfirst := carefulAt_of_atOnce (congrArg Prod.snd hdisable)
    (h.atOnce_order hfit (y := .setFlag .enabled false) nofun)
    fun q _ => ⟨fun he => absurd he Bool.false_ne_true, fun _ => ⟨rfl, rfl, rfl, rfl⟩⟩
  have hnotify : CarefulOnceDisabled g o v c.id x
      (notify (.configured c.id.number c.trigger.name c.priority.toNat)) := fun t _ _ _ =>
    carefulAt_of_atOnce (f := fun q => q) (by rw [run_notify, State.modify_id]; rfl)
      (.request (P := fun _ => True) trivial) fun q _ => .refl q
  have hrest : CarefulOnceDisabled g o v c.id x _ :=
    .bind (fun t h _ => ⟨h.puts_trigger hfit c.trigger,
      h.atOnce_order hfit (y := .setTrigger c.trigger) nofun⟩) (fun _ hq => hq) <|
    .bind (fun t h _ => ⟨h.puts_priority hfit c.priority,
      h.atOnce_order hfit (y := .setPriority c.priority) nofun⟩) (fun _ hq => hq) <|
    .bind (fun t h hv => ⟨h.puts_route hfit hv ht,
      atOnce_route h.drives h.sound hfit hv h.locates ht⟩) (fun _ hq => hq) hnotify
  exact hdisable.carefulAt_bind hfirst (hrest _ (h.modify _)
    ((State.affinity?_of_bare (State.bare_modify ..)).trans hv)
    (State.disabledAt_modify fun _ _ => rfl))

end Prepare

end Reaches

/-! ### Where the interrupt goes -/

/-- Core `cpu`, which is `k'`, is the one that a shared interrupt is to go to. Without a target that is
core 0 of a banked controller, and the calling core `k` of a routed one. -/
def Setup.Names (o : Options) (k : Core) (c : Setup) (cpu : Nat) (k' : Core) : Prop :=
  match c.target with
  | some a => if o.isRouted then packAffinity k'.affinityRegister = a.word else cpu = a.aff0.toNat
  | none =>
    if o.isRouted then packAffinity k'.affinityRegister = packAffinity k.affinityRegister else cpu = 0

section Names

variable {k k' : Core} {cpu : Nat} {q : Irq}

lemma Setup.names_iff : c.Names o k cpu k' ↔
    if o.isRouted then
      packAffinity k'.affinityRegister = (c.destination o k.affinityRegister).word
    else cpu = (c.destination o k.affinityRegister).aff0.toNat := by
  rw [Names, destination]
  rcases c.target with _ | a
  · rcases o.isRouted with _ | _
    · simp
    · simp only [if_true, Option.getD_none, Affinity.word_ofCoreRegister]
  · simp only [Option.getD_some]

/-- The hardware goes by the targets of a banked controller and by the route of a routed one. -/
lemma Setup.routedTo_setUp (hr : s.isRouted = o.isRouted) (hid : c.id.isPrivate = false)
    (hnumber : isCoreNumber c.id.number = false) (ht : c.Targetable o) :
    s.routedTo c.id.number (q.setUp o.isRouted c (c.destination o k.affinityRegister)) cpu k' = true
      ↔ c.Names o k cpu k' := by
  rw [State.routedTo_iff, hnumber, hr, names_iff]
  simp only [Irq.setUp, hid, Bool.false_or, Bool.false_eq_true, false_or]
  rcases ho : o.isRouted with _ | _
  · have hlt := ht.destination_lt (v := k.affinityRegister) ho
    simp only [Bool.false_eq_true, if_false]
    rw [← BitVec.twoPow_eq, BitVec.getLsbD_twoPow, Bool.and_eq_true, decide_eq_true_iff,
      decide_eq_true_iff]
    omega
  · simp only [Bool.not_true, Bool.false_eq_true, if_true, if_false]
    rw [Affinity.toRoute_one, Affinity.packAffinity_toRoute, eq_comm (a := Affinity.word _)]
    simp

lemma isCoreNumber_of_holds {k : Keeper} (hc : k.Holds o id) (hid : id.isPrivate = false)
    (hfit : o.Fits) : isCoreNumber id.number = false := by
  have hextended := State.extendedCount_le hfit
  have hpis := Bank.privateCount_le o
  rw [Bool.eq_false_iff, ne_eq, id.isPrivate_iff] at hid
  simp only [isCoreNumber, Bool.or_eq_false_iff, Bool.and_eq_false_iff, decide_eq_false_iff_not]
  cases k <;> simp only [Keeper.Holds] at hc <;> omega

/-- A shared interrupt that was set up goes to the core that was asked for. -/
lemma Reaches.sendsTo_setUp (h : g.Reaches o s c.id x) (hid : c.id.isPrivate = false)
    (hnumber : isCoreNumber c.id.number = false) (ht : c.Targetable o) (hq : s.at? x = some q)
    (cpu : Nat) :
    (s.modify x (Irq.setUp o.isRouted c (c.destination o k.affinityRegister))).SendsTo c.id.number cpu
      ↔ ∃ k', s.cores[cpu]? = some k' ∧ c.Names o k cpu k' := by
  obtain ⟨t, ht'⟩ : ∃ t, t = s.modify x (Irq.setUp o.isRouted c (c.destination o k.affinityRegister)) :=
    ⟨_, rfl⟩
  have hbare : t.bare = s.bare := ht' ▸ State.bare_modify ..
  have hr : t.isRouted = o.isRouted := (State.isRouted_of_bare hbare).trans h.sound.isRouted
  have hirq : t.irq? c.id.number t.current
      = some (q.setUp o.isRouted c (c.destination o k.affinityRegister)) := by
    have hplace := h.place
    rw [owner_of_shared h.drives hid] at hplace
    rw [State.irq?, State.place?_of_bare hbare, State.current_of_bare hbare, hplace, ht']
    exact (State.at?_modify_self ..).trans (congrArg _ hq)
  rw [← ht', State.sendsTo_iff_of_irq? hnumber hirq]
  simp only [Setup.routedTo_setUp hr hid hnumber ht, Setup.names_iff]
  exact State.exists_register_iff_of_bare hbare cpu (P := fun r => if o.isRouted then packAffinity r
    = (c.destination o k.affinityRegister).word else cpu = (c.destination o k.affinityRegister).aff0.toNat)

end Names

end Gic

/-- **Setting an interrupt up never shows it half done.** It ends up enabled as asked for, and a shared
one goes to the core asked for. Nothing else about it or about the others is changed. It is enabled by
the last request, and all that is changed before leaves it disabled or as it was. -/
theorem reconfiguration_guarded {H : Type} {o : Options} {s : State} (hs : Reachable o s)
    (hfit : o.Fits) {g : Gic H} (hg : g.engine.Drives o) {k : Core} (hk : s.cores[s.current]? = some k)
    {c : Gic.Setup} (hc : (g.engine.keeper s c.id).Holds o c.id) (hlocates : s.Locates o c.id)
    (htarget : c.Targetable o) {x : Place} {q : Irq}
    (hx : s.place? c.id.number (g.owner s c.id) = some x) (hq : s.at? x = some q) :
    ∃ t u before w,
      (g.configure c).run Board.answer (.controller s) = (.ok (), .controller t)
      ∧ t.bare = s.bare ∧ (∀ y ≠ x, t.at? y = s.at? y)
      ∧ t.at? x = some (q.setUp o.isRouted c (c.destination o k.affinityRegister))
      ∧ (c.id.isPrivate = false → ∀ cpu, t.SendsTo c.id.number cpu
        ↔ ∃ k', s.cores[cpu]? = some k' ∧ c.Names o k cpu k')
      ∧ (g.trigger c.id).run Board.answer (.controller t)
        = (.ok (if c.id.isSgi then .edge else c.trigger), .controller t)
      ∧ (g.configure c).history Board.answer (.controller s) = before ++ [(.controller u, w)]
      ∧ (∀ e ∈ before, CarefulAt x e)
      ∧ ((g.engine.keeper s c.id).cell o (.setting .enabled) c.id).Accessed w
      ∧ (Board.answer (.controller u) w).2 = .controller t
      ∧ u.at? x = some
          { q.setUp o.isRouted c (c.destination o k.affinityRegister) with enabled := false } := by
  have hreaches : g.Reaches o s c.id x :=
    ⟨hg, hs.sound, hlocates, (Keeper.serves_iff hfit).mpr hc, hx⟩
  have hv : s.affinity? = some k.affinityRegister := Option.map_eq_some_iff.mpr ⟨k, hk, rfl⟩
  have hprepare := hreaches.puts_prepare hfit hv htarget
  have hconfigure := hreaches.puts_configure hfit hv htarget
  obtain ⟨asks, w, henable, hasks, hcell, hlast⟩ := (hreaches.modify _).history_enable hfit
  rw [State.modify_modify] at hlast
  refine ⟨_, _, (g.prepare c).history Board.answer (.controller s) ++ asks, w, hconfigure,
    State.bare_modify .., fun y hy => State.at?_modify_of_ne _ _ hy, by rw [State.at?_modify_self, hq]; rfl,
    fun hid => hreaches.sendsTo_setUp hid (Gic.isCoreNumber_of_holds hc hid hfit) htarget hq,
    ?_, ?_, List.forall_mem_append.mpr ⟨hreaches.carefulAt_prepare hfit hv htarget, hasks⟩, ?_, hlast,
    by rw [State.at?_modify_self, hq]; rfl⟩
  · rw [(hreaches.modify _).run_trigger hfit (by rw [State.at?_modify_self, hq]; rfl), Irq.setUp]
    cases c.id.isSgi <;> cases c.trigger <;> rfl
  · rw [Gic.configure_eq, history_bind_ok hprepare, henable, List.append_assoc]
  · rwa [Gic.keeper_modify] at hcell

/-- SPI 40 is enabled and pending, and the calling core is core 3. -/
def Hardware.State.waiting : State :=
  [.access (.write .word (Region.distributor.base + 0x104) 0x100), .raise 40 0, .setCurrent 3].foldl
    State.after (.reset .routed)

/-- The interrupt is set up again, and goes to the calling core and to no other one. -/
theorem reconfiguration_guarded_while_pending :
    let d : Routed.Driver :=
      ⟨⟨Region.distributor.base, .nonSecure⟩, Region.redistributors.base, Options.routed.stride, true⟩
    let g : Gic Unit := ⟨.v3, .routed d, false, .empty⟩
    ∃ t, (g.configure ⟨.ofNat 40, .edge, 0x80, none⟩).run Board.answer (.controller .waiting)
        = (.ok (), .controller t)
      ∧ t.at? (.shared 40) = some
        { enabled := true, pending := true, edge := true, priority := 0x80, route := 3 }
      ∧ ∀ cpu, t.SendsTo 40 cpu ↔ cpu = 3 := by
  intro d g
  have hs : Reachable .routed .waiting := Reachable.reset.foldl _
  obtain ⟨k, hk, haffinity⟩ : ∃ k, State.waiting.cores[State.waiting.current]? = some k
      ∧ k.affinityRegister = 0x80000003 := ⟨_, rfl, by decide +kernel⟩
  have hq : State.waiting.at? (.shared 40) = some { enabled := true, pending := true } := by
    decide +kernel
  have hcores : ∀ cpu < 4, ∀ k' ∈ State.waiting.cores[cpu]?,
      packAffinity k'.affinityRegister = packAffinity 0x80000003 ↔ cpu = 3 := by decide +kernel
  have hnamed (cpu : Nat) : (∃ k', State.waiting.cores[cpu]? = some k'
      ∧ packAffinity k'.affinityRegister = packAffinity 0x80000003) ↔ cpu = 3 := by
    have hsize : State.waiting.cores.size = 4 := hs.sound.size
    constructor
    · rintro ⟨k', hk', ha⟩
      exact (hcores cpu (hsize ▸ (Array.getElem?_eq_some_iff.mp hk').1) k' hk').mp ha
    · rintro rfl
      exact ⟨k, hk, by rw [haffinity]⟩
  obtain ⟨t, -, -, -, hrun, -, -, ht, hsends, -⟩ := reconfiguration_guarded hs fits_routed (g := g)
    (c := ⟨.ofNat 40, .edge, 0x80, none⟩) (.routed rfl _ _) hk (.inl (by decide))
    (fun _ hprivate => absurd hprivate (by decide)) nofun rfl hq
  refine ⟨t, hrun, ht.trans ?_, fun cpu => (hsends rfl cpu).trans ?_⟩
  · rw [haffinity]
    decide +kernel
  · rw [← hnamed, ← haffinity]
    rfl

end InterruptControl
