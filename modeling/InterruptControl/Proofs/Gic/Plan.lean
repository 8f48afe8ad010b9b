import InterruptControl.Proofs.Gic.Configure
import InterruptControl.Proofs.Gic.Sharing
import InterruptControl.Proofs.Startup.BringUp

/-!
A plan of interrupts: which ones are to be served, by which cores and which handlers. Its jobs are
set up one after the other, and then all the lines go up, in any order.

Different jobs are about different places, so what is kept at the place of a job is what that job
makes of it, and nothing else is changed.
-/

namespace InterruptControl

open Bus Hardware Program

/-- The name by which the software routes interrupts to a core. -/
def Hardware.Options.address (o : Options) (cpu : Nat) : Affinity :=
  if o.isRouted then .ofCoreRegister (o.affinityRegister cpu) else ⟨BitVec.ofNat 8 cpu, 0, 0, 0⟩

/-- An interrupt that is to be served. -/
structure Job (H : Type) where
  id : IntId
  trigger : Trigger
  priority : Priority
  /-- The core that serves it. -/
  target : Nat
  /-- The core that sets it up. -/
  origin : Nat
  handler : H

namespace Job

variable {H : Type} (o : Options) (x y : Job H)

def setup : Gic.Setup := ⟨x.id, x.trigger, x.priority, some (o.address x.target)⟩

/-- The interrupt is implemented, and of any priority but the lowest. A private one is set up by its
own core. -/
structure Fits : Prop where
  implemented : ((State.reset o).irq? x.id.number x.target).isSome = true
  origin : x.origin < o.cpus
  own : x.id.isPrivate = true → x.origin = x.target
  urgent : x.priority.toNat < 0xff

/-- The jobs are about different interrupts. Every core has private ones of its own. -/
def Apart : Prop := x.id = y.id → x.id.isPrivate = true ∧ x.target ≠ y.target

instance : Decidable (x.Fits o) :=
  decidable_of_iff (((State.reset o).irq? x.id.number x.target).isSome = true ∧ x.origin < o.cpus
      ∧ (x.id.isPrivate = true → x.origin = x.target) ∧ x.priority.toNat < 0xff)
    ⟨fun h => ⟨h.1, h.2.1, h.2.2.1, h.2.2.2⟩, fun h => ⟨h.implemented, h.origin, h.own, h.urgent⟩⟩

instance : Decidable (x.Apart y) := inferInstanceAs (Decidable (x.id = y.id → _ ∧ _))

/-- The handler of an interrupt is the one that was installed last. -/
def handlerOf (l : List (Job H)) (id : IntId) : Option H :=
  (l.reverse.find? fun x => x.id == id).map handler

/-- What the interrupt is once it is set up. -/
def made (q : Irq) : Irq := q.setUp o.isRouted (x.setup o) (o.address x.target)

/-- Where the interrupt is kept. -/
def place? (s : State) : Option Place := s.place? x.id.number x.target

end Job

/-! ### Carrying a plan out -/

/-- A call that does not fail, and what is left. -/
def Hardware.State.follow? (s : State) (p : Program Unit) : Option State :=
  match s.perform p with
  | (.ok (), t) => some t
  | _ => none

lemma Hardware.State.follow?_of_run {s t : State} {p : Program Unit}
    (h : p.run Board.answer (.controller s) = (.ok (), .controller t)) : s.follow? p = some t := by
  rw [follow?, perform, h]
  rfl

namespace Gic

variable {H : Type}

/-- The handlers are installed, and the interrupts are set up by the cores that are to do so. -/
def arrange (o : Options) (g : Gic H) (s : State) : List (Job H) → Option (Gic H × State)
  | [] => some (g, s)
  | x :: l => do
    let g ← (g.install x.id (some x.handler)).toOption
    let t ← (s.after (.setCurrent x.origin)).follow? (g.configure (x.setup o))
    arrange o g t l

end Gic

/-- The lines go up. -/
def Job.raise? {H : Type} (s : State) : List (Job H) → Option State
  | [] => some s
  | x :: l => do
    let t ← (s.raise x.id.number x.target).toOption
    raise? t l

/-! ### Handlers -/

namespace Job

variable {H : Type} {l : List (Job H)} {x : Job H} {id : IntId}

lemma handlerOf_cons (x : Job H) (l : List (Job H)) (id : IntId) : handlerOf (x :: l) id
    = (handlerOf l id).or (if x.id = id then some x.handler else none) := by
  rw [handlerOf, handlerOf, List.reverse_cons, List.find?_append, Option.map_or]
  by_cases h : x.id = id
  · simp [h]
  · simp [h]

lemma exists_of_handlerOf {h : H} (hh : handlerOf l id = some h) : ∃ x ∈ l, x.id = id ∧ x.handler = h := by
  obtain ⟨x, hx, rfl⟩ := Option.map_eq_some_iff.mp hh
  exact ⟨x, List.mem_reverse.mp (List.mem_of_find?_eq_some hx), by simpa using List.find?_some hx, rfl⟩

lemma isSome_handlerOf (hx : x ∈ l) : (handlerOf l x.id).isSome = true := by
  rw [handlerOf, Option.isSome_map, List.find?_isSome]
  exact ⟨x, List.mem_reverse.mpr hx, beq_self_eq_true _⟩

/-- If there is no other one for the interrupt, that is the handler of the job. -/
lemma handlerOf_eq (hx : x ∈ l) (hsame : ∀ y ∈ l, y.id = x.id → y.handler = x.handler) :
    handlerOf l x.id = some x.handler := by
  obtain ⟨h, hh⟩ := Option.isSome_iff_exists.mp (isSome_handlerOf hx)
  obtain ⟨y, hy, hid, rfl⟩ := exists_of_handlerOf hh
  rw [hh, hsame y hy hid]

end Job

/-! ### Open cores -/

namespace Hardware

/-- All cores run nothing, are open to every priority, and have the affinities that they came up
with. -/
structure State.Open (o : Options) (twoStep : Bool) (s : State) : Prop where
  sound : s.Sound o
  core {i : Nat} {c : Core} (hc : s.cores[i]? = some c) : c.running = [] ∧ c.lpis = []
    ∧ c.affinityRegister = o.affinityRegister i ∧ s.priorityLimit c = 0xff
    ∧ s.deliveryEnabled c = true ∧ c.twoStep o.isRouted = twoStep

namespace State

variable {o : Options} {s t : State} {twoStep : Bool} {i : Nat}

namespace Open

lemma of_bare (h : s.Open o twoStep) (hb : t.bare = s.bare) : t.Open o twoStep := by
  refine ⟨h.sound.of_bare hb, fun {i c'} hc' => ?_⟩
  obtain ⟨c, hc, he⟩ := exists_core_of_bare hb hc'
  obtain ⟨hrunning, hlpis, haffinity, hlimit, hdelivery, htwo⟩ := h.core hc
  have hkeys := Core.lpis_of_bare he
  rw [hlpis] at hkeys
  have hmasks : c'.priorityMask = c.priorityMask ∧ c'.mappedPriorityMask = c.mappedPriorityMask :=
    ⟨(congrArg Core.priorityMask he :), (congrArg Core.mappedPriorityMask he :)⟩
  have hmodes : c'.control = c.control ∧ c'.mappedControl = c.mappedControl :=
    ⟨(congrArg Core.control he :), (congrArg Core.mappedControl he :)⟩
  refine ⟨(congrArg Core.running he :).trans hrunning, List.map_eq_nil_iff.mp hkeys,
    (congrArg Core.affinityRegister he :).trans haffinity, ?_,
    (deliveryEnabled_of_bare hb he.symm).trans hdelivery, ?_⟩
  · rw [priorityLimit, isRouted_of_bare hb, hmasks.1, hmasks.2]
    exact hlimit
  · rw [Core.twoStep, hmodes.1, hmodes.2]
    exact htwo

lemma setCurrent (h : s.Open o twoStep) (hi : i < o.cpus) :
    ({ s with current := i } : State).Open o twoStep :=
  ⟨h.sound.setCurrent hi, h.core⟩

lemma exists_core (h : s.Open o twoStep) (hi : i < o.cpus) : ∃ c, s.cores[i]? = some c :=
  h.sound.exists_core_of_lt hi

lemma home (h : s.Open o twoStep) : s.AtHome := by
  intro _ c hc
  rw [(h.core hc).2.2.1, (h.sound.core _ _ hc).affinity]

/-- The front end that brought the cores up is ready for whatever comes. -/
lemma tends {H : Type} {g : Gic H} (h : s.Open o g.twoStep) (hg : g.engine.Drives o)
    (hcpus : 0 < o.cpus) : g.Tends o s := by
  obtain ⟨c, hc⟩ := h.exists_core (h.sound.current hcpus)
  obtain ⟨-, hlpis, -, -, -, htwo⟩ := h.core hc
  exact ⟨hg, h.sound, h.home, c, hc, htwo, by rw [hlpis]; simp⟩

end Open

/-- After power-up nothing is in the way of bring-up. -/
lemma startable_reset (hdistinct : o.isRouted = true → o.Distinct) : (State.reset o).Startable o := by
  refine ⟨.reset o, .reset o, fun hr => ⟨rfl, fun {i c} hc => ?_, hdistinct hr⟩⟩
  obtain ⟨-, rfl⟩ := core_reset_iff.mp hc
  exact ⟨rfl, rfl, rfl⟩

/-- And once all cores are brought up, they are open. -/
lemma Renews.open_reset (h : Renews o o.Built ((State.reset o).started o twoStep i) t) (ht : t.Sound o) :
    t.Open o twoStep := by
  refine ⟨ht, fun {j c} hc => ?_⟩
  obtain ⟨c', hc', he⟩ := exists_core_of_bare h.bare hc
  obtain ⟨c₀, hc₀, rfl⟩ := Option.map_eq_some_iff.mp (Array.getElem?_map .. ▸ hc')
  obtain ⟨hlimit, hdelivery, htwo, -⟩ := core_of_started ht.isRouted (control_of_bare h.bare) he.symm
  obtain ⟨-, rfl⟩ := core_reset_iff.mp hc₀
  have hstarted : (Core.started o.isRouted twoStep (.ofRegister (o.affinityRegister j))).running = []
      ∧ (Core.started o.isRouted twoStep (.ofRegister (o.affinityRegister j))).lpis = []
      ∧ (Core.started o.isRouted twoStep (.ofRegister (o.affinityRegister j))).affinityRegister
        = o.affinityRegister j := by
    cases o.isRouted <;> exact ⟨rfl, rfl, rfl⟩
  have hkeys := Core.lpis_of_bare he
  rw [hstarted.2.1] at hkeys
  exact ⟨(congrArg Core.running he :).trans hstarted.1, List.map_eq_nil_iff.mp hkeys,
    (congrArg Core.affinityRegister he :).trans hstarted.2.2, hlimit, hdelivery, htwo⟩

/-! ### Places of jobs -/

lemma at?_setCurrent (s : State) (k : Nat) (p : Place) :
    ({ s with current := k } : State).at? p = s.at? p := by
  cases p <;> rfl

/-- The private interrupts that a core sees are its own. -/
lemma own_of_place? {id cpu : Nat} {p : Place} (hp : s.place? id cpu = some p) (hid : id < 8192)
    (hprivate : isCoreNumber id = true) : ∃ i, p = .own cpu i := by
  have h1020 := sharedLimit_le s.options
  simp only [isCoreNumber, Bool.or_eq_true, Bool.and_eq_true, decide_eq_true_eq] at hprivate
  obtain ⟨c, -, hleads⟩ := leadsTo_of_place? hp
  cases hleads with
  | own | extendedOwn => exact ⟨_, rfl⟩
  | _ => omega

end State

end Hardware

namespace Job

variable {H : Type} {o : Options} {s : State} {twoStep : Bool} {x y : Job H} {p : Place}

lemma Apart.symm (h : x.Apart y) : y.Apart x := fun he => he ▸ ⟨(h he.symm).1, (h he.symm).2.symm⟩

instance : Std.Symm (@Apart H) := ⟨fun _ _ => Apart.symm⟩

lemma isCoreNumber_eq (hid : x.id.number < 8192) : isCoreNumber x.id.number = x.id.isPrivate := by
  rw [Bool.eq_iff_iff, x.id.isPrivate_iff]
  simp only [isCoreNumber, Bool.or_eq_true, Bool.and_eq_true, decide_eq_true_eq]
  omega

/-- The interrupt has a place, and a slot for its handler. -/
lemma Fits.exists_place (hx : x.Fits o) (hfit : o.Fits) (hs : s.Sound o) : x.target < o.cpus
    ∧ x.id.number < 8192 ∧ (Handlers.slot? x.id).isSome = true ∧ ∃ p, x.place? s = some p := by
  obtain ⟨q, hq⟩ := Option.isSome_iff_exists.mp hx.implemented
  obtain ⟨p, hp, -⟩ := Option.bind_eq_some_iff.mp hq
  obtain ⟨c, hc, hleads⟩ := State.leadsTo_of_place? hp
  have h96 := Bank.privateCount_le o
  have h1020 := State.sharedLimit_le o
  have h1024 := State.extendedCount_le hfit
  have hsize : (State.reset o).cores.size = s.cores.size := Array.size_ofFn.trans hs.size.symm
  obtain ⟨hid, hslot⟩ : x.id.number < 8192 ∧ (Handlers.slot? x.id).isSome = true := by
    rw [Handlers.slot?]
    cases hleads with
    | lpi h hl =>
      obtain ⟨-, rfl⟩ := State.core_reset_iff.mp hc
      simp [Core.ofRegister] at hl
    | own h => exact ⟨by omega, by rw [dif_pos (by omega)]; rfl⟩
    | extendedOwn _ h h' =>
      have hlt : x.id.number < 1024 + o.privateCount := h'
      exact ⟨by omega, by rw [dif_neg (by omega), dif_pos (by omega)]; rfl⟩
    | shared h h' =>
      have hlt : x.id.number < o.sharedLimit := h'
      exact ⟨by omega, by rw [dif_pos (by omega)]; rfl⟩
    | extendedShared h h' =>
      have hlt : x.id.number < 4096 + o.extendedCount := h'
      exact ⟨by omega, by rw [dif_neg (by omega), dif_neg (by omega), dif_pos (by omega)]; rfl⟩
  refine ⟨?_, hid, hslot, p, ?_⟩
  · rw [← hs.size, ← hsize]
    exact (Array.getElem?_eq_some_iff.mp hc).1
  · rw [place?, ← hp]
    exact State.place?_of_sound (.reset o) hs hid x.target

/-- So different jobs are about different places. -/
lemma Apart.place?_ne (h : x.Apart y) (hid : x.id.number < 8192) (hp : x.place? s = some p) :
    y.place? s ≠ some p := by
  intro hp'
  have hnumber : x.id.number = y.id.number :=
    (State.number_of_place? hp).symm.trans (State.number_of_place? hp')
  obtain ⟨hprivate, hne⟩ := h (IntId.ext_number hnumber)
  have hcore : isCoreNumber x.id.number = true := (isCoreNumber_eq hid).trans hprivate
  obtain ⟨i, rfl⟩ := State.own_of_place? hp hid hcore
  obtain ⟨j, hj⟩ := State.own_of_place? hp' (hnumber ▸ hid) (hnumber ▸ hcore)
  exact hne (Place.own.inj hj).1

end Job

namespace Hardware.State

variable {o : Options} {s t : State}

/-! ### Changes by jobs -/

/-- Each job has changed its interrupt, and no other one is different. Another core may be the
current one. -/
structure Alters {H : Type} (f : Job H → Irq → Irq) (l : List (Job H)) (s t : State) : Prop where
  bare : ∃ k < s.cores.size, t.bare = ({ s with current := k } : State).bare
  on {x : Job H} (hx : x ∈ l) {p : Place} (hp : x.place? s = some p) : t.at? p = (s.at? p).map (f x)
  off {p : Place} (hp : ∀ x ∈ l, x.place? s ≠ some p) : t.at? p = s.at? p

namespace Alters

variable {H : Type} {f : Job H → Irq → Irq} {l : List (Job H)} {x : Job H} {p : Place} {k : Nat}

lemma nil (h : s.current < s.cores.size) : Alters f [] s s :=
  ⟨⟨s.current, h, rfl⟩, fun hx => absurd hx List.not_mem_nil, fun _ => rfl⟩

/-- One job, and then others that are about other places. -/
lemma cons (hp : x.place? s = some p) (hne : ∀ y ∈ l, y.place? s ≠ some p)
    (h : Alters f l (({ s with current := k } : State).modify p (f x)) t) : Alters f (x :: l) s t := by
  have hplace (y : Job H) : y.place? (({ s with current := k } : State).modify p (f x)) = y.place? s :=
    place?_modify ..
  obtain ⟨⟨j, hj, hbare⟩, hon, hoff⟩ := h
  refine ⟨⟨j, by simpa using hj, ?_⟩, fun {y} hy p' hp' => ?_, fun {p'} hp' => ?_⟩
  · have hmodify := bare_modify ({ s with current := k } : State) p (f x)
    exact hbare.trans (congrArg (fun u : State => { u with current := j }) hmodify)
  · rcases List.mem_cons.mp hy with rfl | hy
    · obtain rfl : p = p' := Option.some.inj (hp.symm.trans hp')
      rw [hoff fun y hy => (hplace y).symm ▸ hne y hy, at?_modify_self, at?_setCurrent]
    · have hother : p' ≠ p := by
        rintro rfl
        exact hne y hy hp'
      rw [hon hy ((hplace y).trans hp'), at?_modify_of_ne _ _ hother, at?_setCurrent]
  · obtain ⟨hx, hl⟩ := List.forall_mem_cons.mp hp'
    have hother : p' ≠ p := by
      rintro rfl
      exact hx hp
    rw [hoff fun y hy => (hplace y).symm ▸ hl y hy, at?_modify_of_ne _ _ hother, at?_setCurrent]

end Alters

end Hardware.State

/-! ### All that a plan does -/

namespace Gic

variable {H : Type} {g : Gic H} {o : Options} {s : State} {x : Job H} {p : Place}

/-- Every core reaches its own interrupts. -/
lemma owner_eq (hg : g.engine.Drives o) (hs : s.Sound o) {c : Core} (hc : s.cores[s.current]? = some c)
    (hdistinct : o.isRouted = true → o.Distinct)
    (haffinity : o.isRouted = true → c.affinityRegister = o.affinityRegister s.current) (id : IntId) :
    g.owner s id = s.current := by
  rcases hprivate : id.isPrivate with _ | _
  · exact owner_of_shared hg hprivate
  unfold owner
  generalize g.engine = e at hg ⊢
  cases hg with
  | banked => rfl
  | routed ho =>
    simp only [Engine.keeper, hprivate, if_true]
    exact (Routed.home_eq_current hs ho (hdistinct ho) hc (haffinity ho)).2

/-- The core that sets an interrupt up reaches it. -/
lemma reaches_job (hg : g.engine.Drives o) (h : s.Open o g.twoStep) (hfit : o.Fits)
    (hdistinct : o.isRouted = true → o.Distinct) (hx : x.Fits o) (hp : x.place? s = some p) :
    g.Reaches o ({ s with current := x.origin } : State) x.id p := by
  have hcpus : 0 < o.cpus := Nat.zero_lt_of_lt hx.origin
  have hopen := h.setCurrent hx.origin
  obtain ⟨htarget, hid, -⟩ := hx.exists_place hfit h.sound
  obtain ⟨c, hc⟩ := h.exists_core hx.origin
  obtain ⟨c', hc'⟩ := h.exists_core htarget
  have hlpi : x.id.isLpi = false := by
    rw [x.id.isLpi_eq, decide_eq_false_iff_not]
    omega
  have hplace : s.place? x.id.number x.origin = some p := by
    rcases hprivate : x.id.isPrivate with _ | _
    · have hshared : isCoreNumber x.id.number = false := (Job.isCoreNumber_eq hid).trans hprivate
      exact (State.place?_of_shared hshared hc).trans ((State.place?_of_shared hshared hc').symm.trans hp)
    · rw [hx.own hprivate]
      exact hp
  obtain ⟨q, hq⟩ := State.exists_at? (h.sound.options ▸ hfit) hplace
  have himplemented : (({ s with current := x.origin } : State).irq? x.id.number x.origin).isSome
      = true := by
    rw [Option.isSome_iff_exists]
    exact ⟨q, Option.bind_eq_some_iff.mpr ⟨p, hplace, (State.at?_setCurrent ..).trans hq⟩⟩
  have ht := hopen.tends hg hcpus
  refine ⟨hg, hopen.sound, ht.locates, Engine.serves_keeper hg hopen.sound hfit himplemented hlpi, ?_⟩
  rw [owner_eq hg hopen.sound (by exact hc) hdistinct fun _ => (h.core hc).2.2.1]
  exact hplace

/-- Setting one interrupt up. -/
lemma follow_configure (hg : g.engine.Drives o) (h : s.Open o g.twoStep) (hfit : o.Fits)
    (hbanked : o.isRouted = false → o.cpus ≤ 8) (hdistinct : o.isRouted = true → o.Distinct)
    (hx : x.Fits o) (hp : x.place? s = some p) :
    (s.after (.setCurrent x.origin)).follow? (g.configure (x.setup o))
      = some (({ s with current := x.origin } : State).modify p (x.made o)) := by
  obtain ⟨htarget, -⟩ := hx.exists_place hfit h.sound
  obtain ⟨c, hc⟩ := h.exists_core hx.origin
  have haddress (ho : o.isRouted = false) : (o.address x.target).aff0.toNat < 8 := by
    have := hbanked ho
    simp only [Options.address, ho, Bool.false_eq_true, if_false, BitVec.toNat_ofNat]
    omega
  have hputs : Puts (g.configure (x.setup o)) _ p _ :=
    (reaches_job hg h hfit hdistinct hx hp).puts_configure hfit (Option.map_eq_some_iff.mpr ⟨c, hc, rfl⟩)
      fun ho _ ha => Option.some.inj ha ▸ haddress ho
  rw [after_setCurrent h.sound hx.origin]
  exact State.follow?_of_run hputs

variable {l : List (Job H)}

/-- The induction is on the jobs. Each one is about a place of its own, so the others find theirs as
it was. -/
lemma arrange_eq (hg : g.engine.Drives o) (h : s.Open o g.twoStep) (hfit : o.Fits) (hcpus : 0 < o.cpus)
    (hbanked : o.isRouted = false → o.cpus ≤ 8) (hdistinct : o.isRouted = true → o.Distinct)
    (hl : ∀ x ∈ l, x.Fits o) (hapart : l.Pairwise Job.Apart) : ∃ g' t, g.arrange o s l = some (g', t)
      ∧ g'.engine = g.engine ∧ g'.twoStep = g.twoStep
      ∧ (∀ id, g'.handlers.find? id = (Job.handlerOf l id).or (g.handlers.find? id))
      ∧ State.Alters (Job.made o) l s t := by
  induction l generalizing g s with
  | nil => exact ⟨g, s, rfl, rfl, rfl, fun _ => rfl, .nil (h.sound.size ▸ h.sound.current hcpus)⟩
  | cons x l ih =>
    obtain ⟨hx, hl⟩ := List.forall_mem_cons.mp hl
    obtain ⟨hne, hapart⟩ := List.pairwise_cons.mp hapart
    obtain ⟨-, hid, hslot, p, hp⟩ := hx.exists_place hfit h.sound
    obtain ⟨g₁, hinstall⟩ := g.exists_install (some x.handler) hslot
    obtain ⟨hengine, htwo⟩ := parts_of_install hinstall
    have hopen : (({ s with current := x.origin } : State).modify p (x.made o)).Open o g.twoStep :=
      (h.setCurrent hx.origin).of_bare (State.bare_modify ..)
    have hstep := follow_configure (g := g₁) (hengine ▸ hg) (htwo ▸ h) hfit hbanked hdistinct hx hp
    obtain ⟨g', t, harrange, hengine', htwo', hfind, halters⟩ :=
      ih (g := g₁) (hengine ▸ hg) (htwo ▸ hopen) hl hapart
    refine ⟨g', t, ?_, hengine'.trans hengine, htwo'.trans htwo, fun id => ?_,
      .cons hp (fun y hy => (hne y hy).place?_ne hid hp) halters⟩
    · rw [arrange, hinstall]
      show ((s.after (.setCurrent x.origin)).follow? (g₁.configure (x.setup o))).bind _ = _
      rw [hstep]
      exact harrange
    · rw [hfind, find?_install hinstall, Job.handlerOf_cons, Option.or_assoc]
      by_cases hxid : x.id = id
      · simp [hxid]
      · simp [hxid, Ne.symm hxid]

end Gic

/-- Raising the lines changes nothing but that the interrupts are pending. -/
lemma Job.raise?_eq {H : Type} {o : Options} {s : State} {l : List (Job H)} (hs : s.Sound o)
    (hfit : o.Fits) (hcpus : 0 < o.cpus) (hl : ∀ x ∈ l, x.Fits o) (hapart : l.Pairwise Job.Apart) :
    ∃ t, raise? s l = some t ∧ State.Alters (fun _ q => { q with pending := true }) l s t := by
  induction l generalizing s with
  | nil => exact ⟨s, rfl, .nil (hs.size ▸ hs.current hcpus)⟩
  | cons x l ih =>
    obtain ⟨hx, hl⟩ := List.forall_mem_cons.mp hl
    obtain ⟨hne, hapart⟩ := List.pairwise_cons.mp hapart
    obtain ⟨-, hid, -, p, hp⟩ := hx.exists_place hfit hs
    obtain ⟨q, hq⟩ := State.exists_at? (hs.options ▸ hfit) hp
    have hraise := State.raise_of_place hp (Option.isSome_of_mem hq)
    obtain ⟨t, hrest, halters⟩ := ih (hs.of_bare (State.bare_modify ..)) hl hapart
    refine ⟨t, ?_, .cons hp (fun y hy => (hne y hy).place?_ne hid hp) halters⟩
    rw [raise?, hraise]
    exact hrest

end InterruptControl
