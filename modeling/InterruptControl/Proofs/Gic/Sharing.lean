import InterruptControl.Proofs.Gic.Sparing

/-!
A shared interrupt is taken by one core at a time, and once for each time that it becomes
pending.

All the cores use one front end, in any order and each as it likes, but they complete only what
they have taken themselves. What they owe is kept as a list of debts. The invariant is that a
shared interrupt which is owed is active, so that no core is given it, and is owed only once.
-/

namespace InterruptControl

open Bus Hardware Program

namespace Hardware.State

variable {s t : State} {c : Core} {cpu id n i : Nat} {f : Irq → Irq}

lemma shared?_modifyCore (g : Core → Core) : (s.modifyCore cpu g).shared? id = s.shared? id := rfl

/-- A change of one interrupt is seen in no other one. -/
lemma shared?_modifyIrq (hc : s.cores[cpu]? = some c) : (s.modifyIrq n cpu f).shared? id =
    if n = id then (s.shared? id).map f else s.shared? id := by
  have hoptions : (s.modifyIrq n cpu f).options = s.options := options_of_bare (bare_modifyIrq ..)
  rw [shared?, shared?, hoptions]
  rcases hi : s.options.index? id with _ | i
  · simp
  · simp only [Option.bind_some, at?_modifyIrq]
    have hplace : s.place? n cpu = some (.shared i) ↔ n = id := by
      constructor
      · intro h
        exact (number_of_place? h).symm.trans (number_of_index? hi)
      · rintro rfl
        rw [place?_of_shared (isCoreNumber_of_index? hi) hc, hi]
        rfl
    simp only [hplace]

lemma Spares.shared? {cleared : Option Nat} (h : s.Spares cleared t) {q : Irq}
    (hq : s.shared? id = some q) : ∃ q', t.shared? id = some q'
      ∧ (q.active = true → q'.active = true)
      ∧ (q.pending = true → cleared ≠ some id → q'.pending = true) := by
  obtain ⟨i, hi, hq⟩ := Option.bind_eq_some_iff.mp hq
  obtain ⟨q', hq', hactive, hpending⟩ := h.shared hq
  rw [number_of_index? hi] at hpending
  exact ⟨q', by rw [State.shared?, h.agree.options, hi]; exact hq', hactive, hpending⟩

/-- A shared interrupt is pending, or active. -/
def Shows (s : State) (f : Flag) (id : Nat) : Prop := ∃ q, s.shared? id = some q ∧ q.get f.field = true

lemma Spares.active {cleared : Option Nat} (h : s.Spares cleared t) (hs : s.Shows .active id) :
    t.Shows .active id := by
  obtain ⟨q, hq, ha⟩ := hs
  obtain ⟨q', hq', hactive, -⟩ := h.shared? hq
  exact ⟨q', hq', hactive ha⟩

lemma Spares.pending {cleared : Option Nat} (h : s.Spares cleared t) (hne : cleared ≠ some id)
    (hs : s.Shows .pending id) : t.Shows .pending id := by
  obtain ⟨q, hq, hp⟩ := hs
  obtain ⟨q', hq', -, hpending⟩ := h.shared? hq
  exact ⟨q', hq', hpending hp hne⟩

/-! ### How the cores complete interrupts -/

/-- All cores complete interrupts in one step, or all in two, and none keeps an LPI whose number
does not fit into the registers. -/
def Prepared (twoStep : Bool) (s : State) : Prop :=
  ∀ (i : Nat) (c : Core), s.cores[i]? = some c →
    c.twoStep s.isRouted = twoStep ∧ ∀ n ∈ c.lpis.map Prod.fst, n < 0x1000000

lemma Prepared.of_agree {twoStep : Bool} (h : s.Prepared twoStep)
    (ha : Agree (Core.manner s.isRouted) s t) : t.Prepared twoStep := by
  intro i c' hc'
  obtain ⟨c, hc, he⟩ := ha.exists_core hc'
  obtain ⟨hmode, hlpis⟩ := Prod.mk.inj he
  rw [ha.isRouted, ← hmode, ← hlpis]
  exact h i c hc

lemma agree_manner_take (cpu : Nat) (e : Nat × Priority) :
    Agree (Core.manner s.isRouted) s (s.take cpu e) :=
  ((Agree.of_bare (bare_modifyIrq ..)).mono fun _ _ he =>
    Core.manner_of_steady (Core.steady_of_bare he)).trans (.modifyCore _ _ fun _ => rfl)

lemma shared?_take (hc : s.cores[cpu]? = some c) (e : Nat × Priority) :
    (s.take cpu e).shared? id = if e.1 = id then (s.shared? id).map fun q =>
      { q with pending := false, active := q.active || decide (e.1 < 8192) } else s.shared? id := by
  rw [take, shared?_modifyCore, shared?_modifyIrq hc]

lemma shows_modifyIrq_of_ne (hc : s.cores[cpu]? = some c) (hne : n ≠ id) {a : Flag}
    (h : s.Shows a id) : (s.modifyIrq n cpu f).Shows a id := by
  obtain ⟨q, hq, ha⟩ := h
  exact ⟨q, by rw [shared?_modifyIrq hc, if_neg hne, hq], ha⟩

/-- Making an interrupt inactive leaves what is pending. -/
lemma pending_release (hc : s.cores[cpu]? = some c) (h : s.Shows .pending id) :
    (s.modifyIrq n cpu fun q => { q with active := false }).Shows .pending id := by
  obtain ⟨q, hq, hp⟩ := h
  by_cases hn : n = id
  · exact ⟨{ q with active := false }, by rw [shared?_modifyIrq hc, if_pos hn, hq]; rfl, hp⟩
  · exact shows_modifyIrq_of_ne hc hn ⟨q, hq, hp⟩

/-- A line that goes up takes nothing away. -/
lemma spares_raise (id cpu : Nat) : s.Spares none (s.after (.raise id cpu)) := by
  rw [after_raise, modifyIrq]
  split
  · exact .modify_of_upholds fun q => ⟨fun h => h, fun _ => rfl⟩
  · exact .refl s

end Hardware.State

/-! ### What the cores do -/

/-- The calls of a front end, but for bring-up and for taking and completing interrupts. -/
inductive Gic.Call where
  | setFlag (f : Flag) (id : IntId) (value : Bool)
  | hasFlag (f : Flag) (id : IntId)
  | setPriority (id : IntId) (p : Priority)
  | priority (id : IntId)
  | setTrigger (id : IntId) (t : Trigger)
  | trigger (id : IntId)
  | configure (c : Setup)
  | routeTo (id : IntId) (a : Affinity)
  | routeToAny (id : IntId)
  | sendToCurrent (id : IntId)
  | sendToAllOther (id : IntId)
  | sendToSet (id : IntId) (l : CpuSet)
  | sendToCluster (id : IntId) (l : ClusterList)
  | setPriorityMask (mask : Priority)
  | priorityMask
  | name

namespace Gic.Call

variable {H : Type}

/-- The call, whatever it answers. -/
def program (g : Gic H) : Call → Program Unit
  | setFlag f id v => g.setFlag f id v
  | hasFlag f id => g.hasFlag f id >>= fun _ => pure ()
  | setPriority id p => g.setPriority id p
  | priority id => g.priority id >>= fun _ => pure ()
  | setTrigger id t => g.setTrigger id t
  | trigger id => g.trigger id >>= fun _ => pure ()
  | configure c => g.configure c
  | routeTo id a => g.routeTo id a
  | routeToAny id => g.routeToAny id
  | sendToCurrent id => g.sendToCurrent id
  | sendToAllOther id => g.sendToAllOther id
  | sendToSet id l => g.sendToSet id l
  | sendToCluster id l => g.sendToCluster id l
  | setPriorityMask mask => g.setPriorityMask mask
  | priorityMask => g.priorityMask >>= fun _ => pure ()
  | name => g.name >>= fun _ => pure ()

/-- The call makes an interrupt inactive. -/
def releases : Call → Bool
  | setFlag .active _ false => true
  | _ => false

/-- The interrupt that the call makes no longer pending. -/
def cleared : Call → Option Nat
  | setFlag f id v => f.cleared v id
  | _ => none

lemma sparing {g : Gic H} {o : Options} (hg : g.engine.Drives o) {c : Call}
    (h : c.releases = false) : (c.program g).Within (Sparing o c.cleared) := by
  cases c with
  | setFlag f id v =>
    refine setFlag_sparing hg id ?_
    cases f <;> cases v <;> simp_all [releases]
  | hasFlag f id => exact .bind (hasFlag_sparing hg f id) fun _ => .pure _
  | setPriority id p => exact setPriority_sparing hg id p
  | priority id => exact .bind (priority_sparing hg id) fun _ => .pure _
  | setTrigger id t => exact setTrigger_sparing hg id t
  | trigger id => exact .bind (trigger_sparing hg id) fun _ => .pure _
  | configure c => exact configure_sparing hg c
  | routeTo id a => exact routeTo_sparing hg id a
  | routeToAny id => exact routeToAny_sparing hg id
  | sendToCurrent id => exact sendToCurrent_sparing hg id
  | sendToAllOther id => exact sendToAllOther_sparing hg id
  | sendToSet id l => exact sendToSet_sparing hg id l
  | sendToCluster id l => exact sendToCluster_sparing hg id l
  | setPriorityMask mask => exact setPriorityMask_sparing hg mask
  | priorityMask => exact .bind (priorityMask_sparing hg) fun _ => .pure _
  | name => exact .bind (name_sparing hg) fun _ => .pure _

end Gic.Call

/-- An interrupt that a core has taken and not completed. Where that takes two steps, the first
one may be done. -/
structure Debt where
  cpu : Nat
  ack : Ack
  ended : Bool
deriving DecidableEq, Repr

def Debt.number (d : Debt) : Nat := d.ack.id.number

/-- A controller, and what its cores owe. -/
structure Scene where
  hardware : State
  owed : List Debt

/-- One thing that happens: another core goes on, a line goes up, an LPI arrives, or the current
core uses the front end. -/
inductive Move where
  | setCurrent (cpu : Nat)
  | raise (id cpu : Nat)
  | raiseLpi (id : Nat) (p : Priority) (cpu : Nat)
  | call (c : Gic.Call)
  | acknowledge
  | complete (a : Ack)
  | deactivate (a : Ack)

/-- The move is a call that is asked to make interrupt `id` no longer pending. -/
def Move.Clears (m : Move) (id : Nat) : Prop :=
  ∃ i : IntId, m = .call (.setFlag .pending i false) ∧ i.number = id

namespace Scene

variable {H : Type} (g : Gic H)

/-- What the current core is told if it acknowledges now. -/
def told? (x : Scene) : Option Ack := (x.hardware.perform g.acknowledge).1.toOption.join

/-- An acknowledge by the current core returns interrupt `id`. -/
def Gives (x : Scene) (id : Nat) : Prop := ∃ a, x.told? g = some a ∧ a.id.number = id

/-- By this move the current core completes what it was told as `a`. -/
def Finishes (x : Scene) (m : Move) (a : Ack) : Prop :=
  if g.twoStep then m = .deactivate a ∧ (x.hardware.perform (g.deactivate a)).1 = .ok ()
  else m = .complete a ∧ (x.hardware.perform (g.complete a)).1 = .ok ()

/-- A step of completing `a` is done, unless it was refused. -/
def settled (x : Scene) (a : Ack) (ended last : Bool) (r : Except Failure Unit × State) : Scene :=
  match r with
  | (.error _, t) => ⟨t, x.owed⟩
  | (.ok _, t) =>
    let rest := x.owed.erase ⟨x.hardware.current, a, ended⟩
    ⟨t, if last then rest else ⟨x.hardware.current, a, true⟩ :: rest⟩

def after (x : Scene) : Move → Scene
  | .setCurrent cpu => { x with hardware := x.hardware.after (.setCurrent cpu) }
  | .raise id cpu => { x with hardware := x.hardware.after (.raise id cpu) }
  | .raiseLpi id p cpu => { x with hardware := x.hardware.after (.raiseLpi id p cpu) }
  | .call c => { x with hardware := (x.hardware.perform (c.program g)).2 }
  | .acknowledge =>
    ⟨(x.hardware.perform g.acknowledge).2,
      ((x.told? g).map fun a => Debt.mk x.hardware.current a false).toList ++ x.owed⟩
  | .complete a => x.settled a false (!g.twoStep) (x.hardware.perform (g.complete a))
  | .deactivate a => x.settled a true true (x.hardware.perform (g.deactivate a))

def run (x : Scene) (l : List Move) : Scene := l.foldl (after g) x

/-- A core completes what it has taken itself: it ends it once and then, where that takes two
steps, deactivates it once. Nobody makes an interrupt inactive in another way. -/
def Allows (x : Scene) : Move → Prop
  | .raiseLpi id _ _ => id < 0x1000000
  | .call c => c.releases = false
  | .complete a => ⟨x.hardware.current, a, false⟩ ∈ x.owed
  | .deactivate a => ⟨x.hardware.current, a, true⟩ ∈ x.owed
  | _ => True

/-- All that happens is allowed. -/
def Fair (x : Scene) : List Move → Prop
  | [] => True
  | m :: l => x.Allows m ∧ Fair (x.after g m) l

instance (x : Scene) : (m : Move) → Decidable (x.Allows m)
  | .raiseLpi id _ _ => inferInstanceAs (Decidable (id < 0x1000000))
  | .call c => inferInstanceAs (Decidable (c.releases = false))
  | .complete a => inferInstanceAs (Decidable (⟨x.hardware.current, a, false⟩ ∈ x.owed))
  | .deactivate a => inferInstanceAs (Decidable (⟨x.hardware.current, a, true⟩ ∈ x.owed))
  | .setCurrent _ | .raise _ _ | .acknowledge => inferInstanceAs (Decidable True)

instance decidableFair (x : Scene) : (l : List Move) → Decidable (Fair g x l)
  | [] => inferInstanceAs (Decidable True)
  | m :: l =>
    have := decidableFair (x.after g m) l
    inferInstanceAs (Decidable (x.Allows m ∧ Fair g (x.after g m) l))

/-! ### The invariant -/

end Scene

/-- Two debts are not for the same shared interrupt. -/
def Debt.Apart (d e : Debt) : Prop := d.number = e.number → isCoreNumber d.number = true

lemma Debt.Apart.symm {d e : Debt} (h : d.Apart e) : e.Apart d := fun he => he ▸ h he.symm

namespace Scene

variable {H : Type} {g : Gic H} {o : Options} {x : Scene} {d : Debt} {s t : State}

/-- Nobody else may take a shared interrupt that is owed, and it is owed once. -/
structure Kept (g : Gic H) (o : Options) (x : Scene) : Prop where
  sound : x.hardware.Sound o
  prepared : x.hardware.Prepared g.twoStep
  told : ∀ d ∈ x.owed, (d.number < if o.isRouted then 0x1000000 else 1024)
    ∧ d.ack.id.isSpecial = false
  active : ∀ d ∈ x.owed, isCoreNumber d.number = false → x.hardware.Shows .active d.number
  apart : x.owed.Pairwise Debt.Apart

namespace Kept

/-- No interrupt is made inactive, and no debt comes or goes. -/
lemma keep (h : x.Kept g o) (ht : t.Sound o) (hp : t.Prepared g.twoStep)
    (ha : ∀ id, x.hardware.Shows .active id → t.Shows .active id) : Kept g o ⟨t, x.owed⟩ :=
  ⟨ht, hp, h.told, fun d hd hid => ha _ (h.active d hd hid), h.apart⟩

/-- There is a core whose turn it is. -/
lemma core (h : x.Kept g o) (hcpus : 0 < o.cpus) :
    ∃ c, x.hardware.cores[x.hardware.current]? = some c := by
  have hlt : x.hardware.current < x.hardware.cores.size := by
    rw [h.sound.size]
    exact h.sound.current hcpus
  exact ⟨_, Array.getElem?_eq_getElem hlt⟩

/-- Of the debts that are left, none is for the same shared interrupt. -/
lemma apart_of_mem_erase (h : x.Kept g o) (hd : d ∈ x.owed) : ∀ e ∈ x.owed.erase d, d.Apart e := by
  have hperm := List.perm_cons_erase hd
  exact (List.pairwise_cons.mp ((hperm.pairwise_iff fun h => Debt.Apart.symm h).mp h.apart)).1

end Kept

/-- What a move can do: the shared interrupts are spared, but for those that a call clears; one
is taken; its priority is dropped; or it is made inactive. -/
inductive Turn (g : Gic H) (o : Options) (x : Scene) (m : Move) : Scene → Prop
  | spare {t : State} {cleared : Option Nat} (ht : t.Sound o) (hp : t.Prepared g.twoStep)
    (hactive : ∀ id, x.hardware.Shows .active id → t.Shows .active id)
    (hpending : ∀ id, cleared ≠ some id → x.hardware.Shows .pending id → t.Shows .pending id)
    (hcleared : ∀ id, cleared = some id → m.Clears id) : Turn g o x m ⟨t, x.owed⟩
  | take {e : Nat × Priority} (hm : m = .acknowledge)
    (hn : x.hardware.next? x.hardware.current = some e) : Turn g o x m
      ⟨x.hardware.take x.hardware.current e,
        ⟨x.hardware.current, x.hardware.ack e.1, false⟩ :: x.owed⟩
  | drop {a : Ack} (hd : ⟨x.hardware.current, a, false⟩ ∈ x.owed) : Turn g o x m
      ⟨x.hardware.dropPriority x.hardware.current a.id.number,
        ⟨x.hardware.current, a, true⟩ :: x.owed.erase ⟨x.hardware.current, a, false⟩⟩
  | release {d : Debt} {t : State} (hd : d ∈ x.owed) (ht : t.Sound o)
    (ha : State.Agree (Core.manner x.hardware.isRouted) x.hardware t)
    (hshared : ∀ id, t.shared? id = x.hardware.shared? id) : Turn g o x m
      ⟨t.modifyIrq d.number x.hardware.current fun q => { q with active := false }, x.owed.erase d⟩

/-! ### What the calls do to the hardware -/

lemma perform_deactivate_refused (htwo : g.twoStep = false) {a : Ack} :
    x.hardware.perform (g.deactivate a) = (.error .assertion, x.hardware) := by
  rw [State.perform, Gic.deactivate, run_require_bind, htwo]
  rfl

section Calls

variable {c : Core} {a : Ack} (h : x.Kept g o) (hg : g.engine.Drives o)
  (hc : x.hardware.cores[x.hardware.current]? = some c)
include h hg hc

lemma perform_acknowledge : x.hardware.perform g.acknowledge =
    (.ok ((x.hardware.next? x.hardware.current).map fun e => x.hardware.ack e.1),
      x.hardware.taken x.hardware.current) := by
  rw [State.perform, Gic.run_acknowledge hg.fronts h.sound hc (h.prepared _ c hc).2]
  rfl

lemma told?_eq :
    x.told? g = (x.hardware.next? x.hardware.current).map fun e => x.hardware.ack e.1 := by
  rw [told?, perform_acknowledge h hg hc]
  rfl

variable (hd : d ∈ x.owed) (ha : d.ack = a)
include hd ha

lemma perform_complete : x.hardware.perform (g.complete a) =
    match x.hardware.endInterrupt x.hardware.current a.id.number g.twoStep with
    | .ok t => (.ok (), t)
    | .error e => (.error (.fault e), x.hardware) := by
  obtain ⟨hlt, hspecial⟩ := h.told d hd
  subst ha
  have hmode := (h.prepared _ c hc).1
  rw [h.sound.isRouted] at hmode
  rw [State.perform, Gic.run_complete hg.fronts h.sound hc hlt hspecial, hmode]
  rcases x.hardware.endInterrupt x.hardware.current d.ack.id.number g.twoStep with e | t <;> rfl

lemma perform_deactivate (htwo : g.twoStep = true) : x.hardware.perform (g.deactivate a) =
    match x.hardware.deactivate x.hardware.current a.id.number with
    | .ok t => (.ok (), t)
    | .error e => (.error (.fault e), x.hardware) := by
  obtain ⟨hlt, hspecial⟩ := h.told d hd
  subst ha
  rw [State.perform, Gic.run_deactivate hg.fronts h.sound hc hlt hspecial htwo]
  rcases x.hardware.deactivate x.hardware.current d.ack.id.number with e | t <;> rfl

end Calls

/-! ### One move -/

section OneMove

variable {m : Move} (h : x.Kept g o)
include h

/-- What leaves all the registers alone that matter here. -/
lemma Turn.of_spares {cleared : Option Nat} (ht : t.Sound o) (hspares : x.hardware.Spares cleared t)
    (hcleared : ∀ id, cleared = some id → m.Clears id) : Turn g o x m ⟨t, x.owed⟩ :=
  .spare ht (h.prepared.of_agree hspares.agree) (fun _ => hspares.active)
    (fun _ => hspares.pending) hcleared

/-- A move that nothing comes of. -/
lemma Turn.unchanged : Turn g o x m x := by
  have hspares : x.hardware.Spares none x.hardware := .refl _
  exact .of_spares h h.sound hspares (by simp)

lemma turn_call (hg : g.engine.Drives o) {c : Gic.Call} (hc : c.releases = false) :
    Turn g o x (.call c) (x.after g (.call c)) := by
  obtain ⟨r, t, hrun, ht, hspares⟩ := Sparing.run (c.sparing hg hc) h.sound
  have hafter : x.after g (.call c) = ⟨t, x.owed⟩ := by
    rw [after, State.perform, hrun]
    rfl
  rw [hafter]
  refine .of_spares h ht hspares fun id hid => ?_
  cases c with
  | setFlag f i v =>
    simp only [Gic.Call.cleared, Flag.cleared] at hid
    split at hid
    next hf =>
      obtain ⟨rfl, rfl⟩ := hf
      exact ⟨i, rfl, Option.some.inj hid⟩
    next => simp at hid
  | _ => simp [Gic.Call.cleared] at hid

lemma turn_outside {e : Event} (he : ∀ id f, x.hardware.Shows f id → (x.hardware.after e).Shows f id)
    (hp : (x.hardware.after e).Prepared g.twoStep) :
    Turn g o x m ⟨x.hardware.after e, x.owed⟩ := by
  have hpending (id : Nat) (_ : (none : Option Nat) ≠ some id) := he id .pending
  exact .spare (h.sound.after e) hp (fun id => he id .active) hpending (by simp)

lemma turn_setCurrent (cpu : Nat) : Turn g o x (.setCurrent cpu) (x.after g (.setCurrent cpu)) := by
  have hsame : ∃ k, x.hardware.after (.setCurrent cpu) = { x.hardware with current := k } := by
    simp only [State.after, State.setCurrent]
    split
    · exact ⟨cpu, rfl⟩
    · exact ⟨x.hardware.current, rfl⟩
  obtain ⟨k, hk⟩ := hsame
  refine turn_outside h (fun id f hs => ?_) ?_ <;> rw [hk]
  · exact hs
  · exact h.prepared

lemma turn_raiseLpi {id : Nat} (hid : id < 0x1000000) (p : Priority) (cpu : Nat) :
    Turn g o x (.raiseLpi id p cpu) (x.after g (.raiseLpi id p cpu)) := by
  refine turn_outside h (fun n f hs => ?_) ?_ <;> simp only [State.after, State.raiseLpi]
  · split
    · exact hs
    · exact hs
  · split
    · intro i c hc
      simp only [State.orElse, State.getElem?_modifyCore] at hc
      split at hc
      · obtain ⟨c₀, hc₀, rfl⟩ := Option.map_eq_some_iff.mp hc
        obtain ⟨hmode, hlpis⟩ := h.prepared i c₀ hc₀
        refine ⟨hmode, fun n hn => ?_⟩
        rcases fst_mem_insertEntry hn with rfl | hn
        · exact hid
        · exact hlpis n hn
      · exact h.prepared i c hc
    · exact h.prepared

variable (hg : g.engine.Drives o) (hcpus : 0 < o.cpus)
include hg hcpus

lemma turn_acknowledge : Turn g o x .acknowledge (x.after g .acknowledge) := by
  obtain ⟨c, hc⟩ := h.core hcpus
  rw [after, told?_eq h hg hc, perform_acknowledge h hg hc, State.taken]
  rcases hn : x.hardware.next? x.hardware.current with _ | e
  · exact .unchanged h
  · exact .take rfl hn

lemma turn_complete {a : Ack} (hd : ⟨x.hardware.current, a, false⟩ ∈ x.owed) :
    Turn g o x (.complete a) (x.after g (.complete a)) := by
  obtain ⟨c, hc⟩ := h.core hcpus
  rw [after, perform_complete h hg hc hd rfl]
  rcases he : x.hardware.endInterrupt x.hardware.current a.id.number g.twoStep with e | t
  · exact .unchanged h
  · rw [State.eq_of_endInterrupt he]
    rcases htwo : g.twoStep with _ | _
    · refine .release (t := x.hardware.dropPriority x.hardware.current a.id.number) hd ?_ ?_ ?_
      · exact h.sound.of_agree (.modifyCore _ _ fun _ => rfl)
      · exact .modifyCore _ _ fun _ => rfl
      · exact fun _ => rfl
    · exact .drop hd

lemma turn_deactivate {a : Ack} (hd : ⟨x.hardware.current, a, true⟩ ∈ x.owed) :
    Turn g o x (.deactivate a) (x.after g (.deactivate a)) := by
  obtain ⟨c, hc⟩ := h.core hcpus
  rcases htwo : g.twoStep with _ | _
  · rw [after, perform_deactivate_refused htwo]
    exact .unchanged h
  rw [after, perform_deactivate h hg hc hd rfl htwo]
  rcases he : x.hardware.deactivate x.hardware.current a.id.number with e | t
  · exact .unchanged h
  · rw [State.eq_of_deactivate he]
    exact .release hd h.sound (.refl _) fun _ => rfl

/-- What every move does that is allowed. -/
lemma turn_after (hm : x.Allows m) : Turn g o x m (x.after g m) := by
  cases m with
  | setCurrent cpu => exact turn_setCurrent h cpu
  | raise id cpu =>
    exact .of_spares h (h.sound.after (.raise id cpu)) (State.spares_raise id cpu) (by simp)
  | raiseLpi id p cpu => exact turn_raiseLpi h hm p cpu
  | call c => exact turn_call h hg hm
  | acknowledge => exact turn_acknowledge h hg hcpus
  | complete a => exact turn_complete h hg hcpus hm
  | deactivate a => exact turn_deactivate h hg hcpus hm

end OneMove

/-- What a core is given is pending and inactive. -/
lemma shows_of_next? {cpu : Nat} {e : Nat × Priority} (hn : s.next? cpu = some e)
    (hid : isCoreNumber e.1 = false) : s.Shows .pending e.1 ∧ ¬ s.Shows .active e.1 := by
  obtain ⟨c, q, hc, -, hq, -, hel⟩ := State.irq?_of_next? hn
  rw [State.irq?_eq_shared? hid hc] at hq
  obtain ⟨hpending, -, hactive, -⟩ := State.eligible_iff.mp hel
  refine ⟨⟨q, hq, hpending⟩, ?_⟩
  rintro ⟨q', hq', ha⟩
  obtain rfl : q = q' := Option.some.inj (hq.symm.trans hq')
  exact Bool.false_ne_true (hactive.symm.trans ha)

/-- A core is given nothing that is owed. -/
lemma ne_of_next? (h : x.Kept g o) {cpu : Nat} {e : Nat × Priority}
    (hn : x.hardware.next? cpu = some e) (hd : d ∈ x.owed) (hid : isCoreNumber e.1 = false) :
    d.number ≠ e.1 := by
  intro he
  have hactive := h.active d hd (he ▸ hid)
  exact (shows_of_next? hn hid).2 (he ▸ hactive)

/-- Once taken, an interrupt is active and no longer pending, and the others are as before. -/
lemma shows_take {cpu : Nat} {c : Core} (hc : s.cores[cpu]? = some c) {e : Nat × Priority}
    (hn : s.next? cpu = some e) (hid : isCoreNumber e.1 = false) :
    (s.take cpu e).Shows .active e.1 ∧ ¬ (s.take cpu e).Shows .pending e.1 := by
  obtain ⟨q, hq, -⟩ := (shows_of_next? hn hid).1
  have hlt : e.1 < 8192 := by
    simp only [isCoreNumber, Bool.or_eq_false_iff, decide_eq_false_iff_not] at hid
    omega
  have hafter : (s.take cpu e).shared? e.1
      = some { q with pending := false, active := q.active || decide (e.1 < 8192) } := by
    rw [State.shared?_take hc, if_pos rfl, hq]
    rfl
  refine ⟨⟨_, hafter, by simp [Irq.get, Flag.field, hlt]⟩, ?_⟩
  rintro ⟨q', hq', hp⟩
  obtain rfl := Option.some.inj (hafter.symm.trans hq')
  exact Bool.false_ne_true hp

lemma shows_take_of_ne {cpu : Nat} {c : Core} (hc : s.cores[cpu]? = some c) {e : Nat × Priority}
    {id : Nat} (hne : e.1 ≠ id) {f : Flag} (h : s.Shows f id) : (s.take cpu e).Shows f id := by
  obtain ⟨q, hq, hf⟩ := h
  exact ⟨q, by rw [State.shared?_take hc, if_neg hne, hq], hf⟩

/-- Every move keeps the invariant. -/
lemma Kept.of_turn (h : x.Kept g o) (hcpus : 0 < o.cpus) {m : Move} {y : Scene}
    (hy : Turn g o x m y) : y.Kept g o := by
  obtain ⟨c, hc⟩ := h.core hcpus
  cases hy with
  | spare ht hp hactive => exact h.keep ht hp hactive
  | @take e hm hn =>
    obtain ⟨hnumber, hlt, hspecial⟩ :=
      State.ack_of_next? h.sound hc (h.prepared _ c hc).2 hn
    have hlt : (x.hardware.ack e.1).id.number < if o.isRouted then 0x1000000 else 1024 := by
      rwa [hnumber]
    refine ⟨?_, h.prepared.of_agree (State.agree_manner_take ..),
      List.forall_mem_cons.mpr ⟨⟨hlt, hspecial⟩, h.told⟩, ?_, ?_⟩
    · exact h.sound.of_agree ((State.agree_take ..).mono fun _ _ => Core.kept_of_wired)
    · refine List.forall_mem_cons.mpr ⟨fun hid => ?_, fun d hd hid => ?_⟩
      · simp only [Debt.number, hnumber] at hid ⊢
        exact (shows_take hc hn hid).1
      · refine shows_take_of_ne hc (fun he => ?_) (h.active d hd hid)
        exact ne_of_next? h hn hd (he ▸ hid) he.symm
    · refine List.pairwise_cons.mpr ⟨fun d hd he => ?_, h.apart⟩
      simp only [Debt.number, hnumber] at he ⊢
      by_contra hid
      exact ne_of_next? h hn hd (Bool.eq_false_iff.mpr hid) he.symm
  | @drop a hd =>
    -- the debt stays, but for what is done of it
    have htold := h.told _ hd
    have hactive := h.active _ hd
    refine ⟨h.sound.of_agree (.modifyCore _ _ fun _ => rfl),
      h.prepared.of_agree (.modifyCore _ _ fun _ => rfl),
      List.forall_mem_cons.mpr ⟨htold, fun d hd' => h.told d (List.mem_of_mem_erase hd')⟩,
      List.forall_mem_cons.mpr ⟨hactive, fun d hd' => h.active d (List.mem_of_mem_erase hd')⟩,
      List.pairwise_cons.mpr ⟨h.apart_of_mem_erase hd, h.apart.sublist List.erase_sublist⟩⟩
  | @release d t hd ht ha hshared =>
    obtain ⟨c', hc', -⟩ := ha.symm.exists_core hc
    refine ⟨ht.of_bare (State.bare_modifyIrq ..), ?_, fun d hd' => h.told d (List.mem_of_mem_erase hd'),
      fun e he hid => ?_, h.apart.sublist List.erase_sublist⟩
    · refine (h.prepared.of_agree ha).of_agree ?_
      exact (State.Agree.of_bare (State.bare_modifyIrq ..)).mono fun _ _ he =>
        Core.manner_of_steady (Core.steady_of_bare he)
    · have hne : d.number ≠ e.number := by
        intro hn
        have hcore := h.apart_of_mem_erase hd e he hn
        rw [hn, hid] at hcore
        exact Bool.false_ne_true hcore
      obtain ⟨q, hq, hactive⟩ := h.active e (List.mem_of_mem_erase he) hid
      exact State.shows_modifyIrq_of_ne hc' hne ⟨q, (hshared _).trans hq, hactive⟩

/-- What is pending stays so unless it is taken or cleared. -/
lemma pending_of_turn (h : x.Kept g o) (hcpus : 0 < o.cpus) {m : Move} {y : Scene}
    (hy : Turn g o x m y) {id : Nat} (hp : x.hardware.Shows .pending id) :
    y.hardware.Shows .pending id ∨ m.Clears id
      ∨ m = .acknowledge ∧ ∃ e, x.hardware.next? x.hardware.current = some e ∧ e.1 = id := by
  obtain ⟨c, hc⟩ := h.core hcpus
  cases hy with
  | @spare t cleared ht _ hactive hpending hcleared =>
    by_cases hid : cleared = some id
    · exact .inr (.inl (hcleared id hid))
    · exact .inl (hpending id hid hp)
  | @take e hm hn =>
    by_cases hid : e.1 = id
    · exact .inr (.inr ⟨hm, e, hn, hid⟩)
    · exact .inl (shows_take_of_ne hc hid hp)
  | drop hd => exact .inl hp
  | @release d t hd ht ha hshared =>
    obtain ⟨c', hc', -⟩ := ha.symm.exists_core hc
    obtain ⟨q, hq, hpending⟩ := hp
    exact .inl (State.pending_release hc' ⟨q, (hshared _).trans hq, hpending⟩)

/-- A debt stays until its core completes the interrupt. -/
lemma owes_after {cpu : Nat} {a : Ack} (h : ∃ b, ⟨cpu, a, b⟩ ∈ x.owed) (m : Move) :
    (∃ b, ⟨cpu, a, b⟩ ∈ (x.after g m).owed)
      ∨ x.hardware.current = cpu ∧ x.Finishes g m a := by
  obtain ⟨b, hb⟩ := h
  have hrest {d : Debt} (hne : Debt.mk cpu a b ≠ d) : Debt.mk cpu a b ∈ x.owed.erase d :=
    (List.mem_erase_of_ne hne).mpr hb
  cases m with
  | setCurrent | raise | raiseLpi | call => exact .inl ⟨b, hb⟩
  | acknowledge => exact .inl ⟨b, List.mem_append_right _ hb⟩
  | complete a' =>
    rw [after]
    rcases hr : x.hardware.perform (g.complete a') with ⟨_ | _, t⟩
    · exact .inl ⟨b, hb⟩
    by_cases hd : Debt.mk cpu a b = ⟨x.hardware.current, a', false⟩
    · obtain ⟨rfl, rfl, -⟩ := Debt.mk.inj hd
      rcases htwo : g.twoStep with _ | _
      · refine .inr ⟨rfl, ?_⟩
        rw [Finishes, htwo, if_neg Bool.false_ne_true, hr]
        exact ⟨rfl, rfl⟩
      · exact .inl ⟨true, List.mem_cons_self ..⟩
    · rcases htwo : g.twoStep with _ | _
      · exact .inl ⟨b, hrest hd⟩
      · exact .inl ⟨b, List.mem_cons_of_mem _ (hrest hd)⟩
  | deactivate a' =>
    rw [after]
    rcases hr : x.hardware.perform (g.deactivate a') with ⟨_ | _, t⟩
    · exact .inl ⟨b, hb⟩
    by_cases hd : Debt.mk cpu a b = ⟨x.hardware.current, a', true⟩
    · obtain ⟨rfl, rfl, -⟩ := Debt.mk.inj hd
      refine .inr ⟨rfl, ?_⟩
      rcases htwo : g.twoStep with _ | _
      · rw [perform_deactivate_refused htwo] at hr
        simp at hr
      · rw [Finishes, htwo, if_pos rfl, hr]
        exact ⟨rfl, rfl⟩
    · exact .inl ⟨b, hrest hd⟩

/-! ### Whole runs -/

lemma run_succ (x : Scene) {l : List Move} {k : Nat} (hk : k < l.length) :
    x.run g (l.take (k + 1)) = (x.run g (l.take k)).after g l[k] := by
  rw [List.take_add_one, List.getElem?_eq_getElem hk, run, List.foldl_append]
  rfl

lemma Fair.at {l : List Move} {k : Nat} (hk : k < l.length) (h : Fair g x l) :
    (x.run g (l.take k)).Allows l[k] := by
  induction l generalizing x k with
  | nil => simp at hk
  | cons m l ih =>
    rcases k with _ | k
    · exact h.1
    · exact ih (Nat.lt_of_succ_lt_succ hk) h.2

/-- The invariant holds all the time. -/
lemma Kept.run (h : x.Kept g o) (hg : g.engine.Drives o) (hcpus : 0 < o.cpus) {l : List Move}
    (hl : Fair g x l) (k : Nat) : (x.run g (l.take k)).Kept g o := by
  induction k with
  | zero => exact h
  | succ k ih =>
    rcases Nat.lt_or_ge k l.length with hk | hk
    · rw [run_succ x hk]
      exact ih.of_turn hcpus (turn_after ih hg hcpus (hl.at hk))
    · rwa [List.take_of_length_le (Nat.le_succ_of_le hk), ← List.take_of_length_le hk]

/-- A change from false to true happens somewhere. -/
lemma exists_rise {p : Nat → Prop} {j k : Nat} (hjk : j ≤ k) (hj : ¬ p j) (hk : p k) :
    ∃ r, j ≤ r ∧ r < k ∧ ¬ p r ∧ p (r + 1) := by
  induction k, hjk using Nat.le_induction with
  | base => exact absurd hk hj
  | succ k hjk ih =>
    by_cases hp : p k
    · obtain ⟨r, h1, h2, h3⟩ := ih hp
      exact ⟨r, h1, Nat.lt_succ_of_lt h2, h3⟩
    · exact ⟨k, hjk, Nat.lt_succ_self k, hp, hk⟩

lemma gives_iff {c : Core} (h : x.Kept g o) (hg : g.engine.Drives o)
    (hc : x.hardware.cores[x.hardware.current]? = some c) {id : Nat} :
    x.Gives g id ↔ ∃ e, x.hardware.next? x.hardware.current = some e ∧ e.1 = id := by
  rw [Gives, told?_eq h hg hc]
  have hnumber {e : Nat × Priority} (hn : x.hardware.next? x.hardware.current = some e) :=
    (State.ack_of_next? h.sound hc (h.prepared _ c hc).2 hn).1
  constructor
  · rintro ⟨a, ha, rfl⟩
    obtain ⟨e, hn, rfl⟩ := Option.map_eq_some_iff.mp ha
    exact ⟨e, hn, (hnumber hn).symm⟩
  · rintro ⟨e, hn, rfl⟩
    exact ⟨_, by rw [hn]; rfl, hnumber hn⟩

/-- While nobody completes what was told as `a`, it is owed. -/
lemma owes_run {l : List Move} {j k cpu : Nat} {a : Ack} (hjk : j ≤ k) (hk : k ≤ l.length)
    (ha : ∃ b, ⟨cpu, a, b⟩ ∈ (x.run g (l.take j)).owed) :
    (∃ b, ⟨cpu, a, b⟩ ∈ (x.run g (l.take k)).owed)
      ∨ ∃ r m, j ≤ r ∧ r < k ∧ l[r]? = some m ∧ (x.run g (l.take r)).hardware.current = cpu
        ∧ (x.run g (l.take r)).Finishes g m a := by
  induction k, hjk using Nat.le_induction with
  | base => exact .inl ha
  | succ k hjk ih =>
    have hlt : k < l.length := hk
    rcases ih (Nat.le_of_succ_le hk) with howes | ⟨r, m, h1, h2, h3⟩
    · rcases owes_after (g := g) howes l[k] with hafter | ⟨hcpu, hfinishes⟩
      · rw [run_succ x hlt]
        exact .inl hafter
      · exact .inr ⟨k, l[k], hjk, Nat.lt_succ_self k, List.getElem?_eq_getElem hlt, hcpu, hfinishes⟩
    · exact .inr ⟨r, m, h1, Nat.lt_succ_of_lt h2, h3⟩

section Run

variable {H : Type} {g : Gic H} {o : Options} {x : Scene} {l : List Move} (h : x.Kept g o)
  (hg : g.engine.Drives o) (hcpus : 0 < o.cpus) (hl : Fair g x l)
include h hg hcpus hl

/-- The hardware before and after an acknowledge that returns interrupt `id`. -/
lemma shows_of_gives {id k : Nat} (hid : isCoreNumber id = false) (hk : l[k]? = some .acknowledge)
    (hgives : (x.run g (l.take k)).Gives g id) :
    (x.run g (l.take k)).hardware.Shows .pending id
      ∧ ¬ (x.run g (l.take (k + 1))).hardware.Shows .pending id := by
  have hkept := h.run hg hcpus hl k
  obtain ⟨c, hc⟩ := hkept.core hcpus
  obtain ⟨e, hn, rfl⟩ := (gives_iff hkept hg hc).mp hgives
  obtain ⟨hlt, hk⟩ := List.getElem?_eq_some_iff.mp hk
  refine ⟨(shows_of_next? hn hid).1, ?_⟩
  rw [run_succ x hlt, hk, after, perform_acknowledge hkept hg hc, State.taken, hn]
  exact (shows_take hc hn hid).2

end Run

end Scene

/-- **A shared interrupt is taken by one core at a time, once per assertion.** The cores of a
controller use one front end and complete it alike, and what they do is fair. Between two
acknowledges of a shared interrupt, on whatever cores, it becomes pending anew, and the core that
has taken it first completes it. What is pending stays so until it is taken or cleared. -/
theorem shared_taken_once {H : Type} {o : Options} {s : State} (hs : Reachable o s)
    (hcpus : 0 < o.cpus) {g : Gic H} (hg : g.engine.Drives o) (hp : s.Prepared g.twoStep)
    {l : List Move} (hl : Scene.Fair g ⟨s, []⟩ l) {id : Nat} (hid : isCoreNumber id = false) :
    let x (k : Nat) := Scene.run g ⟨s, []⟩ (l.take k)
    (∀ j k, j < k → l[j]? = some .acknowledge → (x j).Gives g id →
        l[k]? = some .acknowledge → (x k).Gives g id →
          ∃ r, j < r ∧ r < k ∧ ¬ (x r).hardware.Shows .pending id
            ∧ (x (r + 1)).hardware.Shows .pending id)
      ∧ (∀ j k a, j < k → l[j]? = some .acknowledge → (x j).told? g = some a → a.id.number = id →
        l[k]? = some .acknowledge → (x k).Gives g id →
          ∃ r m, j < r ∧ r < k ∧ l[r]? = some m
            ∧ (x r).hardware.current = (x j).hardware.current ∧ (x r).Finishes g m a)
      ∧ (∀ k m, l[k]? = some m → (x k).hardware.Shows .pending id →
        ¬ (x (k + 1)).hardware.Shows .pending id →
          m.Clears id ∨ m = .acknowledge ∧ (x k).Gives g id) := by
  intro x
  have h : Scene.Kept g o ⟨s, []⟩ := ⟨hs.sound, hp, by simp, by simp, .nil⟩
  refine ⟨fun j k hjk hj hgj hk hgk => ?_, fun j k a hjk hj hgj ha hk hgk => ?_,
    fun k m hm hpending hnot => ?_⟩
  · have hdown := (Scene.shows_of_gives h hg hcpus hl hid hj hgj).2
    have hup := (Scene.shows_of_gives h hg hcpus hl hid hk hgk).1
    obtain ⟨r, hjr, hrk, hrise⟩ :=
      Scene.exists_rise (p := fun k => (x k).hardware.Shows .pending id) hjk hdown hup
    exact ⟨r, hjr, hrk, hrise⟩
  · obtain ⟨hlt, hj⟩ := List.getElem?_eq_some_iff.mp hj
    obtain ⟨hlt', -⟩ := List.getElem?_eq_some_iff.mp hk
    have howes : ∃ b, ⟨(x j).hardware.current, a, b⟩ ∈ (x (j + 1)).owed := by
      refine ⟨false, ?_⟩
      have hafter : x (j + 1) = (x j).after g .acknowledge := hj ▸ Scene.run_succ _ hlt
      rw [hafter, Scene.after, hgj]
      exact List.mem_cons_self ..
    rcases Scene.owes_run hjk hlt'.le howes with ⟨b, hb⟩ | ⟨r, m, hjr, hrk, hrest⟩
    · have hkept := h.run hg hcpus hl k
      obtain ⟨c, hc⟩ := hkept.core hcpus
      obtain ⟨e, hn, rfl⟩ := (Scene.gives_iff hkept hg hc).mp hgk
      exact absurd ha (Scene.ne_of_next? hkept hn hb hid)
    · exact ⟨r, m, hjr, hrk, hrest⟩
  · obtain ⟨hlt, rfl⟩ := List.getElem?_eq_some_iff.mp hm
    have hkept := h.run hg hcpus hl k
    have hturn := Scene.turn_after hkept hg hcpus (hl.at hlt)
    rw [← Scene.run_succ _ hlt] at hturn
    obtain ⟨c, hc⟩ := hkept.core hcpus
    rcases Scene.pending_of_turn hkept hcpus hturn hpending with hstays | hclears | ⟨hack, hgives⟩
    · exact absurd hstays hnot
    · exact .inl hclears
    · exact .inr ⟨hack, (Scene.gives_iff hkept hg hc).mpr hgives⟩

/-- A banked controller whose interrupt 40 is for cores 0 and 1, and pending. -/
def Hardware.State.contended : State :=
  [.access (.write .word Region.distributor.base 3),
    .access (.write .word (Region.distributor.base + 0x104) 0x100),
    .access (.write .byte (Region.distributor.base + 0x400 + 40) 0x80),
    .access (.write .byte (Region.distributor.base + 0x800 + 40) 3), .raise 40 0,
    .access (.write .word Region.interface.base 3),
    .access (.write .word (Region.interface.base + 4) 0xff), .setCurrent 1,
    .access (.write .word Region.interface.base 3),
    .access (.write .word (Region.interface.base + 4) 0xff), .setCurrent 0].foldl
      State.after (.reset .banked)

/-- Both cores want the interrupt. Core 1 has it only after core 0 has completed it and the line
went up again. -/
def contention : List Move :=
  [.acknowledge, .setCurrent 1, .acknowledge, .setCurrent 0, .complete ⟨.ofNat 40, none⟩,
    .raise 40 0, .setCurrent 1, .acknowledge]

set_option maxRecDepth 100000 in
theorem shared_taken_once_in_contention :
    let g : Gic Unit :=
      ⟨.v2, .banked ⟨⟨Region.distributor.base⟩, ⟨Region.interface.base⟩, 0, true⟩, false, .empty⟩
    let x (k : Nat) := Scene.run g ⟨.contended, []⟩ (contention.take k)
    (x 0).told? g = some ⟨.ofNat 40, none⟩ ∧ (x 2).told? g = none
      ∧ (x 7).told? g = some ⟨.ofNat 40, none⟩
      ∧ ∃ r, 0 < r ∧ r < 7 ∧ ¬ (x r).hardware.Shows .pending 40
        ∧ (x (r + 1)).hardware.Shows .pending 40 := by
  intro g x
  have hs : Reachable .banked State.contended := Reachable.reset.foldl _
  have hfirst : (x 0).told? g = some ⟨.ofNat 40, none⟩ := by decide +kernel
  have hlast : (x 7).told? g = some ⟨.ofNat 40, none⟩ := by decide +kernel
  have hfair : Scene.Fair g ⟨.contended, []⟩ contention := by decide +kernel
  have hcores : (State.contended.cores.map fun c => (c.twoStep false, c.lpis)).all
      (· == (false, [])) = true := by decide +kernel
  have hprepared : State.contended.Prepared g.twoStep := by
    intro i c hc
    have hcore := (Array.all_eq_true_iff_forall_mem.mp hcores) (c.twoStep false, c.lpis)
      (Array.mem_map_of_mem (Array.mem_of_getElem? hc))
    obtain ⟨hmode, hlpis⟩ := Prod.mk.inj (beq_iff_eq.mp hcore)
    rw [hs.sound.isRouted, hlpis]
    exact ⟨hmode, by simp⟩
  have hid : isCoreNumber 40 = false := rfl
  have honce := (shared_taken_once hs (by decide) (.banked rfl 0 true) hprepared hfair hid).1 0 7 (by decide) rfl ⟨_, hfirst, rfl⟩ rfl ⟨_, hlast, rfl⟩
  exact ⟨hfirst, by decide +kernel, hlast, honce⟩

end InterruptControl
