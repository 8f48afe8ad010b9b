import InterruptControl.Proofs.CpuInterface.Completion
import InterruptControl.Proofs.Gic.Preemption
import InterruptControl.Proofs.Hardware.Evolution
import InterruptControl.Proofs.Startup.Renewal

/-!
The life of an interrupt, from being acknowledged to being inactive again.

In between it may be raised again, which is not lost, and other interrupts may be acknowledged on
top of it. When these are finished, completing it leaves the core to what it ran before.
-/

namespace InterruptControl

open Bus Hardware Program

namespace Hardware

/-! ### What a core acknowledges and finishes meanwhile -/

/-- The unfinished ones of some interrupts after a deed, unless that finished another one. -/
def Deed.applyOwn : Deed → List Running → Option (List Running)
  | began r, l => some (r :: l)
  | ended id, l => if l.any (·.id == id) then some (l.eraseP (·.id == id)) else none

def settleOwn (d : Option Deed) (l : List Running) : Option (List Running) :=
  d.elim (some l) (·.applyOwn l)

/-- In the course of the events, core `cpu` finishes only what it acknowledges in their course, or
what is in the list. What it leaves unfinished of that, the latest first. -/
def own? (cpu : Nat) : State → List Event → List Running → Option (List Running)
  | _, [], l => some l
  | s, e :: rest, l => (settleOwn (e.deed? s cpu) l).bind (own? cpu (s.after e) rest)

lemma settle_append {d : Option Deed} {l l' : List Running} (h : settleOwn d l = some l')
    (older : List Running) : settle d (l ++ older) = l' ++ older := by
  rcases d with _ | r | id
  · exact congrArg (· ++ older) (Option.some.inj h)
  · exact congrArg (· ++ older) (Option.some.inj h)
  · simp only [settleOwn, Option.elim_some, Deed.applyOwn, Option.ite_none_right_eq_some,
      Option.some.injEq, List.any_eq_true] at h
    obtain ⟨⟨r, hmem, hr⟩, rfl⟩ := h
    exact List.eraseP_append_left (p := (·.id == id)) hr older hmem

namespace State

variable {o : Options} {s t : State} {x : Place} {cpu id : Nat} {e : Nat × Priority} {c : Core}

lemma Sound.foldl (hs : s.Sound o) (l : List Event) : (l.foldl State.after s).Sound o := by
  induction l generalizing s with
  | nil => exact hs
  | cons e rest ih => exact ih (hs.after e)

lemma Sound.exists_core (hs : s.Sound o) (ht : t.Sound o) (hc : s.cores[cpu]? = some c) :
    ∃ d, t.cores[cpu]? = some d := by
  obtain ⟨hlt, -⟩ := Array.getElem?_eq_some_iff.mp hc
  rw [hs.size, ← ht.size] at hlt
  exact ⟨_, Array.getElem?_eq_getElem hlt⟩

/-- What the core ran before stays below what it acknowledges. -/
lemma running_foldl (hs : s.Sound o) (hc : s.cores[cpu]? = some c) {events : List Event}
    {l l' older : List Running} (hrun : c.running = l ++ older) (h : own? cpu s events l = some l') :
    ∃ d, (events.foldl State.after s).cores[cpu]? = some d ∧ d.running = l' ++ older := by
  induction events generalizing s c l with
  | nil =>
    obtain rfl := Option.some.inj h
    exact ⟨c, hc, hrun⟩
  | cons e rest ih =>
    obtain ⟨m, hm, hrest⟩ := Option.bind_eq_some_iff.mp h
    obtain ⟨d, hd⟩ := hs.exists_core (hs.after e) hc
    obtain ⟨c', hc', hturn⟩ := turns_after s e cpu d hd
    obtain rfl : c' = c := Option.some.inj (hc'.symm.trans hc)
    refine ih (hs.after e) hd ?_ hrest
    rw [hturn.running, hrun, settle_append hm]

/-! ### Where it is kept -/

lemma isSome_at?_of_sound (hs : s.Sound o) (ht : t.Sound o) (hx : ∀ cpu n, x ≠ .lpi cpu n)
    (h : (s.at? x).isSome = true) : (t.at? x).isSome = true := by
  cases x with
  | shared i => simpa [at?] using h
  | own cpu i =>
    obtain ⟨q, hq⟩ := Option.isSome_iff_exists.mp h
    obtain ⟨c, hc, hget⟩ := Option.bind_eq_some_iff.mp hq
    obtain ⟨d, hd⟩ := hs.exists_core ht hc
    have hi : i < 96 := (Vector.getElem?_eq_some_iff.mp hget).1
    simp [at?, hd, hi]
  | lpi cpu n => exact absurd rfl (hx cpu n)

/-- However often it is raised, by whatever core that sees it. -/
lemma foldl_raise (hx : (s.at? x).isSome = true) {l : List Nat}
    (hl : ∀ cpu ∈ l, s.place? id cpu = some x) : (l.map (Event.raise id)).foldl State.after s
      = s.modify x fun q => { q with pending := q.pending || !l.isEmpty } := by
  induction l generalizing s with
  | nil => exact (modify_eq_self fun q _ => by simp).symm
  | cons cpu rest ih =>
    have hafter : s.after (.raise id cpu) = s.modify x fun q => { q with pending := true } := by
      rw [State.after, raise_of_place (hl cpu (List.mem_cons_self ..)) hx]
      rfl
    rw [List.map_cons, List.foldl_cons, hafter, ih (by simpa using hx), modify_modify]
    · simp
    · intro k hk
      rw [place?_modify]
      exact hl k (List.mem_cons_of_mem _ hk)

/-! ### From acknowledging to completing -/

/-- An interrupt that is active is not touched by acknowledging. -/
lemma ActiveAt.at?_acknowledge (h : s.ActiveAt x) (cpu : Nat) :
    (s.acknowledge cpu).2.at? x = s.at? x := by
  unfold acknowledge
  split
  · rfl
  next e hn => rw [at?_take, if_neg (h.ne_of_next? hn)]

lemma dropPriority_modify (hs : s.Sound o) (f : Irq → Irq) :
    (s.dropPriority cpu id).modify x f = (s.modify x f).dropPriority cpu id := by
  have hsound : (s.modify x f).Sound o := hs.of_bare (bare_modify ..)
  have hdrop : ((s.modify x f).dropPriority cpu id).Sound o :=
    hsound.modifyCore fun c hc => hc.of_kept rfl
  refine (eq_of_at? hdrop ?_ fun p => ?_).symm
  · rw [bare_modify, bare_dropPriority, bare_dropPriority, bare_modify]
  · simp only [at?_dropPriority, at?_modify]

/-- Core `cpu` has taken the interrupt at `x`, and it was raised again or not. -/
def takeAgain (s : State) (cpu : Nat) (e : Nat × Priority) (x : Place) (again : Bool) : State :=
  (s.take cpu e).modify x fun q => { q with pending := q.pending || again }

lemma bare_takeAgain (again : Bool) : (s.takeAgain cpu e x again).bare = (s.take cpu e).bare :=
  bare_modify ..

lemma current_takeAgain (again : Bool) : (s.takeAgain cpu e x again).current = s.current :=
  (current_modify ..).trans (agree_take ..).current

lemma modify_takeAgain (again more : Bool) : (s.takeAgain cpu e x again).modify x
      (fun q => { q with pending := q.pending || more })
    = s.takeAgain cpu e x (again || more) := by
  simp only [takeAgain, modify_modify, Bool.or_assoc]

/-- When it is completed and inactive it is as it was, but pending only if it was raised again. -/
lemma modify_dropPriority_takeAgain {q : Irq} (hs : s.Sound o) (hp : s.place? e.1 cpu = some x)
    (hq : s.at? x = some q) (hinactive : q.active = false) (again : Bool) :
    ((s.takeAgain cpu e x again).dropPriority cpu e.1).modify x
        (fun q => { q with active := false })
      = s.modify x fun q => { q with pending := again } := by
  refine (eq_of_at? (hs.of_bare (bare_modify ..)) ?_ fun p => ?_).symm
  · rw [bare_modify, bare_modify, bare_dropPriority_of_take (bare_takeAgain again)]
  · rcases eq_or_ne p x with rfl | hne
    · simp [at?_dropPriority, takeAgain, at?_take, hp, hq, hinactive]
    · rw [at?_modify_of_ne _ _ hne, at?_modify_of_ne _ _ hne, at?_dropPriority, takeAgain,
        at?_modify_of_ne _ _ hne, at?_take, hp, if_neg fun he => hne (Option.some.inj he).symm]

/-- What the core ran last is ended. -/
lemma exists_ended (hc : s.cores[cpu]? = some c) {r : Running} {older : List Running}
    (hrunning : c.running = r :: older) (hp : s.place? r.id cpu = some x) (twoStep : Bool) :
    ∃ d, (s.ended cpu r.id twoStep).cores[cpu]? = some d ∧ d.running = older
      ∧ (s.ended cpu r.id twoStep).at? x
        = (s.at? x).map fun q => { q with active := q.active && twoStep } := by
  have hdrop : (s.dropPriority cpu r.id).cores[cpu]? = some { c with running := older } := by
    simp [dropPriority, getElem?_modifyCore, hc, hrunning]
  rcases twoStep with _ | _
  · obtain ⟨d, hd, he⟩ := exists_core_of_bare
      (s := s.dropPriority cpu r.id) (t := s.ended cpu r.id false) (bare_modifyIrq ..).symm hdrop
    refine ⟨d, hd, (congrArg Core.running he :).symm, ?_⟩
    rw [ended, if_neg Bool.false_ne_true, at?_modifyIrq, place?_dropPriority, if_pos hp,
      at?_dropPriority]
    simp only [Bool.and_false]
  · refine ⟨_, hdrop, rfl, ?_⟩
    rw [ended, if_pos rfl, at?_dropPriority]
    simp only [Bool.and_true, Option.map_id']

end State

end Hardware

namespace CpuInterface

variable {o : Options} {s t : State} {c : Core} {a : Ack}

/-! ### The calls -/

lemma run_acknowledge (hs : s.Sound o) (hc : s.cores[s.current]? = some c)
    (hlt : ∀ e, s.next? s.current = some e → e.1 < 0x1000000) :
    (acknowledge s.isRouted).run Board.answer (.controller s)
      = (.ok ((s.next? s.current).map fun e => s.ack e.1), .controller (s.taken s.current)) := by
  rcases hr : s.isRouted with _ | _
  · exact Banked.CpuInterface.run_acknowledge hr hc hs
  · exact Routed.CpuInterface.run_acknowledge_of_lt hr hc hs hlt

/-- The number is that of an interrupt which is no LPI, and fits into the registers. -/
structure Fits (routed : Bool) (a : Ack) : Prop where
  lt : a.id.number < 8192
  banked : routed = false → a.id.number < 1020
  notSpecial : ¬ (1020 ≤ a.id.number ∧ a.id.number < 1024)

lemma Fits.isSpecial {routed : Bool} (h : Fits routed a) : a.id.isSpecial = false := by
  rw [Bool.eq_false_iff, ne_eq, IntId.isSpecial_iff]
  exact h.notSpecial

/-- Completing what the core runs last. -/
lemma run_complete (ha : Fits t.isRouted a) (hc : t.cores[t.current]? = some c) {r : Running}
    {rest : List Running} (hrunning : c.running = r :: rest) (hid : r.id = a.id.number) :
    (complete t.isRouted a).run Board.answer (.controller t)
      = (.ok (), .controller (t.ended t.current a.id.number (c.twoStep t.isRouted))) := by
  have hend := State.endInterrupt_of_running hc hrunning hid ha.notSpecial (c.twoStep t.isRouted)
  rcases hr : t.isRouted with _ | _ <;> rw [hr] at hend
  · refine (Banked.CpuInterface.run_complete hr hc ((ha.banked hr).trans (by decide))
      ha.isSpecial).trans ?_
    rw [hend]
  · refine (Routed.CpuInterface.run_complete hc (ha.lt.trans (by decide)) ha.isSpecial).trans ?_
    rw [hend]

lemma run_deactivate (ha : Fits t.isRouted a) (hc : t.cores[t.current]? = some c) :
    (deactivate t.isRouted a).run Board.answer (.controller t) = (.ok (), .controller
      (t.modifyIrq a.id.number t.current fun q => { q with active := false })) := by
  have hdone : t.deactivate t.current a.id.number
      = .ok (t.modifyIrq a.id.number t.current fun q => { q with active := false }) :=
    State.deactivate_of_lt ha.lt ha.notSpecial
  rcases hr : t.isRouted with _ | _
  · refine (Banked.CpuInterface.run_deactivate hr ((ha.banked hr).trans (by decide))
      ha.isSpecial).trans ?_
    rw [hdone]
  · refine (Routed.CpuInterface.run_deactivate hc (ha.lt.trans (by decide)) ha.isSpecial).trans ?_
    rw [hdone]

/-! ### An interrupt that is given to a core -/

/-- The current core, which is `c`, acknowledges an interrupt that is no LPI. It is `q`, and is
kept at `x`. -/
structure Given (o : Options) (s : State) (c : Core) (e : Nat × Priority) (x : Place) (q : Irq) :
    Prop where
  sound : s.Sound o
  core : s.cores[s.current]? = some c
  next : s.next? s.current = some e
  lt : e.1 < 8192
  place : s.place? e.1 s.current = some x
  irq : s.at? x = some q
  inactive : q.active = false

namespace Given

variable {e : Nat × Priority} {x : Place} {q : Irq}

lemma of_next? (hs : s.Sound o) (hc : s.cores[s.current]? = some c)
    (hn : s.next? s.current = some e) (hlt : e.1 < 8192) : ∃ x q, Given o s c e x q := by
  obtain ⟨_, q, _, _, hq, _, hel⟩ := State.irq?_of_next? hn
  obtain ⟨x, hx, hat⟩ := Option.bind_eq_some_iff.mp hq
  exact ⟨x, q, hs, hc, hn, hlt, hx, hat, (State.eligible_iff.mp hel).2.2.1⟩

variable (h : Given o s c e x q)
include h

lemma ne_lpi (cpu n : Nat) : x ≠ .lpi cpu n := by
  rintro rfl
  obtain ⟨_, _, hleads⟩ := State.leadsTo_of_place? h.place
  cases hleads with
  | lpi hge => exact absurd hge (Nat.not_le.mpr h.lt)

lemma number : (s.ack e.1).id.number = e.1 := IntId.number_ofNat (h.lt.trans (by decide))

lemma fits : Fits s.isRouted (s.ack e.1) := by
  obtain ⟨hbanked, hspecial, -⟩ := State.number_of_next? h.sound h.core h.next
  refine ⟨?_, ?_, ?_⟩ <;> rw [h.number]
  · exact h.lt
  · exact hbanked
  · exact hspecial

lemma sound_take : (s.take s.current e).Sound o :=
  h.sound.of_agree ((State.agree_take ..).mono fun _ _ => Core.kept_of_wired)

lemma at?_take : (s.take s.current e).at? x = some { q with pending := false, active := true } := by
  simp [State.at?_take, h.place, h.irq, h.lt]

lemma running_take : ∃ d, (s.take s.current e).cores[s.current]? = some d
    ∧ d.running = ⟨e.1, e.2⟩ :: c.running := State.running_of_take rfl h.core

section Later

variable (ht : t.Sound o)
include ht

lemma place?_eq (cpu : Nat) : t.place? e.1 cpu = s.place? e.1 cpu :=
  State.place?_of_sound h.sound ht h.lt cpu

lemma isSome_at? : (t.at? x).isSome = true :=
  State.isSome_at?_of_sound h.sound ht h.ne_lpi (by rw [h.irq]; rfl)

lemma isRouted_eq : t.isRouted = s.isRouted := ht.isRouted.trans h.sound.isRouted.symm

lemma exists_current : ∃ d, t.cores[t.current]? = some d := by
  obtain ⟨hlt, -⟩ := Array.getElem?_eq_some_iff.mp h.core
  have hcurrent := ht.current (Nat.zero_lt_of_lt (h.sound.size ▸ hlt))
  rw [← ht.size] at hcurrent
  exact ⟨_, Array.getElem?_eq_getElem hcurrent⟩

/-- Acknowledging leaves it alone while it is active. -/
lemma perform_acknowledge (hactive : t.ActiveAt x) :
    (t.perform (acknowledge s.isRouted)).2.at? x = t.at? x := by
  obtain ⟨d, hd⟩ := h.exists_current ht
  have hstate : (t.perform (acknowledge s.isRouted)).2 = (t.acknowledge t.current).2 := by
    rw [State.perform]
    rcases hr : s.isRouted with _ | _
    · rw [acknowledge, if_neg Bool.false_ne_true, Banked.CpuInterface.run_readAcknowledge
        ((h.isRouted_eq ht).trans hr) hd]
      rfl
    · rw [acknowledge, if_pos rfl, Routed.CpuInterface.run_readAcknowledge hd]
      rfl
  rw [hstate, hactive.at?_acknowledge]

lemma run_deactivate (hx : s.place? e.1 t.current = some x) :
    (deactivate s.isRouted (s.ack e.1)).run Board.answer (.controller t)
      = (.ok (), .controller (t.modify x fun q => { q with active := false })) := by
  obtain ⟨d, hd⟩ := h.exists_current ht
  have hr := h.isRouted_eq ht
  have hrun := CpuInterface.run_deactivate (t := t) (hr ▸ h.fits) hd
  have hplace : t.place? e.1 t.current = some x := (h.place?_eq ht _).trans hx
  rw [hr, h.number, State.modifyIrq_of_place _ _ hplace] at hrun
  exact hrun

/-- If it is what the core runs last, completing it drops its priority. -/
lemma run_complete (hcurrent : t.current = s.current) {d : Core}
    (hd : t.cores[s.current]? = some d) {rest : List Running}
    (hrunning : d.running = ⟨e.1, e.2⟩ :: rest) :
    (complete s.isRouted (s.ack e.1)).run Board.answer (.controller t)
      = (.ok (), .controller (t.ended s.current e.1 (d.twoStep s.isRouted))) := by
  have hr := h.isRouted_eq ht
  have hrun := CpuInterface.run_complete (t := t) (hr ▸ h.fits) (hcurrent.symm ▸ hd) hrunning
    h.number.symm
  rw [hr, h.number, hcurrent] at hrun
  exact hrun

end Later

/-- What the core ran before is restored, when it has finished all that it acknowledged since. -/
lemma exists_completed {l : List Event} (ht : l.foldl State.after (s.take s.current e) = t)
    (hcurrent : t.current = s.current)
    (hown : own? s.current (s.take s.current e) l [] = some []) :
    ∃ v d, (complete s.isRouted (s.ack e.1)).run Board.answer (.controller t)
        = (.ok (), .controller v)
      ∧ v.cores[s.current]? = some d ∧ d.running = c.running
      ∧ v.at? x = (t.at? x).map fun q =>
          { q with active := q.active && t.twoStep s.isRouted } := by
  have hsound : t.Sound o := ht ▸ h.sound_take.foldl l
  obtain ⟨d, hd, hrunning⟩ := h.running_take
  obtain ⟨d, hd, hrunning⟩ := State.running_foldl h.sound_take hd (l := []) hrunning hown
  rw [ht] at hd
  have htwo : t.twoStep s.isRouted = d.twoStep s.isRouted :=
    State.twoStep_eq (hcurrent.symm ▸ hd) s.isRouted
  obtain ⟨d', hd', hrestored, hat⟩ := State.exists_ended hd hrunning
    ((h.place?_eq hsound _).trans h.place) (d.twoStep s.isRouted)
  exact ⟨_, d', h.run_complete hsound hcurrent hd hrunning, hd', hrestored, htwo ▸ hat⟩

lemma sound_takeAgain (again : Bool) : (s.takeAgain s.current e x again).Sound o :=
  h.sound_take.of_bare (State.bare_takeAgain again)

/-- Raised again or not, it is completed. -/
lemma run_complete_takeAgain (again : Bool) : (complete s.isRouted (s.ack e.1)).run Board.answer
      (.controller (s.takeAgain s.current e x again)) = (.ok (), .controller
        ((s.takeAgain s.current e x again).ended s.current e.1 (c.twoStep s.isRouted))) := by
  obtain ⟨d, hd, he⟩ := State.core_of_take (State.bare_takeAgain (x := x) again) h.core
  have hrunning : d.running = ⟨e.1, e.2⟩ :: c.running := (congrArg Core.running he :)
  have htwo : d.twoStep s.isRouted = c.twoStep s.isRouted :=
    (congrArg (Core.twoStep s.isRouted) he :)
  rw [← htwo]
  exact h.run_complete (h.sound_takeAgain again) (State.current_takeAgain again) hd hrunning

lemma run_oneStep (hone : c.twoStep s.isRouted = false) (again : Bool) :
    (complete s.isRouted (s.ack e.1)).run Board.answer
        (.controller (s.takeAgain s.current e x again))
      = (.ok (), .controller (s.modify x fun q => { q with pending := again })) := by
  have hplace : ((s.takeAgain s.current e x again).dropPriority s.current e.1).place? e.1 s.current
      = some x := by
    rw [State.place?_dropPriority, h.place?_eq (h.sound_takeAgain again), h.place]
  rw [h.run_complete_takeAgain, hone, State.ended, if_neg Bool.false_ne_true,
    State.modifyIrq_of_place _ _ hplace,
    State.modify_dropPriority_takeAgain h.sound h.place h.irq h.inactive]

/-- In two steps it may be raised between them, too. -/
lemma run_twoStep (again more : Bool) :
    (deactivate s.isRouted (s.ack e.1)).run Board.answer (.controller
        (((s.takeAgain s.current e x again).ended s.current e.1 true).modify x
          fun q => { q with pending := q.pending || more }))
      = (.ok (), .controller (s.modify x fun q => { q with pending := again || more })) := by
  have hended : ((s.takeAgain s.current e x again).ended s.current e.1 true).modify x
      (fun q => { q with pending := q.pending || more })
      = (s.takeAgain s.current e x (again || more)).dropPriority s.current e.1 := by
    rw [State.ended, if_pos rfl, State.dropPriority_modify (h.sound_takeAgain again),
      State.modify_takeAgain]
  have hsound : ((s.takeAgain s.current e x (again || more)).dropPriority s.current e.1).Sound o :=
    (h.sound_takeAgain _).modifyCore fun c hc => hc.of_kept rfl
  have hcurrent : s.place? e.1
      ((s.takeAgain s.current e x (again || more)).dropPriority s.current e.1).current = some x := by
    rw [show ((s.takeAgain s.current e x (again || more)).dropPriority s.current e.1).current
      = s.current from State.current_takeAgain _, h.place]
  rw [hended, h.run_deactivate hsound hcurrent,
    State.modify_dropPriority_takeAgain h.sound h.place h.irq h.inactive]

lemma foldl_raise {l : List Nat} (hl : ∀ cpu ∈ l, s.place? e.1 cpu = some x) :
    (l.map (Event.raise e.1)).foldl State.after (s.take s.current e)
      = s.takeAgain s.current e x !l.isEmpty := by
  refine State.foldl_raise (h.isSome_at? h.sound_take) fun cpu hcpu => ?_
  rw [State.place?_take]
  exact hl cpu hcpu

end Given

/-- What can become of an interrupt that the current core is given, which leaves `u` of `s`. The
software is told it as `a`, and it is kept at `x`. -/
structure Lifecycle (s u : State) (a : Ack) (x : Place) : Prop where
  place : s.place? a.id.number s.current = some x
  /-- It is active and not pending. -/
  taken : ∃ q, u.at? x = some q ∧ q.active = true ∧ q.pending = false
  /-- Whenever it is raised again, it is pending, and nothing else changes. -/
  raised (l : List Event) (cpu : Nat) (hx : s.place? a.id.number cpu = some x) :
    let t := l.foldl State.after u
    t.raise a.id.number cpu = .ok (t.modify x fun q => { q with pending := true })
  /-- As long as it is active, no core is given it, and acknowledging does not touch it. -/
  held (l : List Event) : let t := l.foldl State.after u
    t.ActiveAt x → (∀ cpu e, t.next? cpu = some e → t.place? e.1 cpu ≠ some x)
      ∧ (t.perform (acknowledge s.isRouted)).2.at? x = t.at? x
  /-- When the core has finished what it acknowledged since, and nothing older, completing the
  interrupt restores what the core ran before, and makes it inactive unless that takes two steps. -/
  completed (l : List Event) : let t := l.foldl State.after u
    t.current = s.current → own? s.current u l [] = some [] →
      ∃ v c d, (complete s.isRouted a).run Board.answer (.controller t) = (.ok (), .controller v)
        ∧ s.cores[s.current]? = some c ∧ v.cores[s.current]? = some d
        ∧ d.running = c.running ∧ d.runningPriority = c.runningPriority
        ∧ v.at? x = (t.at? x).map fun q =>
            { q with active := q.active && t.twoStep s.isRouted }
  /-- It stays active until an access makes it inactive. -/
  stays (t : State) (l : List Event) (hl : State.Undisturbed x t l) (ht : t.ActiveAt x) :
    (l.foldl State.after t).ActiveAt x
  /-- Deactivating does that, from every core that sees it. -/
  deactivated (l : List Event) : let t := l.foldl State.after u
    s.place? a.id.number t.current = some x →
      (deactivate s.isRouted a).run Board.answer (.controller t)
        = (.ok (), .controller (t.modify x fun q => { q with active := false }))
  /-- Acknowledging and completing in one step leaves everything as it was, but the interrupt is
  pending exactly if it was raised in between. -/
  oneStep (hone : s.twoStep s.isRouted = false) (l : List Nat)
    (hl : ∀ cpu ∈ l, s.place? a.id.number cpu = some x) :
    (complete s.isRouted a).run Board.answer
        (.controller ((l.map (Event.raise a.id.number)).foldl State.after u))
      = (.ok (), .controller (s.modify x fun q => { q with pending := !l.isEmpty }))
  /-- So does acknowledging, completing and deactivating. -/
  twoStep (htwo : s.twoStep s.isRouted = true) (l l' : List Nat)
    (hl : ∀ cpu ∈ l ++ l', s.place? a.id.number cpu = some x) :
    ∃ v, (complete s.isRouted a).run Board.answer
          (.controller ((l.map (Event.raise a.id.number)).foldl State.after u))
        = (.ok (), .controller v)
      ∧ (deactivate s.isRouted a).run Board.answer
          (.controller ((l'.map (Event.raise a.id.number)).foldl State.after v))
        = (.ok (), .controller (s.modify x fun q => { q with pending := !(l ++ l').isEmpty }))

lemma Given.lifecycle {e : Nat × Priority} {x : Place} {q : Irq} (h : Given o s c e x q) :
    Lifecycle s (s.take s.current e) (s.ack e.1) x where
  place := h.number.symm ▸ h.place
  taken := ⟨_, h.at?_take, rfl, rfl⟩
  raised l cpu hx := by
    have ht := h.sound_take.foldl l
    rw [h.number] at hx ⊢
    exact State.raise_of_place ((h.place?_eq ht cpu).trans hx) (h.isSome_at? ht)
  held l hactive := ⟨fun _ _ hn => hactive.ne_of_next? hn,
    h.perform_acknowledge (h.sound_take.foldl l) hactive⟩
  completed l hcurrent hown := by
    obtain ⟨v, d, hrun, hd, hrunning, hat⟩ := h.exists_completed rfl hcurrent hown
    exact ⟨v, c, d, hrun, h.core, hd, hrunning, by rw [Core.runningPriority, hrunning]; rfl, hat⟩
  stays _ _ hl := State.holds_foldl h.ne_lpi hl
  deactivated l hx := by
    rw [h.number] at hx
    exact h.run_deactivate (h.sound_take.foldl l) hx
  oneStep hone l hl := by
    rw [State.twoStep_eq h.core] at hone
    rw [h.number] at hl ⊢
    rw [h.foldl_raise hl]
    exact h.run_oneStep hone _
  twoStep htwo l l' hl := by
    rw [State.twoStep_eq h.core] at htwo
    rw [h.number] at hl ⊢
    obtain ⟨hl, hl'⟩ := List.forall_mem_append.mp hl
    rw [h.foldl_raise hl]
    have hcomplete := h.run_complete_takeAgain !l.isEmpty
    rw [htwo] at hcomplete
    refine ⟨_, hcomplete, ?_⟩
    have hsound : ((s.takeAgain s.current e x !l.isEmpty).ended s.current e.1 true).Sound o :=
      (h.sound_takeAgain _).modifyCore fun c hc => hc.of_kept rfl
    rw [State.foldl_raise (h.isSome_at? hsound)
      fun cpu hcpu => (h.place?_eq hsound cpu).trans (hl' cpu hcpu), h.run_twoStep]
    cases l <;> rfl

/-- Whatever state it is in, an interrupt that a core acknowledges and that is no LPI is kept until
it is completed, in one step or in two, and none that is raised meanwhile is lost. -/
theorem lifecycle_respected (hs : Reachable o s) (hc : s.cores[s.current]? = some c)
    (hlpi : ∀ e, s.next? s.current = some e → e.1 < 8192) {b : Board}
    (hack : (acknowledge s.isRouted).run Board.answer (.controller s) = (.ok (some a), b)) :
    ∃ u x, b = .controller u ∧ Lifecycle s u a x := by
  rw [run_acknowledge hs.sound hc fun e he => (hlpi e he).trans (by decide)] at hack
  obtain ⟨htold, hleft⟩ := Prod.mk.inj hack
  obtain ⟨e, hn, rfl⟩ := Option.map_eq_some_iff.mp (Except.ok.inj htold)
  obtain ⟨x, q, h⟩ := Given.of_next? hs.sound hc hn (hlpi e hn)
  have htaken : s.taken s.current = s.take s.current e := by rw [State.taken, hn]
  exact ⟨_, x, hleft.symm.trans (congrArg _ htaken), h.lifecycle⟩

set_option maxRecDepth 100000 in
theorem lifecycle_respected_reraised :
    let s := bankedService.dropLast.foldl State.after (.reset .banked)
    ∃ u, (acknowledge false).run Board.answer (.controller s) = (.ok (some (s.ack 33)), .controller u)
      ∧ (complete false (s.ack 33)).run Board.answer
          (.controller (([0, 3].map (Event.raise 33)).foldl State.after u))
        = (.ok (), .controller (s.modify (.shared 33) fun q => { q with pending := true })) := by
  intro s
  have hs : Reachable .banked s := Reachable.reset.foldl _
  have hfacts : s.isRouted = false ∧ s.cores[s.current]?.isSome = true
      ∧ s.next? s.current = some (33, 0) ∧ (s.ack 33).id.number = 33 ∧ s.twoStep s.isRouted = false
      ∧ s.place? 33 0 = some (.shared 33) ∧ s.place? 33 3 = some (.shared 33)
      ∧ s.current = 0 := by decide +kernel
  obtain ⟨hr, hcore, hn, hnumber, hone, hx, hx', hcurrent⟩ := hfacts
  obtain ⟨c, hc⟩ := Option.isSome_iff_exists.mp hcore
  have hlpi : ∀ e, s.next? s.current = some e → e.1 < 8192 := by
    intro e he
    obtain rfl : (33, 0) = e := Option.some.inj (hn.symm.trans he)
    decide
  have hack := run_acknowledge hs.sound hc fun e he => (hlpi e he).trans (by decide)
  rw [hn, Option.map_some] at hack
  obtain ⟨u, x, hu, hlife⟩ := lifecycle_respected hs hc hlpi hack
  obtain rfl : x = .shared 33 := by
    have hplace := hlife.place
    rw [hnumber, hcurrent, hx] at hplace
    exact (Option.some.inj hplace).symm
  have hdone := hlife.oneStep hone [0, 3] (by rw [hnumber]; simp [hx, hx'])
  rw [hnumber, hr] at hdone
  exact ⟨u, by rw [← hr, hack, hu], hdone⟩

/-- An LPI whose number the acknowledge register has no room for, pending on core 0. -/
def wideLpi : List Event :=
  [.access (.write .word Region.distributor.base 2),
    .access (.write .word Region.redistributors.base 1), .raiseLpi 0x1000021 16 0,
    .access (.writeSystem .systemEnable 1), .access (.writeSystem .groupEnable1 1),
    .access (.writeSystem .priorityMask 0xff)]

set_option maxRecDepth 100000 in
/-- An LPI may be told as another interrupt, which does not become active. And what a core ran
before is not restored if it was finished meanwhile. -/
theorem lifecycle_disrespected :
    (∃ s a u, Reachable { Options.routed with lpis := true } s
        ∧ (acknowledge true).run Board.answer (.controller s) = (.ok (some a), .controller u)
        ∧ a.id.number = 33 ∧ a.id.isLpi = false ∧ (u.irq? 33 0).map (·.active) = some false)
      ∧ ∃ s a u v, Reachable .banked s
        ∧ (acknowledge false).run Board.answer (.controller s) = (.ok (some a), .controller u)
        ∧ (complete false a).run Board.answer (.controller
            (u.after (.access (.write .word (Region.interface.base + 0x10) 27))))
          = (.ok (), .controller v)
        ∧ s.cores[0]?.map (·.running) = some [⟨27, 0x80⟩] ∧ v.cores[0]?.map (·.running) = some [] := by
  constructor
  · let s := wideLpi.foldl State.after (.reset { Options.routed with lpis := true })
    have hfacts : s.cores[s.current]?.isSome = true
        ∧ Routed.CpuInterface.decode ((s.acknowledge s.current).1.setWidth 64)
          = some ⟨.ofNat 33, none⟩
        ∧ ((s.acknowledge s.current).2.irq? 33 0).map (·.active) = some false := by decide +kernel
    obtain ⟨hcore, hdecode, hactive⟩ := hfacts
    obtain ⟨c, hc⟩ := Option.isSome_iff_exists.mp hcore
    have hrun := Routed.CpuInterface.run_readAcknowledge hc
    rw [hdecode] at hrun
    exact ⟨s, _, _, Reachable.reset.foldl _, hrun, by decide, by decide, hactive⟩
  · let s := nested.dropLast.foldl State.after (.reset .banked)
    let t := (s.taken s.current).after (.access (.write .word (Region.interface.base + 0x10) 27))
    have hfacts : s.isRouted = false ∧ t.isRouted = false ∧ s.cores[s.current]?.isSome = true
        ∧ s.next? s.current = some (28, 0x40) ∧ (t.perform (complete false (s.ack 28))).1.isOk = true
        ∧ s.cores[0]?.map (·.running) = some [⟨27, 0x80⟩]
        ∧ (t.perform (complete false (s.ack 28))).2.cores[0]?.map (·.running) = some [] := by
      decide +kernel
    obtain ⟨hr, hr', hcore, hn, hok, hbefore, hafter⟩ := hfacts
    obtain ⟨c, hc⟩ := Option.isSome_iff_exists.mp hcore
    have hs : Reachable .banked s := Reachable.reset.foldl _
    have hack := Banked.CpuInterface.run_acknowledge hr hc hs.sound
    rw [hn, Option.map_some] at hack
    exact ⟨s, s.ack 28, _, _, hs, hack,
      (Banked.CpuInterface.confines_complete hr' (s.ack 28)).run_eq hok, hbefore, hafter⟩

end CpuInterface

end InterruptControl
