import InterruptControl.Proofs.Gic.Lifecycle
import InterruptControl.Proofs.Gic.Preemption

/-!
Which interrupt an acknowledge takes, and that the register which shows it beforehand shows that
one.
-/

namespace InterruptControl

open Bus Hardware Program

namespace Hardware.State

variable {o : Options} {s : State} {c : Core} {id : Nat} {q : Irq}

/-- The current core, which is `c`, may be given interrupt `id`, which is `q`, by what the registers
say about it. -/
structure Eligible (s : State) (c : Core) (id : Nat) (q : Irq) : Prop where
  irq : s.irq? id s.current = some q
  pending : q.pending = true
  enabled : q.enabled = true
  inactive : q.active = false
  group : s.isRouted = true → q.group1 = true
  routed : isCoreNumber id = true ∨
    if s.isRouted then
      q.route.getLsbD 31 = true ∨ packAffinity q.route = packAffinity c.affinityRegister
    else q.targets.getLsbD s.current = true
  unmasked :
    q.priority.toNat < if s.isRouted then c.priorityMask.toNat else c.mappedPriorityMask.toNat
  preempts : ∀ r ∈ c.running, q.priority < r.priority
  lpis : 8192 ≤ id → c.redistributorControl.getLsbD 0 = true

lemma priorityLimit_eq (hg : c.Graded) : s.priorityLimit c
    = if s.isRouted then c.priorityMask.toNat else c.mappedPriorityMask.toNat := by
  have hmask := hg.priorityMask
  unfold priorityLimit
  split
  · rw [BitVec.toNat_setWidth]
    exact Nat.mod_eq_of_lt (by omega)
  · rfl

lemma preempts_iff (hg : c.Graded) {p : Priority} :
    c.preempts p = true ↔ ∀ r ∈ c.running, p < r.priority := by
  refine ⟨hg.lt_of_preempts, fun h => ?_⟩
  unfold Core.preempts
  split
  · rfl
  next r _ hr => exact decide_eq_true (h r (by rw [hr]; exact List.mem_cons_self ..))

/-- While interrupts are forwarded to the core, it may be given exactly the eligible ones. -/
lemma deliverable_iff (hg : c.Graded) (hd : s.deliveryEnabled c = true) :
    s.Deliverable s.current c id q ↔ s.Eligible c id q :=
  ⟨fun h => ⟨h.irq, h.pending, h.enabled, h.inactive, h.group, routedTo_iff.mp h.routed,
      priorityLimit_eq hg ▸ h.unmasked, (preempts_iff hg).mp h.preempts, h.lpis⟩,
    fun h => ⟨h.irq, hd, h.pending, h.enabled, h.inactive, h.group, routedTo_iff.mpr h.routed,
      (priorityLimit_eq hg).symm ▸ h.unmasked, (preempts_iff hg).mpr h.preempts, h.lpis⟩⟩

/-- What is shown of the interrupt that the current core takes next: its number, or a special one if
there is none. -/
def preview (s : State) : IntId := .ofNat (((s.next? s.current).map Prod.fst).getD spuriousNumber)

/-- If interrupts are forwarded, the most urgent one is the next to be taken. -/
lemma highestPending_eq (hc : s.cores[s.current]? = some c) (hd : s.deliveryEnabled c = true) :
    s.highestPending s.current = ((s.next? s.current).map Prod.fst).getD spuriousNumber := by
  have hnext : s.next? s.current = s.highestPending? s.current := by
    simp only [next?, hc, hd, if_true]
  rw [highestPending, hnext]
  rcases s.highestPending? s.current with _ | e <;> rfl

end Hardware.State

/-! ### The number shown beforehand -/

section Preview

variable {o : Options} {s : State} {c : Core} (hc : s.cores[s.current]? = some c)
  (hd : s.deliveryEnabled c = true)
include hc hd

lemma Banked.CpuInterface.run_highestPending (hs : s.Sound o) (hr : s.isRouted = false) :
    onBus.highestPending.run Board.answer (.controller s) = (.ok s.preview, .controller s) := by
  have hread := answer_read hr hc (o := 0x18) (by decide)
  have hlt : ((s.next? s.current).map Prod.fst).getD spuriousNumber < 1024 := by
    rcases hn : s.next? s.current with _ | e
    · decide
    · exact ((State.number_of_next? hs hc hn).1 hr).trans (by decide)
  obtain ⟨x, hx⟩ := acknowledgeWord_eq s s.current (s.highestPending s.current)
  refine (run_bind_ok ((run_read32 ..).trans hread)).trans ?_
  show (Except.ok (IntId.mk (Acknowledge.id.get (s.acknowledgeWord ..))), _) = _
  rw [hx, State.highestPending_eq hc hd, get_id hlt]
  rfl

lemma Routed.CpuInterface.run_highestPending
    (hlt : ∀ e, s.next? s.current = some e → e.1 < 0x1000000) :
    highestPending.run Board.answer (.controller s) = (.ok s.preview, .controller s) := by
  have hread : Board.answer (.controller s) (.readSystem .highestPending1)
      = (.ok (BitVec.ofNat 64 (s.highestPending s.current)), .controller s) := by
    simp [Board.answer_readSystem, State.readSystem, hc, State.systemWord]
  have hlt : ((s.next? s.current).map Prod.fst).getD spuriousNumber < 0x1000000 := by
    rcases hn : s.next? s.current with _ | e
    · decide
    · exact hlt e hn
  have hwiden {n : Nat} (hn : n < 0x1000000) :
      BitVec.ofNat 64 n = (BitVec.ofNat 32 n).setWidth 64 := by
    apply BitVec.eq_of_toNat_eq
    simp only [BitVec.toNat_ofNat, BitVec.toNat_setWidth]
    omega
  refine (run_bind_ok ((run_readSystem ..).trans hread)).trans ?_
  rw [State.highestPending_eq hc hd, hwiden hlt, run_pure, get_acknowledgedId hlt]
  rfl

end Preview

namespace CpuInterface

variable {o : Options} {s : State} {c : Core}

def highestPending (routed : Bool) : Program IntId :=
  if routed then Routed.CpuInterface.highestPending else Banked.CpuInterface.onBus.highestPending

lemma run_highestPending (hs : s.Sound o) (hc : s.cores[s.current]? = some c)
    (hd : s.deliveryEnabled c = true)
    (hlt : ∀ e, s.next? s.current = some e → e.1 < 0x1000000) :
    (highestPending s.isRouted).run Board.answer (.controller s)
      = (.ok s.preview, .controller s) := by
  rcases hr : s.isRouted with _ | _
  · exact Banked.CpuInterface.run_highestPending hc hd hs hr
  · exact Routed.CpuInterface.run_highestPending hc hd hlt

/-- What an acknowledge leaves does not depend on whether the number fits into what is read. -/
lemma exists_run_acknowledge (hs : s.Sound o) (hc : s.cores[s.current]? = some c) :
    ∃ told, (acknowledge s.isRouted).run Board.answer (.controller s)
      = (.ok told, .controller (s.taken s.current)) := by
  rcases hr : s.isRouted with _ | _
  · exact ⟨_, Banked.CpuInterface.run_acknowledge hr hc hs⟩
  · have hleft : (s.acknowledge s.current).2 = s.taken s.current := by
      rw [State.acknowledge, State.taken]
      rcases s.next? s.current with _ | e <;> rfl
    exact ⟨_, hleft ▸ Routed.CpuInterface.run_readAcknowledge hc⟩

/-- An interrupt is told and taken if it is the next one, and only then. -/
lemma run_acknowledge_iff (hs : s.Sound o) (hc : s.cores[s.current]? = some c) {e : Nat × Priority}
    (he : e.1 < 0x1000000) :
    (acknowledge s.isRouted).run Board.answer (.controller s)
        = (.ok (some (s.ack e.1)), .controller (s.take s.current e))
      ↔ s.next? s.current = some e := by
  constructor
  · intro h
    obtain ⟨told, hrun⟩ := exists_run_acknowledge hs hc
    have htaken := Board.controller.inj (congrArg Prod.snd (hrun.symm.trans h))
    obtain ⟨c', hc', hrunning⟩ := State.running_of_take rfl hc (e := e)
    rcases hn : s.next? s.current with _ | e'
    · rw [State.taken, hn] at htaken
      rw [← htaken] at hc'
      obtain rfl := Option.some.inj (hc.symm.trans hc')
      exact absurd hrunning (List.cons_ne_self _ _).symm
    · have htaken : s.take s.current e' = s.take s.current e := by rwa [State.taken, hn] at htaken
      obtain ⟨d, hd, hrunning'⟩ := State.running_of_take rfl hc (e := e')
      obtain rfl : c' = d := Option.some.inj (hc'.symm.trans (htaken ▸ hd))
      obtain ⟨hid, hpriority⟩ := Running.mk.inj (List.cons.inj (hrunning'.symm.trans hrunning)).1
      exact congrArg some (Prod.ext hid hpriority)
  · intro hn
    rw [run_acknowledge hs hc (fun e' he' => Option.some.inj (hn.symm.trans he') ▸ he), State.taken, hn]
    rfl

/-- **Selection is optimal, and the preview is faithful.** An acknowledge finds nothing, and changes
nothing, exactly if no interrupt is eligible. Otherwise it takes an eligible one that comes before
all others, by its priority and then by its number. The register that shows the interrupt beforehand
changes nothing and shows that one, or a special number if there is none. -/
theorem selection_optimal (hs : Reachable o s) (hfit : o.Fits)
    (hc : s.cores[s.current]? = some c) (hd : s.deliveryEnabled c = true)
    (hlpis : ∀ n ∈ c.lpis.map Prod.fst, n < 0x1000000) :
    ∃ told shown t,
      (highestPending s.isRouted).run Board.answer (.controller s) = (.ok shown, .controller s)
        ∧ (acknowledge s.isRouted).run Board.answer (.controller s) = (.ok told, .controller t)
        ∧ (told = none ↔ ∀ id q, ¬ s.Eligible c id q)
        ∧ (told = none → t = s ∧ shown.isSpecial = true)
        ∧ ∀ a, told = some a → shown = a.id ∧ ∃ q, s.Eligible c a.id.number q
            ∧ t = s.take s.current (a.id.number, q.priority)
            ∧ ∀ id q', s.Eligible c id q' → id ≠ a.id.number →
                Precedes (a.id.number, q.priority) (id, q'.priority) := by
  have hg := hs.graded hc
  have hlt : ∀ e, s.next? s.current = some e → e.1 < 0x1000000 := by
    intro e hn
    rcases Nat.lt_or_ge e.1 8192 with h | h
    · omega
    · exact hlpis _ ((State.number_of_next? hs.sound hc hn).2.2.1 h)
  have hmem {e : Nat × Priority} :
      e ∈ s.deliverableList s.current c ↔ ∃ q, s.Eligible c e.1 q ∧ q.priority = e.2 := by
    rw [State.mem_deliverableList hs.sound hfit hc]
    simp only [State.deliverable_iff hg hd]
  refine ⟨_, s.preview, _, run_highestPending hs.sound hc hd hlt, run_acknowledge hs.sound hc hlt,
    ?_, fun hnone => ?_, fun a ha => ?_⟩
  · rw [Option.map_eq_none_iff, State.next?_eq_none hc, List.eq_nil_iff_forall_not_mem]
    constructor
    · exact fun h id q hq => h (id, q.priority) (hmem.mpr ⟨q, hq, rfl⟩)
    · intro h e he
      obtain ⟨q, hq, -⟩ := hmem.mp he
      exact h e.1 q hq
  · rw [Option.map_eq_none_iff] at hnone
    refine ⟨by rw [State.taken, hnone], ?_⟩
    rw [State.preview, hnone]
    decide
  · obtain ⟨e, hn, rfl⟩ := Option.map_eq_some_iff.mp ha
    obtain ⟨hfound, hfirst⟩ := State.precedes_of_next? hs.sound hfit hc hn
    obtain ⟨q, hq, hp⟩ := hmem.mp hfound
    have hnumber := (State.ack_of_next? hs.sound hc hlpis hn).1
    rw [hnumber]
    refine ⟨by rw [State.preview, hn]; rfl, q, hq, by rw [State.taken, hn, hp],
      fun id q' hq' hne => ?_⟩
    rw [hp]
    exact hfirst (id, q'.priority) (hmem.mpr ⟨q', hq', rfl⟩) fun h => hne (congrArg Prod.fst h)

/-- Three interrupts wait for core 0, two of them equally urgent: an SPI, an extended PPI and an
LPI. -/
def crowded : State :=
  [.access (.write .word Region.distributor.base 2),
    .access (.write .word (Region.distributor.base + 0x84) 0x100),
    .access (.write .word (Region.distributor.base + 0x104) 0x100),
    .access (.write .byte (Region.distributor.base + 0x400 + 40) 0x80), .raise 40 0,
    .access (.write .word (Region.redistributors.base + 0x10084) 1),
    .access (.write .word (Region.redistributors.base + 0x10104) 1),
    .access (.write .byte (Region.redistributors.base + 0x10420) 0x40), .raise 1056 0,
    .access (.write .word Region.redistributors.base 1), .raiseLpi 8192 0x40 0,
    .access (.writeSystem .systemEnable 1), .access (.writeSystem .groupEnable1 1),
    .access (.writeSystem .priorityMask 0xff)].foldl State.after (.reset .manifold)

set_option maxRecDepth 100000 in
/-- The extended PPI is taken. -/
theorem selection_optimal_crowded :
    ∃ t, (highestPending true).run Board.answer (.controller crowded)
        = (.ok (.ofNat 1056), .controller crowded)
      ∧ (acknowledge true).run Board.answer (.controller crowded)
        = (.ok (some ⟨.ofNat 1056, none⟩), .controller t) := by
  have hs : Reachable .manifold crowded := Reachable.reset.foldl _
  have hfacts : crowded.isRouted = true
      ∧ (∃ c, crowded.cores[crowded.current]? = some c ∧ crowded.deliveryEnabled c = true
        ∧ c.lpis.map Prod.fst = [8192])
      ∧ crowded.next? crowded.current = some (1056, 0x40)
      ∧ crowded.ack 1056 = ⟨.ofNat 1056, none⟩ := by decide +kernel
  obtain ⟨hr, ⟨c, hc, hd, hl⟩, hn, hack⟩ := hfacts
  have hlpis : ∀ n ∈ c.lpis.map Prod.fst, n < 0x1000000 := by rw [hl]; decide
  obtain ⟨told, shown, t, hshow, htake, -, -, hsome⟩ := selection_optimal hs Options.fits_manifold hc hd hlpis
  have htold : told = some ⟨.ofNat 1056, none⟩ := by
    have hrun := run_acknowledge hs.sound hc (fun e he => by
      obtain rfl := Option.some.inj (hn.symm.trans he)
      decide)
    rw [hn, Option.map_some, hack] at hrun
    exact Except.ok.inj (congrArg Prod.fst (htake.symm.trans hrun))
  rw [hr] at hshow htake
  rw [(hsome _ htold).1] at hshow
  exact ⟨t, hshow, htold ▸ htake⟩

end CpuInterface

end InterruptControl
