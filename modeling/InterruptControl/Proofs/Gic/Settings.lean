import InterruptControl.Proofs.Gic.Requests
import InterruptControl.Proofs.Hardware.Delivery
import InterruptControl.Proofs.Redistributor

/-!
What the front end does to one interrupt is what the part in charge of the interrupt does.
-/

namespace InterruptControl

open Bus Hardware Program

/-- The part in charge of an interrupt. Private interrupts of a routed controller are those of
the core whose redistributor is found. -/
def Engine.keeper (e : Engine) (s : State) (id : IntId) : Keeper :=
  match e with
  | .routed d =>
    if id.isPrivate then .redistributor s.home else .routed d.distributor.security
  | _ => .banked

/-- What the front end sets, every part does. -/
lemma Keeper.offers_of_shared (k : Keeper) {a : Setting} (ha : ∀ b, a ≠ .plain b)
    (ht : a ≠ .targets) : k.offers a = true := by
  cases k <;> cases a <;> simp_all [offers]

/-- A part serves every implemented interrupt that it is asked about, but for LPIs. -/
lemma Engine.serves_keeper {e : Engine} {o : Options} {s : State} {id : IntId} {cpu : Nat}
    (he : e.Drives o) (hs : s.Sound o) (hfit : o.Fits)
    (hid : (s.irq? id.number cpu).isSome = true) (hlpi : id.isLpi = false) : (e.keeper s id).serves o id = true := by
  obtain rfl := hs.options
  obtain ⟨q, hq⟩ := Option.isSome_iff_exists.mp hid
  obtain ⟨p, hp, -⟩ := Option.bind_eq_some_iff.mp hq
  obtain ⟨c, -, hleads⟩ := State.leadsTo_of_place? hp
  have hlimit := State.sharedLimit_le s.options
  have h96 := Bank.privateCount_le s.options
  have hextended := State.extendedCount_le hfit
  have h8192 : ¬ 8192 ≤ id.number := by
    rw [← id.isLpi_iff, hlpi]
    decide
  cases he with
  | banked ho =>
    have hextended : s.options.extendedCount = 0 := by simp [Options.extendedCount, ho]
    have hlt : id.number < 1020 := by
      cases hleads with
      | extendedOwn hr => exact absurd (hr.symm.trans ho) (by decide)
      | _ => omega
    exact decide_eq_true hlt
  | routed ho =>
    simp only [keeper]
    split
    next hprivate =>
      rw [Keeper.serves, hprivate, Bool.true_and, Bool.not_eq_true', Bool.and_eq_false_iff,
        decide_eq_false_iff_not, Bool.eq_false_iff, ne_eq, id.isExtendedPpi_iff]
      cases hleads <;> omega
    next hprivate =>
      rw [id.isPrivate_iff] at hprivate
      rw [Keeper.serves, Bool.or_eq_true, Bool.and_eq_true, decide_eq_true_eq, id.isSpi_iff,
        id.isExtendedSpi_iff]
      cases hleads <;> omega

namespace Gic

variable {H : Type} {g : Gic H} {o : Options} {s : State} {id : IntId}

/-- The core whose copy of an interrupt the front end reaches, if that is a private one. -/
def owner (g : Gic H) (s : State) (id : IntId) : Nat := (g.engine.keeper s id).owner s

lemma owner_of_shared (hg : g.engine.Drives o) (hid : id.isPrivate = false) :
    g.owner s id = s.current := by
  unfold owner
  generalize g.engine = e at hg ⊢
  cases hg with
  | banked => rfl
  | routed =>
    simp only [Engine.keeper, hid, Bool.false_eq_true, if_false]
    rfl

section Run

variable (hg : g.engine.Drives o) (hs : s.Sound o) (hfit : o.Fits) (hlocates : s.Locates o id)
include hg hs hlocates

lemma matches_keeper : (g.engine.keeper s id).Matches o := by
  generalize g.engine = e at hg ⊢
  cases hg with
  | banked ho => exact ho
  | routed ho =>
    simp only [Engine.keeper]
    split
    next hprivate =>
      obtain ⟨c, hc, -⟩ := hlocates ho hprivate
      exact ⟨ho, hs.size ▸ State.home_lt (hlocates ho hprivate) hc⟩
    · exact ho

include hfit

lemma run_block : (g.block id).run Board.answer (.controller s)
    = (.ok ((g.engine.keeper s id).block o), .controller s) := by
  unfold block
  generalize g.engine = e at hg ⊢
  cases hg with
  | banked ho => rfl
  | routed ho =>
    simp only [Engine.keeper]
    split
    next hprivate =>
      obtain ⟨c, hc, -⟩ := hlocates ho hprivate
      exact (run_bind_ok (Routed.Driver.run_currentRedistributor hs hfit ho rfl rfl
        (hlocates ho hprivate) hc)).trans (run_pure ..)
    · rfl

/-- An operation goes to the block of the part in charge. -/
lemma run_block_bind {α : Type} (f : Block → Program α) :
    (g.block id >>= f).run Board.answer (.controller s)
      = (f ((g.engine.keeper s id).block o)).run Board.answer (.controller s) :=
  run_bind_ok (run_block hg hs hfit hlocates)

/-- An interrupt that some core may be given is disabled by masking it. -/
lemma run_maskInterrupt (hid : (s.irq? id.number s.current).isSome = true)
    (hlpi : id.isLpi = false) : (g.maskInterrupt id).run Board.answer (.controller s)
      = (.ok (), .controller
        (s.modifyIrq id.number (g.owner s id) fun q => { q with enabled := false })) := by
  have hmatches := matches_keeper hg hs hlocates
  have hoffers := (g.engine.keeper s id).offers_of_shared (a := .flag .enabled) (by simp) (by simp)
  have haccepts : (g.engine.keeper s id).accepts o (.flag .enabled) id = true := by
    rw [Keeper.accepts, Engine.serves_keeper hg hs hfit hid hlpi]
    rfl
  exact (run_block_bind hg hs hfit hlocates _).trans
    (Keeper.run_set hs hfit hmatches hoffers haccepts false)

end Run

end Gic

end InterruptControl
