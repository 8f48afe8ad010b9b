import InterruptControl.Proofs.Calls

/-!
Orders to the front end about one interrupt.

An order is a call of the part that the interrupt belongs to. The front end asks the hardware for the
part, and that is all that it adds to the call.
-/

namespace InterruptControl

open Bus Hardware Program

/-- What may be asked of the front end about one interrupt. -/
inductive Order where
  | setFlag (f : Flag) (v : Bool)
  | hasFlag (f : Flag)
  | setPriority (p : Priority)
  | priority
  | setTrigger (t : Trigger)
  | trigger
  | routeTo (a : Affinity)
  | routeToAny

namespace Order

abbrev Result : Order → Type
  | hasFlag _ => Bool
  | priority => Priority
  | trigger => Trigger
  | _ => Unit

/-- The call that is made of it. -/
def call (o : Options) : Order → Call
  | setFlag f v => .set (.flag f) v
  | hasFlag f => .get (.flag f)
  | setPriority p => .set .priority p
  | priority => .get .priority
  | setTrigger t => .set .trigger t
  | trigger => .get .trigger
  | routeTo a => if o.isRouted then .setRoute a else .set .targets ⟨1#8 <<< a.aff0.toNat⟩
  | routeToAny =>
    if o.isRouted then .setRouteAny
    else .set .targets (Gic.firstCores (min o.cpus 8 - 1 + 1))

/-- A banked controller is only asked for a core that has a bit. -/
def Targetable (o : Options) (x : Order) : Prop :=
  ∀ a, x = routeTo a → o.isRouted = false → a.aff0.toNat < 8

end Order

/-- The distributor. -/
def Engine.router : Engine → Keeper
  | .routed d => .routed d.distributor.security
  | _ => .banked

/-- The part that the order is for. All routes are in the distributor. -/
def Engine.part (e : Engine) (s : State) (x : Order) (id : IntId) : Keeper :=
  match x with
  | .routeTo _ | .routeToAny => e.router
  | _ => e.keeper s id

/-- The search for the redistributor of the current core asks who is there. -/
lemma Routed.Driver.identifies_currentRedistributor {o : Options} {s : State} (hs : s.Sound o)
    (hfit : o.Fits) (hr : o.isRouted = true) {d : Routed.Driver}
    (hregion : d.region = Region.redistributors.base) (hstride : d.stride = o.stride)
    (hreported : s.Reported) {q : Request}
    (hq : q ∈ d.currentRedistributor.requests Board.answer (.controller s)) : Identifies o q := by
  obtain ⟨c, hc, -⟩ := id hreported
  have hlt := State.home_lt hreported hc
  rw [(performs_currentRedistributor hs hfit hr hregion hstride hreported hc).requests, List.mem_cons,
    List.mem_map] at hq
  rcases hq with rfl | ⟨i, hi, rfl⟩
  · exact .core
  · have := List.mem_range'_1.mp hi
    rw [hs.size] at hlt
    exact .redistributor hr (by omega)

namespace Gic

variable {H : Type} {g : Gic H} {o : Options} {s : State} {x : Order}

def order (g : Gic H) : (x : Order) → IntId → Program x.Result
  | .setFlag f v, id => g.setFlag f id v
  | .hasFlag f, id => g.hasFlag f id
  | .setPriority p, id => g.setPriority id p
  | .priority, id => g.priority id
  | .setTrigger t, id => g.setTrigger id t
  | .trigger, id => g.trigger id
  | .routeTo a, id => g.routeTo id a
  | .routeToAny, id => g.routeToAny id

variable (hg : g.engine.Drives o) (hs : s.Sound o) (hfit : o.Fits)
  {id : IntId} (hlocates : s.Locates o id)
include hg hs hlocates

lemma matches_part (x : Order) : (g.engine.part s x id).Matches o := by
  have hrouter : g.engine.router.Matches o := by
    generalize g.engine = e at hg ⊢
    cases hg with
    | banked ho | routed ho => exact ho
  cases x with
  | routeTo _ | routeToAny => exact hrouter
  | _ => exact matches_keeper hg hs hlocates

omit hs hlocates in
lemma takes_part (x : Order) (id : IntId) : (g.engine.part s x id).takes (x.call o) = true := by
  have hset {k : Setting} (hk : (∀ b, k ≠ .plain b) ∧ k ≠ .targets) :=
    (g.engine.keeper s id).offers_of_shared hk.1 hk.2
  cases x with
  | setFlag _ _ | hasFlag _ | setPriority _ | priority | setTrigger _ | trigger =>
    exact hset (by simp)
  | routeTo _ | routeToAny =>
    simp only [Engine.part, Order.call]
    generalize g.engine = e at hg ⊢
    cases hg with
    | banked ho | routed ho => rw [ho]; rfl

include hfit

/-- The front end asks the hardware for the part that the interrupt belongs to. -/
lemma identifies_block {q : Request} (hq : q ∈ (g.block id).requests Board.answer (.controller s)) :
    Identifies o q := by
  unfold block at hq
  generalize g.engine = e at hg hq
  cases hg with
  | banked ho => exact absurd hq List.not_mem_nil
  | routed ho security started =>
    simp only at hq
    split at hq
    next hprivate =>
      have hreported := hlocates ho hprivate
      obtain ⟨c, hc, -⟩ := hlocates ho hprivate
      have hfound := Routed.Driver.run_currentRedistributor hs hfit ho
        (d := ⟨⟨Region.distributor.base, security⟩, Region.redistributors.base, o.stride, started⟩)
        rfl rfl hreported hc
      rw [requests_map hfound] at hq
      exact Routed.Driver.identifies_currentRedistributor hs hfit ho rfl rfl hreported hq
    · exact absurd hq List.not_mem_nil

/-- It goes on with the block of that part. -/
lemma admits_block {α : Type} {f : Block → Program α} {allowed : Prop} {c : Cell}
    (hf : s.Admits o (f ((g.engine.keeper s id).block o)) allowed c) :
    s.Admits o (g.block id >>= f) allowed c :=
  .after hs hfit (run_block hg hs hfit hlocates)
    (fun _ => identifies_block hg hs hfit hlocates) hf

/-- An order is carried out where the call that is made of it is. -/
lemma admits_order (hx : x.Targetable o) :
    s.Admits o (g.order x id) ((g.engine.part s x id).Allows o (x.call o) id)
      ((g.engine.part s x id).cell o (x.call o).column id) := by
  have hmatches := matches_part hg hs hlocates x
  have hcall := Keeper.admits_call hs hfit hmatches (takes_part hg x id) id
  cases x with
  | setFlag _ _ | hasFlag _ | setPriority _ | priority | setTrigger _ | trigger =>
    exact admits_block hg hs hfit hlocates hcall
  | routeTo a =>
    simp only [Engine.part, order, routeTo] at hmatches ⊢
    generalize g.engine = e at hg hmatches ⊢
    cases hg with
    | banked ho =>
      have hset := CpuSet.add?_empty (hx a rfl ho)
      simp only [hset, Order.call, ho]
      exact Keeper.admits_call hs hfit hmatches (x := .set .targets ⟨1#8 <<< a.aff0.toNat⟩) rfl id
    | routed ho =>
      simp only [Order.call, ho]
      exact Keeper.admits_call hs hfit hmatches (x := .setRoute a) rfl id
  | routeToAny =>
    simp only [Engine.part, order, routeToAny] at hmatches ⊢
    generalize g.engine = e at hg hmatches ⊢
    cases hg with
    | banked ho =>
      have hcount := Banked.Distributor.run_cpuCount (hs.options ▸ hfit)
      rw [hs.options] at hcount
      simp only [Order.call, ho]
      refine .after hs hfit hcount
        (fun _ => (Banked.Distributor.cpuCount_within .distributor).requests) ?_
      exact Keeper.admits_call hs hfit hmatches
        (x := .set .targets (firstCores (min o.cpus 8 - 1 + 1))) rfl id
    | routed ho =>
      simp only [Order.call, ho]
      exact Keeper.admits_call hs hfit hmatches (x := .setRouteAny) rfl id

end Gic

/-- **Interrupts are accepted exactly where they have a register, and a refused call writes nothing.**
A part carries a call out if it has a register for the interrupt, and otherwise fails the assertion;
how many extended interrupts there are it learns from the hardware. The front end does what the part
does that the interrupt belongs to. All that is accessed besides the registers that identify the
hardware is the one cell that holds the interrupt; it is in its own table, which is where the hardware
has it, and no two tables overlap. -/
theorem accepted_where_registered {H : Type} {o : Options} {s : State} (hs : Reachable o s)
    (hfit : o.Fits) :
    (∀ k : Keeper, k.Matches o → k.Reports o s
      ∧ ∀ x, k.takes x = true → ∀ id,
        s.Admits o (k.call o x id) (k.Allows o x id) (k.cell o x.column id)
        ∧ (k.Allows o x id → ∃ n < (k.table o (k.isExtended id) x.column).count,
            k.cell o x.column id = (k.table o (k.isExtended id) x.column).cell n))
    ∧ (∀ g : Gic H, g.engine.Drives o → ∀ x : Order, x.Targetable o → ∀ id, s.Locates o id →
      ∃ k : Keeper, k = g.engine.part s x id
        ∧ k.Matches o ∧ k.takes (x.call o) = true
        ∧ s.Admits o (g.order x id) (k.Allows o (x.call o) id) (k.cell o (x.call o).column id))
    ∧ (∀ k : Keeper, ∀ t ∈ k.bitTables, ∀ c : Column, c.bits? = some (t.field, t.rule) →
      (k.table o (decide (t.first ≠ 0)) c).base = k.base o + t.offset)
    ∧ ∀ k k' : Keeper, ∀ x x' c c', (x = true → c ≠ .targets) → (x' = true → c' ≠ .targets) →
      (k.base o, x, c) ≠ (k'.base o, x', c') → (k.table o x c).Apart (k'.table o x' c') := by
  have hs := hs.sound
  refine ⟨fun k hk => ⟨Keeper.reports hs hfit hk, fun x hx id => ⟨Keeper.admits_call hs hfit hk hx id,
    fun hid => Keeper.exists_cell_eq hfit hid.1 _⟩⟩, ?_,
    fun k t ht c hc => Keeper.base_table ht hc o, fun k k' x x' c c' => Keeper.table_apart⟩
  intro g hg x hx id hlocates
  exact ⟨_, rfl, Gic.matches_part hg hs hlocates x, Gic.takes_part hg x id,
    Gic.admits_order hg hs hfit hlocates hx⟩

/-- The last extended PPI has a priority and the last extended SPI a trigger, and the numbers after
them have none. -/
theorem accepted_where_registered_at_the_end :
    let s : State := .reset .manifold
    let p (n : Nat) := (Keeper.redistributor 1).call .manifold (.set .priority 0x40) (.ofNat n)
    let d : Routed.Driver :=
      ⟨⟨Region.distributor.base, .nonSecure⟩, Region.redistributors.base, Options.manifold.stride, true⟩
    let g : Gic Unit := ⟨.v3, .routed d, false, .empty⟩
    (∃ t, (p 1087).run Board.answer (.controller s) = (.ok (), .controller t))
      ∧ (p 1088).run Board.answer (.controller s) = (.error .assertion, .controller s)
      ∧ (∃ a t, (g.trigger (.ofNat 4127)).run Board.answer (.controller s) = (.ok a, .controller t))
      ∧ (g.trigger (.ofNat 4128)).run Board.answer (.controller s)
        = (.error .assertion, .controller s) := by
  intro s p d g
  have hs : Reachable .manifold s := .reset
  have hreported : s.Reported := ⟨_, rfl, _, Array.mem_of_getElem? (i := 0) rfl, by decide +kernel⟩
  obtain ⟨hparts, horders, -⟩ := accepted_where_registered (H := Unit) hs Options.fits_manifold
  have hpart (n : Nat) := ((hparts (.redistributor 1) ⟨rfl, by decide⟩).2 (.set .priority 0x40) rfl
    (.ofNat n)).1
  have horder (n : Nat) := horders g (.routed rfl _ _) .trigger (fun _ h => by cases h) (.ofNat n)
    fun _ _ => hreported
  obtain ⟨_, hk, -, -, hadmits⟩ := horder 4127
  obtain ⟨_, hk', -, -, hadmits'⟩ := horder 4128
  obtain ⟨_, t, hrun⟩ := (hpart 1087).accepted (by decide)
  refine ⟨⟨t, hrun⟩, (hpart 1088).refused (by decide), hadmits.accepted ?_, hadmits'.refused ?_⟩
  · rw [hk]; decide
  · rw [hk']; decide

end InterruptControl
