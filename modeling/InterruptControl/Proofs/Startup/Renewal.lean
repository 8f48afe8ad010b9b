import InterruptControl.Proofs.Bus.Fill
import InterruptControl.Proofs.Hardware.Serving

/-!
Interrupts in the state that bring-up puts them in.

What becomes of an interrupt depends on where it is kept, and is nothing if it is made again. So
any stages that together reach the same interrupts, in whatever order, leave the same controller:
a controller is known from its registers and from what is kept at every place.
-/

namespace InterruptControl

namespace Hardware

def Place.isShared : Place → Bool
  | shared _ => true
  | _ => false

namespace Options

/-- What bring-up makes of the interrupt at a place. A banked controller has no group modifiers and
a routed one no targets, and the triggers of private interrupts stay. -/
def renew (o : Options) (p : Place) (q : Irq) : Irq :=
  { q with
    group1 := true
    enabled := false
    pending := false
    active := false
    groupModifier := !o.isRouted && q.groupModifier
    edge := !p.isShared && q.edge
    priority := Priority.default
    targets := if p.isShared && !o.isRouted then 1 else q.targets }

lemma renew_renew (o : Options) (p : Place) (q : Irq) : o.renew p (o.renew p q) = o.renew p q := by
  have hand (a b : Bool) : (a && (a && b)) = (a && b) := by cases a <;> rfl
  simp only [renew, hand]
  split <;> rfl

/-! ### Where interrupts are built in -/

/-- The SPIs. -/
def Spi (o : Options) (p : Place) : Prop := ∃ i, 32 ≤ i ∧ i < o.sharedLimit ∧ p = .shared i

def ExtendedSpi (o : Options) (p : Place) : Prop := ∃ i < o.extendedCount, p = .shared (1024 + i)

def Shared (o : Options) (p : Place) : Prop := o.Spi p ∨ o.ExtendedSpi p

/-- The SGIs, the PPIs and the extended PPIs of a core. -/
def Private (o : Options) (cpu : Nat) (p : Place) : Prop := ∃ i < o.privateCount, p = .own cpu i

lemma Spi.isShared {o : Options} {p : Place} (h : o.Spi p) : p.isShared = true := by
  obtain ⟨i, -, -, rfl⟩ := h
  rfl

lemma ExtendedSpi.isShared {o : Options} {p : Place} (h : o.ExtendedSpi p) : p.isShared = true := by
  obtain ⟨i, -, rfl⟩ := h
  rfl

lemma Private.isShared {o : Options} {cpu : Nat} {p : Place} (h : o.Private cpu p) :
    p.isShared = false := by
  obtain ⟨i, -, rfl⟩ := h
  rfl

lemma extendedCount_of_banked {o : Options} (ho : o.isRouted = false) : o.extendedCount = 0 := by
  simp [extendedCount, ho]

lemma privateCount_of_banked {o : Options} (ho : o.isRouted = false) : o.privateCount = 32 := by
  simp [privateCount, ho]

end Options

/-- A change of a core that has nothing to do with its interrupts. -/
structure Core.Apart (f : Core → Core) : Prop where
  bare (c : Core) : (f c).bare = f c.bare
  kept (c : Core) : (f c).own = c.own ∧ (f c).lpis = c.lpis

namespace State

variable {o : Options} {A B : Place → Prop} {s t u : State} {cpu : Nat}

/-- The interrupts at some places are renewed, and nothing else is different. -/
structure Renews (o : Options) (A : Place → Prop) (s t : State) : Prop where
  bare : t.bare = s.bare
  on {p : Place} (h : A p) : t.at? p = (s.at? p).map (o.renew p)
  off {p : Place} (h : ¬ A p) : t.at? p = s.at? p

namespace Renews

lemma congr (h : Renews o A s t) (hAB : ∀ p, A p ↔ B p) : Renews o B s t :=
  ⟨h.bare, fun hB => h.on ((hAB _).mpr hB), fun hB => h.off fun hA => hB ((hAB _).mp hA)⟩

/-- Stages that make the same of all interrupts at some places. -/
lemma of_changes {g : Irq → Irq} (h : Changes A g s t) (hg : ∀ p, A p → g = o.renew p) :
    Renews o A s t :=
  ⟨h.bare, fun hA => hg _ hA ▸ h.on hA, h.off⟩

lemma union (h : Renews o A s t) (h' : Renews o B t u) : Renews o (fun p => A p ∨ B p) s u := by
  refine ⟨h'.bare.trans h.bare, fun {p} hAB => ?_, fun {p} hAB => ?_⟩
  · have htwice : o.renew p ∘ o.renew p = o.renew p := funext (o.renew_renew p)
    by_cases hA : A p
    · by_cases hB : B p
      · rw [h'.on hB, h.on hA, Option.map_map, htwice]
      · rw [h'.off hB, h.on hA]
    · rw [h'.on (hAB.resolve_left hA), h.off hA]
  · rw [not_or] at hAB
    rw [h'.off hAB.2, h.off hAB.1]

lemma modifyCore (h : Renews o A s t) (cpu : Nat) {f : Core → Core} (hf : Core.Apart f) :
    Renews o A (s.modifyCore cpu f) (t.modifyCore cpu f) := by
  refine ⟨?_, fun {p} hA => ?_, fun {p} hA => ?_⟩
  · rw [bare_modifyCore_comm hf.bare, bare_modifyCore_comm hf.bare, h.bare]
  · rw [at?_modifyCore hf.kept, at?_modifyCore hf.kept, h.on hA]
  · rw [at?_modifyCore hf.kept, at?_modifyCore hf.kept, h.off hA]

/-- A change of what is neither a core nor an interrupt. -/
lemma map (h : Renews o A s t) {f : State → State}
    (hf : ∀ v, (f v).shared = v.shared ∧ (f v).cores = v.cores)
    (hbare : ∀ v, (f v).bare = f v.bare) : Renews o A (f s) (f t) := by
  have hat (v : State) (p : Place) : (f v).at? p = v.at? p := by
    obtain ⟨hshared, hcores⟩ := hf v
    cases p <;> simp only [at?, hshared, hcores]
  refine ⟨?_, fun {p} hA => ?_, fun {p} hA => ?_⟩
  · rw [hbare, hbare, h.bare]
  · rw [hat, hat, h.on hA]
  · rw [hat, hat, h.off hA]

lemma setControl (h : Renews o A s t) (v : BitVec 32) :
    Renews o A { s with control := v } { t with control := v } :=
  h.map (f := fun s => { s with control := v }) (fun _ => ⟨rfl, rfl⟩) fun _ => rfl

lemma setCurrent (h : Renews o A s t) (cpu : Nat) :
    Renews o A { s with current := cpu } { t with current := cpu } :=
  h.map (f := fun s => { s with current := cpu }) (fun _ => ⟨rfl, rfl⟩) fun _ => rfl

end Renews

/-! ### A controller is known from what is seen of it -/

lemma eq_of_lookup {l l' : List (Nat × Irq)} (hkeys : l.map Prod.fst = l'.map Prod.fst)
    (hsorted : (l.map Prod.fst).Pairwise (· < ·)) (h : ∀ k, l.lookup k = l'.lookup k) : l = l' := by
  induction l generalizing l' with
  | nil => exact (List.map_eq_nil_iff.mp hkeys.symm).symm
  | cons e rest ih =>
    obtain ⟨n, q⟩ := e
    rcases l' with _ | ⟨⟨n', q'⟩, rest'⟩
    · simp at hkeys
    simp only [List.map_cons, List.cons.injEq] at hkeys
    obtain ⟨rfl, hrest⟩ := hkeys
    rw [List.map_cons, List.pairwise_cons] at hsorted
    have hq : q = q' := by simpa using h n
    have hfresh {l : List (Nat × Irq)} (hl : l.map Prod.fst = rest.map Prod.fst) :
        l.lookup n = none := by
      rw [← Option.not_isSome_iff_eq_none, isSome_lookup, hl]
      exact fun hmem => lt_irrefl n (hsorted.1 n hmem)
    have hlookup : ∀ k, rest.lookup k = rest'.lookup k := by
      intro k
      by_cases hk : k = n
      · rw [hk, hfresh rfl, hfresh hrest.symm]
      · have := h k
        rwa [List.lookup_cons, List.lookup_cons, beq_eq_false_iff_ne.mpr hk] at this
    rw [hq, ih hrest hsorted.2 hlookup]

/-- The registers are the same, and so is what is kept at every place. -/
lemma eq_of_at? (hs : s.Sound o) (hbare : s.bare = t.bare) (hat : ∀ p, s.at? p = t.at? p) :
    s = t := by
  have hshared : s.shared = t.shared := by
    ext i hi
    have := hat (.shared i)
    simp only [at?, Vector.getElem?_eq_getElem hi] at this
    exact Option.some.inj this
  have hcores : s.cores = t.cores := by
    refine Array.ext_getElem? fun i => ?_
    rcases hc : s.cores[i]? with _ | c
    · have := core_of_bare hbare i
      rw [hc] at this
      exact (Option.map_eq_none_iff.mp this.symm).symm
    · obtain ⟨c', hc', he⟩ := exists_core_of_bare hbare hc
      have hown : c.own = c'.own := by
        ext j hj
        have := hat (.own i j)
        simp only [at?, hc, hc', Option.bind_some, Vector.getElem?_eq_getElem hj] at this
        exact Option.some.inj this
      have hlpis : c.lpis = c'.lpis := by
        refine eq_of_lookup (Core.lpis_of_bare he) (hs.core i c hc).lpis_sorted fun k => ?_
        have := hat (.lpi i k)
        simpa only [at?, hc, hc', Option.bind_some] using this
      have hcore : c = c' := calc
        c = { c.bare with own := c.own, lpis := c.lpis } := rfl
        _ = { c'.bare with own := c'.own, lpis := c'.lpis } := by rw [he, hown, hlpis]
        _ = c' := rfl
      rw [hc', hcore]
  calc s = { s.bare with shared := s.shared, cores := s.cores } := rfl
    _ = { t.bare with shared := t.shared, cores := t.cores } := by rw [hbare, hshared, hcores]
    _ = t := rfl

lemma Renews.unique (hs : s.Sound o) (h : Renews o A s t) (h' : Renews o A s u) : t = u := by
  refine eq_of_at? (hs.of_bare h.bare) (h.bare.trans h'.bare.symm) fun p => ?_
  by_cases hA : A p
  · rw [h.on hA, h'.on hA]
  · rw [h.off hA, h'.off hA]

end State

end Hardware

/-! ### What the banks of a distributor cover -/

namespace Bus.Bank

open Hardware

variable {s : State} {c : Core} (hc : s.cores[s.current]? = some c) {hi : Nat}
  (hhi : s.options.sharedLimit ≤ hi) (h32 : 32 ≤ hi) (hle : hi ≤ 1024) {p : Place}
include hc hhi h32 hle

/-- The distributor of a routed controller has no private interrupts. -/
lemma covers_spi {lo : Nat} (hlo : lo ≤ 32) (hskip : s.isRouted = true ∨ lo = 32) :
    (distributor s).Covers lo hi p ↔ s.options.Spi p := by
  rw [covers_distributor hc hhi h32 hle]
  constructor
  · rintro (⟨hr, i, h1, h2, -⟩ | ⟨i, -, h1, h2, rfl⟩)
    · rcases hskip with hskip | rfl
      · exact absurd (hskip.symm.trans hr) (by decide)
      · omega
    · exact ⟨i, h1, h2, rfl⟩
  · rintro ⟨i, h1, h2, rfl⟩
    exact .inr ⟨i, hlo.trans h1, h1, h2, rfl⟩

/-- That of a banked one has those of the current core. -/
lemma covers_banked (hr : s.isRouted = false) :
    (distributor s).Covers 0 hi p ↔ s.options.Spi p ∨ s.options.Private s.current p := by
  rw [covers_distributor hc hhi h32 hle, Options.Private, Options.privateCount_of_banked hr]
  constructor
  · rintro (⟨-, i, -, h2, rfl⟩ | ⟨i, -, h1, h2, rfl⟩)
    · exact .inr ⟨i, h2, rfl⟩
    · exact .inl ⟨i, h1, h2, rfl⟩
  · rintro (⟨i, h1, h2, rfl⟩ | ⟨i, h2, rfl⟩)
    · exact .inr ⟨i, Nat.zero_le i, h1, h2, rfl⟩
    · exact .inl ⟨hr, i, Nat.zero_le i, h2, rfl⟩

end Bus.Bank

end InterruptControl
