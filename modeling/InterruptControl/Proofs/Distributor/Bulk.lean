import InterruptControl.Proofs.Bus.Fill
import InterruptControl.Proofs.Requests
import InterruptControl.Proofs.Settings

/-!
What a distributor does to all its interrupts below a bound, for every bound of 32 bits.

Such an operation writes one table of registers, a word or a byte after the other. Words hold several
interrupts, so they are all written up to the end of a word, and where the bound exceeds the table,
up to the end of the table.
-/

namespace InterruptControl

open Bus Hardware Program

/-! ### What is swept -/

namespace Hardware.State

variable {o : Options} {s t : State} {lo hi id cpu : Nat} {g : Irq → Irq} {p : Place}

/-- The interrupt has a number from `lo` on and below `hi`, and the distributor shows it to the current
core: an SPI, or on a banked controller a private interrupt of that core. -/
def Spans (s : State) (lo hi id cpu : Nat) : Prop :=
  lo ≤ id ∧ id < hi ∧ (32 ≤ id ∨ s.isRouted = false ∧ cpu = s.current)

/-- All interrupts in a span are changed, and nothing else is different: no other interrupt, implemented
or not, and no register that is not about interrupts. -/
structure Swept (lo hi : Nat) (g : Irq → Irq) (s t : State) : Prop where
  bare : t.bare = s.bare
  inside {id cpu : Nat} (h : s.Spans lo hi id cpu) : t.irq? id cpu = (s.irq? id cpu).map g
  outside {id cpu : Nat} (h : ¬ s.Spans lo hi id cpu) : t.irq? id cpu = s.irq? id cpu
  absent {p : Place} (h : ∀ id cpu, s.place? id cpu ≠ some p) : t.at? p = s.at? p

/-- The bank of the distributor has the interrupts of a span. -/
lemma covers_iff_spans (hcurrent : ∃ c, s.cores[s.current]? = some c) (hhi : hi ≤ 1024)
    (hp : s.place? id cpu = some p) :
    (Bank.distributor s).Covers lo hi p ↔ s.Spans lo hi id cpu := by
  obtain ⟨c, hc⟩ := hcurrent
  constructor
  · rintro ⟨j, h1, h2, hview⟩
    obtain ⟨hprivate, hplace⟩ := Bank.view_distributor_iff.mp hview
    obtain rfl : j = id := (number_of_place? hplace).symm.trans (number_of_place? hp)
    refine ⟨h1, h2, (Nat.lt_or_ge j 32).symm.imp_right fun h32 => ⟨?_, ?_⟩⟩
    · exact Bool.eq_false_iff.mpr fun hr => hprivate ⟨hr, h32⟩
    · obtain ⟨c', hc', -⟩ := leadsTo_of_place? hp
      rw [place?_of_lt s hc h32] at hplace
      rw [place?_of_lt s hc' h32, ← hplace, Option.some_inj, Place.own.injEq] at hp
      exact hp.1
  · rintro ⟨h1, h2, h | ⟨hr, rfl⟩⟩
    · refine ⟨id, h1, h2, Bank.view_distributor_iff.mpr ⟨fun hr => by omega, ?_⟩⟩
      obtain ⟨c', -, hleads⟩ := leadsTo_of_place? hp
      cases hleads with
      | shared h32 hlimit =>
        exact place?_of_leadsTo hc (Bank.privateCount_le s.options) (.shared h32 hlimit)
      | lpi | own | extendedOwn | extendedShared => omega
    · exact ⟨id, h1, h2, Bank.view_distributor_iff.mpr ⟨by simp [hr], hp⟩⟩

lemma swept_of_changes (hs : s.Sound o) (hhi : hi ≤ 1024)
    (h : Changes ((Bank.distributor s).Covers lo hi) g s t) : Swept lo hi g s t := by
  have hplace (id cpu : Nat) : t.place? id cpu = s.place? id cpu := place?_of_bare h.bare id cpu
  have hspans {id cpu : Nat} {p : Place} (hp : s.place? id cpu = some p) :
      (Bank.distributor s).Covers lo hi p ↔ s.Spans lo hi id cpu := by
    obtain ⟨c, hc, -⟩ := leadsTo_of_place? hp
    have hlt := (Array.getElem?_eq_some_iff.mp hc).1
    exact covers_iff_spans (hs.exists_current (by have := hs.size; omega)) hhi hp
  refine ⟨h.bare, fun {id cpu} hin => ?_, fun {id cpu} hout => ?_, fun {p} hnone => h.off ?_⟩
  · rcases hp : s.place? id cpu with _ | p
    · simp [irq?, hplace, hp]
    · rw [irq?_of_place _ _ _ hp, irq?_of_place _ _ _ ((hplace ..).trans hp)]
      exact h.on ((hspans hp).mpr hin)
  · rcases hp : s.place? id cpu with _ | p
    · simp [irq?, hplace, hp]
    · rw [irq?_of_place _ _ _ hp, irq?_of_place _ _ _ ((hplace ..).trans hp)]
      exact h.off fun hcovers => hout ((hspans hp).mp hcovers)
  · rintro ⟨j, -, -, hview⟩
    exact hnone _ _ (Bank.view_distributor_iff.mp hview).2

end Hardware.State

/-- A write of which no part is outside the `n` bytes from `address` on. -/
def Request.WritesIn (address n : Nat) : Request → Prop
  | .write w a _ => address ≤ a ∧ a + w.bytes ≤ address + n
  | _ => False

/-! ### The operations -/

/-- The operations on all interrupts below a bound that set something other than the trigger. -/
inductive Bulk where
  | clear (f : Flag)
  | group1
  | clearModifier
  | priority (p : Priority)
  | targets (t : CpuSet)

namespace Bulk

/-- Group modifiers are for a routed controller only, targets for a banked one. -/
def offered (routed : Bool) : Bulk → Bool
  | clearModifier => routed
  | targets _ => !routed
  | _ => true

def call (routed : Bool) (security : Routed.SecurityState) (bound : BitVec 32) : Bulk → Program Unit
  | clear f => if routed then (Routed.Distributor.mk Region.distributor.base security).clearAll f bound
    else (Banked.Distributor.mk Region.distributor.base).clearAll f bound
  | group1 => if routed then (Routed.Distributor.mk Region.distributor.base security).setGroup1All bound
    else (Banked.Distributor.mk Region.distributor.base).setGroup1All bound
  | clearModifier => (Routed.Distributor.mk Region.distributor.base security).clearModifierAll bound
  | priority p =>
    if routed then (Routed.Distributor.mk Region.distributor.base security).setPriorityAll bound p
    else (Banked.Distributor.mk Region.distributor.base).setPriorityAll bound p
  | targets t => (Banked.Distributor.mk Region.distributor.base).setTargetsAll bound t

/-- What is set of each interrupt. -/
def setting : Bulk → Setting
  | clear f => .flag f
  | group1 => .plain .group1
  | clearModifier => .plain .groupModifier
  | priority _ => .priority
  | targets _ => .targets

def value : (b : Bulk) → b.setting.Value
  | clear _ | clearModifier => false
  | group1 => true
  | priority p => p
  | targets t => t

def change (b : Bulk) : Irq → Irq := b.setting.put b.value

/-- The first interrupt that is set. -/
def first (routed : Bool) : Bulk → Nat
  | priority _ => if routed then 32 else 0
  | targets _ => 32
  | _ => 0

/-- The first interrupt past those that are set. -/
def limit (bound : BitVec 32) : Bulk → Nat
  | priority _ | targets _ => min bound.toNat 1020
  | _ => min ((bound.toNat + 31) / 32 * 32) 1024

/-- The address of the table that is written, and how many bytes it has. -/
def table : Bulk → Nat × Nat
  | clear f => ((Layout.ordinary Region.distributor.base 32 64).clearing f, 128)
  | group1 => ((Layout.ordinary Region.distributor.base 32 64).plain .group1, 128)
  | clearModifier => ((Layout.ordinary Region.distributor.base 32 64).plain .groupModifier, 128)
  | priority _ => ((Layout.ordinary Region.distributor.base 32 64).priorities, 1020)
  | targets _ => (Region.distributor.base + 0x800, 1020)

variable {s : State} {b : Bulk}

lemma limit_le (b : Bulk) (bound : BitVec 32) : b.limit bound ≤ 1024 := by
  cases b <;> simp only [limit] <;> omega

/-! ### Their effect -/

lemma amends_call (security : Routed.SecurityState) (bound : BitVec 32)
    (hb : b.offered s.isRouted = true) :
    Amends (b.call s.isRouted security bound) s
      ((Bank.distributor s).Covers (b.first s.isRouted) (b.limit bound)) b.change := by
  have hkept := Bank.kept_distributor s
  have hbits : min ((bound.toNat + 31) / 32) (Bank.distributor s).layout.bitWords * 32
      = min ((bound.toNat + 31) / 32 * 32) 1024 := by
    show min _ 32 * 32 = _
    omega
  have hrange (lo : Nat) (p : Place) :
      (Bank.distributor s).Covers lo (lo + (min bound.toNat 1020 - lo)) p
        ↔ (Bank.distributor s).Covers lo (min bound.toNat 1020) p :=
    exists_congr fun j => and_congr_right fun hlo => and_congr_left fun _ => by omega
  have hsize (lo : Nat) (hlo : lo ≤ 1020) : lo + (min bound.toNat 1020 - lo) ≤ 1020 := by omega
  cases b with
  | clear f =>
    have h := hkept.fill_clearing f bound
    rw [hbits] at h
    cases s.isRouted <;> exact h
  | group1 =>
    have h := hkept.fill_plain (a := .group1) (Bool.or_true _) true bound
    rw [hbits] at h
    cases s.isRouted <;> exact h
  | clearModifier =>
    have hr : s.isRouted = true := hb
    have h := hkept.fill_plain (a := .groupModifier) (by simp [Bank.distributor, hr]) false bound
    rw [hbits] at h
    exact h
  | priority p =>
    rcases hr : s.isRouted with _ | _
    · exact (hkept.fill_priorities p (hsize 0 (by decide))).congr (hrange 0)
    · exact (hkept.fill_priorities p (hsize 32 (by decide))).congr (hrange 32)
  | targets t =>
    have hr : s.isRouted = false := by simpa [offered] using hb
    exact (Bank.fill_targets rfl hr t.mask le_rfl (hsize 32 (by decide))).congr (hrange 32)

lemma within_call (routed : Bool) (security : Routed.SecurityState) (bound : BitVec 32) :
    (b.call routed security bound).Within (Request.WritesIn b.table.1 b.table.2) := by
  have hfill (a : Nat) (v : BitVec 32) :
      (Table.fill ⟨a, 32⟩ bound v).Within (Request.WritesIn a 128) := by
    refine .each fun i _ (hi : i < 0 + min ((bound.toNat + 31) / 32) 32) => .request ?_
    simp only [Request.WritesIn, Table.word, Width.bytes]
    omega
  have hbyte {a lo n : Nat} (v : BitVec 8) (hn : lo + n ≤ 1020) :
      (each (fun i => write8 (a + i) v) lo n).Within (Request.WritesIn a 1020) := by
    refine .each fun i _ hi => .request ?_
    simp only [Request.WritesIn, Width.bytes]
    omega
  cases b with
  | clear f => cases routed <;> exact hfill ..
  | group1 => cases routed <;> exact hfill ..
  | clearModifier => exact hfill ..
  | priority p =>
    cases routed
    · exact hbyte p (by rw [Banked.idLimit]; omega)
    · exact hbyte p (by rw [Routed.idLimit]; omega)
  | targets t => exact hbyte t.mask (by rw [Banked.idLimit]; omega)

end Bulk

/-- **The operations on all interrupts below a bound set exactly those.** Whatever happened before and
whatever the bound, such an operation succeeds, writes to its own table only, and sets what it is for
of the interrupts in its span: up to a multiple of 32 where 32 of them share a word, and of private
interrupts those of the current core of a banked controller. Nothing else is different. -/
theorem bulk_sets_exactly_below {o : Options} {s : State} (hs : Reachable o s) {b : Bulk}
    (hb : b.offered o.isRouted = true) (security : Routed.SecurityState) (bound : BitVec 32) :
    ∃ t, (b.call o.isRouted security bound).run Board.answer (.controller s) = (.ok (), .controller t)
      ∧ State.Swept (b.first o.isRouted) (b.limit bound) b.change s t
      ∧ ∀ q ∈ (b.call o.isRouted security bound).requests Board.answer (.controller s),
        q.WritesIn b.table.1 b.table.2 := by
  rw [← hs.sound.isRouted] at hb ⊢
  obtain ⟨t, hrun, hchanges⟩ := Bulk.amends_call security bound hb
  exact ⟨t, hrun, State.swept_of_changes hs.sound (b.limit_le bound) hchanges,
    fun q hq => (Bulk.within_call ..).requests hq⟩

/-- Interrupts 40 and 70 are enabled, and 33 is edge triggered. -/
def Hardware.State.mixed (o : Options) : State :=
  [.access (.write .word (Region.distributor.base + 0x104) 0x100),
    .access (.write .word (Region.distributor.base + 0x108) 0x40),
    .access (.write .word (Region.distributor.base + 0xc08) 0x8)].foldl State.after (.reset o)

/-- Of the two, 40 shares its word with the last interrupt below the bound. -/
theorem bulk_sets_exactly_below_thirty_four :
    Reachable .banked (.mixed .banked) ∧ (Bulk.clear .enabled).offered false = true
      ∧ ∃ t, ((Bulk.clear .enabled).call false .single 34).run Board.answer (.controller (.mixed .banked))
          = (.ok (), .controller t)
        ∧ (t.irq? 40 0).map (·.enabled) = some false ∧ (t.irq? 70 0).map (·.enabled) = some true := by
  have hs : Reachable .banked (.mixed .banked) := Reachable.reset.foldl _
  obtain ⟨t, hrun, ht, -⟩ := bulk_sets_exactly_below hs (b := .clear .enabled) rfl .single 34
  refine ⟨hs, rfl, t, hrun, ?_, ?_⟩
  · rw [ht.inside ⟨by decide, by decide, .inl (by decide)⟩]
    decide +kernel
  · rw [ht.outside fun h => absurd h.2.1 (by decide)]
    decide +kernel

/-! ### Triggers -/

/-- The operation that makes all SPIs below a bound level triggered. -/
def setLevelAll (routed : Bool) (security : Routed.SecurityState) (bound : BitVec 32) : Program Unit :=
  if routed then (Routed.Distributor.mk Region.distributor.base security).setLevelAll bound
  else (Banked.Distributor.mk Region.distributor.base).setLevelAll bound

/-- The first interrupt past those that become level triggered. -/
def levelLimit (bound : BitVec 32) : Nat :=
  if bound.toNat ≤ 0xfffffff0 then min ((bound.toNat + 15) / 16 * 16) 1020 else 0

section Level

variable {o : Options} {s : State} {bound : BitVec 32} (routed : Bool) (security : Routed.SecurityState)

lemma setLevelAll_eq : setLevelAll routed security bound
    = (Layout.ordinary Region.distributor.base 32 64).triggerTable.fillLevel 2 bound := by
  cases routed <;> rfl

lemma within_setLevelAll : (setLevelAll routed security bound).Within
    (Request.WritesIn (Region.distributor.base + 0xc08) 248) := by
  rw [setLevelAll_eq]
  have hbelow :
      (Layout.ordinary Region.distributor.base 32 64).triggerTable.triggerWordsBelow bound ≤ 64 := by
    rw [Table.triggerWordsBelow_eq (by decide)]
    exact Nat.min_le_right ..
  refine .each fun i hi hlt => .request ?_
  show _ ≤ Region.distributor.base + 0xc00 + 4 * i ∧ Region.distributor.base + 0xc00 + 4 * i + 4 ≤ _
  omega

lemma levelLimit_le (bound : BitVec 32) : levelLimit bound ≤ 1020 := by
  unfold levelLimit
  split <;> omega

lemma levelLimit_mono {bound' : BitVec 32} (h : bound.toNat ≤ bound'.toNat)
    (hbound : bound'.toNat ≤ 0xfffffff0) : levelLimit bound ≤ levelLimit bound' := by
  rw [levelLimit, levelLimit, if_pos (h.trans hbound), if_pos hbound]
  omega

/-- The words that are written have no interrupts past 1020. -/
lemma covers_levelLimit (hbound : bound.toNat ≤ 0xfffffff0) (p : Place) :
    (Bank.distributor s).Covers 32 ((2 + (min ((bound.toNat + 15) / 16) 64 - 2)) * 16) p
      ↔ (Bank.distributor s).Covers 32 (levelLimit bound) p := by
  have hshared {j : Nat} (h1 : 32 ≤ j) (h2 : j < 1024)
      (hp : (Bank.distributor s).view ((Bank.distributor s).first + j) = some p) : j < 1020 := by
    have hlimit := State.sharedLimit_le s.options
    obtain ⟨c, -, hleads⟩ := State.leadsTo_of_place? (Bank.view_distributor_iff.mp hp).2
    cases hleads with
    | lpi | own | extendedOwn | shared | extendedShared => omega
  rw [levelLimit, if_pos hbound]
  refine exists_congr fun j => ⟨fun ⟨h1, h2, hp⟩ => ⟨h1, ?_, hp⟩, fun ⟨h1, h2, hp⟩ => ⟨h1, ?_, hp⟩⟩
  · have := hshared h1 (by omega) hp
    omega
  · omega

lemma run_setLevelAll_of_le (hs : s.Sound o) (hbound : bound.toNat ≤ 0xfffffff0) :
    ∃ t, (setLevelAll o.isRouted security bound).run Board.answer (.controller s)
        = (.ok (), .controller t)
      ∧ State.Swept 32 (levelLimit bound) (Setting.trigger.put .level) s t := by
  obtain ⟨t, hrun, ht⟩ := (Bank.kept_distributor s).fill_level
    (show (Bank.distributor s).fixed ≤ 2 from Nat.le_succ 1) bound hbound
    (show 64 < 0x100000000 by decide)
  rw [setLevelAll_eq]
  exact ⟨t, hrun, State.swept_of_changes hs ((levelLimit_le bound).trans (by decide))
    (ht.congr fun p => covers_levelLimit hbound p)⟩

/-- No word is written for the greatest bounds, as their number wraps. -/
lemma run_setLevelAll_of_lt (hbound : 0xfffffff0 < bound.toNat) :
    (setLevelAll routed security bound).run Board.answer (.controller s)
      = (.ok (), .controller s) := by
  rw [setLevelAll_eq, Table.fillLevel,
    Table.triggerWordsBelow_of_lt (show 64 < 0x100000000 by decide) hbound]
  rfl

end Level

/-- **All SPIs below a bound become level triggered, unless the bound is one of the greatest.** Whatever
happened before and whatever the bound, the operation succeeds and writes triggers of SPIs only. Up to
the bound 0xfffffff0 the SPIs below the next multiple of 16 are level triggered, nothing else is
different, and a greater bound covers no less. For the bounds past that one, nothing happens. -/
theorem setLevelAll_covers_unless_wrapped {o : Options} {s : State} (hs : Reachable o s)
    (security : Routed.SecurityState) (bound : BitVec 32) :
    ∃ t, (setLevelAll o.isRouted security bound).run Board.answer (.controller s)
        = (.ok (), .controller t)
      ∧ (∀ q ∈ (setLevelAll o.isRouted security bound).requests Board.answer (.controller s),
        q.WritesIn (Region.distributor.base + 0xc08) 248)
      ∧ State.Swept 32 (levelLimit bound) (Setting.trigger.put .level) s t
      ∧ (bound.toNat ≤ 0xfffffff0 →
        (∀ id cpu q, 32 ≤ id → id < 1020 → id < bound.toNat → t.irq? id cpu = some q → q.edge = false)
        ∧ ∀ bound' : BitVec 32, bound.toNat ≤ bound'.toNat → bound'.toNat ≤ 0xfffffff0 →
          levelLimit bound ≤ levelLimit bound')
      ∧ (0xfffffff0 < bound.toNat → t = s) := by
  have hrequests : ∀ q ∈ (setLevelAll o.isRouted security bound).requests Board.answer (.controller s),
      q.WritesIn (Region.distributor.base + 0xc08) 248 := fun q hq => (within_setLevelAll ..).requests hq
  rcases Nat.lt_or_ge 0xfffffff0 bound.toNat with hlt | hle
  · refine ⟨s, run_setLevelAll_of_lt _ _ hlt, hrequests, ⟨rfl, ?_, fun _ => rfl, fun _ => rfl⟩,
      fun h => absurd h (by omega), fun _ => rfl⟩
    rintro id cpu ⟨h1, h2, -⟩
    rw [levelLimit, if_neg (by omega)] at h2
    omega
  · obtain ⟨t, hrun, ht⟩ := run_setLevelAll_of_le security hs.sound hle
    refine ⟨t, hrun, hrequests, ht, fun _ => ⟨?_, fun _ => levelLimit_mono⟩,
      fun h => absurd h (by omega)⟩
    intro id cpu q h32 h1020 hid hq
    have hspans : s.Spans 32 (levelLimit bound) id cpu := by
      refine ⟨h32, ?_, .inl h32⟩
      rw [levelLimit, if_pos hle]
      omega
    rw [ht.inside hspans] at hq
    obtain ⟨q', -, rfl⟩ := Option.map_eq_some_iff.mp hq
    rfl

/-- Bound 34 covers SPI 33, with the others of its word. -/
theorem setLevelAll_covers_thirty_three :
    Reachable .routed (.mixed .routed)
      ∧ ∃ t, (setLevelAll true .single 34).run Board.answer (.controller (.mixed .routed))
          = (.ok (), .controller t)
        ∧ ((State.mixed .routed).irq? 33 0).map (·.edge) = some true
        ∧ (t.irq? 33 0).map (·.edge) = some false := by
  have hs : Reachable .routed (.mixed .routed) := Reachable.reset.foldl _
  obtain ⟨t, hrun, -, ht, -⟩ := setLevelAll_covers_unless_wrapped hs .single 34
  refine ⟨hs, t, hrun, by decide +kernel, ?_⟩
  rw [ht.inside ⟨by decide, by decide, .inl (by decide)⟩]
  decide +kernel

/-- The greatest bound is past SPI 33 too, which stays edge triggered. -/
theorem setLevelAll_misses_below_greatest :
    Reachable .banked (.mixed .banked) ∧ 33 < (0xffffffff : BitVec 32).toNat
      ∧ ∃ t, (setLevelAll false .single 0xffffffff).run Board.answer (.controller (.mixed .banked))
          = (.ok (), .controller t) ∧ (t.irq? 33 0).map (·.edge) = some true :=
  ⟨Reachable.reset.foldl _, by decide, _, run_setLevelAll_of_lt _ _ (by decide), by decide +kernel⟩

end InterruptControl
