import InterruptControl.Proofs.Bus.Bank
import InterruptControl.Proofs.Registers.Table

/-!
Whole tables at once: a loop over the words of a table does to all the interrupts of a bank what
a write of one word does to those of the word, and leaves all others alone.

The change of one interrupt is the same everywhere and is nothing if it is made again, so neither
the order of the words nor one that is written twice matters.
-/

namespace InterruptControl

open Program

namespace Hardware.State

variable {s t u : State} {A B : Place → Prop} {f g : Irq → Irq}

/-- The interrupts at some places are changed, and nothing else is different. -/
structure Changes (A : Place → Prop) (g : Irq → Irq) (s t : State) : Prop where
  bare : t.bare = s.bare
  on {p : Place} (h : A p) : t.at? p = (s.at? p).map g
  off {p : Place} (h : ¬ A p) : t.at? p = s.at? p

namespace Changes

lemma refl (hA : ∀ p, ¬ A p) (s : State) : Changes A g s s :=
  ⟨rfl, fun h => absurd h (hA _), fun _ => rfl⟩

lemma congr (h : Changes A g s t) (hAB : ∀ p, A p ↔ B p) : Changes B g s t :=
  ⟨h.bare, fun hB => h.on ((hAB _).mpr hB), fun hB => h.off fun hA => hB ((hAB _).mp hA)⟩

/-- Two changes of the same interrupts. -/
lemma trans (h : Changes A f s t) (h' : Changes A g t u) : Changes A (g ∘ f) s u := by
  refine ⟨h'.bare.trans h.bare, fun hA => ?_, fun hA => ?_⟩
  · rw [h'.on hA, h.on hA, Option.map_map]
  · rw [h'.off hA, h.off hA]

/-- The same change of two sets of interrupts. -/
lemma union (hg : ∀ q, g (g q) = g q) (h : Changes A g s t) (h' : Changes B g t u) :
    Changes (fun p => A p ∨ B p) g s u := by
  have hgg : g ∘ g = g := funext hg
  refine ⟨h'.bare.trans h.bare, fun {p} hAB => ?_, fun {p} hAB => ?_⟩
  · by_cases hA : A p
    · by_cases hB : B p
      · rw [h'.on hB, h.on hA, Option.map_map, hgg]
      · rw [h'.off hB, h.on hA]
    · rw [h'.on (hAB.resolve_left hA), h.off hA]
  · rw [not_or] at hAB
    rw [h'.off hAB.2, h.off hAB.1]

lemma modify (s : State) (p : Place) (g : Irq → Irq) : Changes (· = p) g s (s.modify p g) :=
  ⟨bare_modify .., fun {p'} h => by rw [h, at?_modify_self], fun h => at?_modify_of_ne s g h⟩

lemma modifyAt (s : State) (view : Nat → Option Place) (i : Nat) (g : Irq → Irq) :
    Changes (fun p => view i = some p) g s (s.modifyAt view i g) := by
  unfold State.modifyAt
  rcases hv : view i with _ | p
  · exact refl (by simp) s
  · exact (modify s p g).congr fun p' => by rw [Option.some.injEq, eq_comm]

/-- A word in which the same becomes of all interrupts. -/
lemma modifyMany {rule : Nat → Irq → Irq} {l : List Nat} (hg : ∀ q, g (g q) = g q)
    (view : Nat → Option Place) (first : Nat) (hrule : ∀ i ∈ l, rule i = g) (s : State) :
    Changes (fun p => ∃ i ∈ l, view (first + i) = some p) g s (s.modifyMany view first rule l) := by
  induction l generalizing s with
  | nil => exact refl (by simp) s
  | cons i rest ih =>
    obtain ⟨hi, hrest⟩ := List.forall_mem_cons.mp hrule
    have hstep : s.modifyMany view first rule (i :: rest)
        = (s.modifyAt view (first + i) g).modifyMany view first rule rest := by
      rw [State.modifyMany, State.modifyAt]
      split <;> simp_all
    rw [hstep]
    refine ((modifyAt s view (first + i) g).union hg (ih hrest _)).congr fun p => ?_
    simp only [List.mem_cons, exists_eq_or_imp]

end Changes

/-- What a word of ones or of zeros does to each of its interrupts. -/
lemma changes_writeBits {field : Field} {r : WriteRule} {v : BitVec 32} {b : Bool}
    (hv : ∀ i < 32, r.apply field (v.getLsbD i) = (·.put field b)) (view : Nat → Option Place)
    (first : Nat) (s : State) : Changes (fun p => ∃ i < 32, view (first + i) = some p)
      (·.put field b) s (s.writeBits view first field r v) := by
  have hput : ∀ q : Irq, (q.put field b).put field b = q.put field b := by
    intro q
    cases field <;> rfl
  refine (Changes.modifyMany hput view first (fun i hi => hv i (List.mem_range.mp hi)) s).congr ?_
  simp only [List.mem_range, implies_true]

lemma changes_writeTriggers (view : Nat → Option Place) (first : Nat) (s : State) :
    Changes (fun p => ∃ i < 16, view (first + i) = some p) (fun q => { q with edge := false }) s
      (s.writeTriggers view first 0) := by
  have hrule (i : Nat) : (fun q : Irq => { q with edge := (0 : BitVec 32).getLsbD (2 * i + 1) })
      = fun q => { q with edge := false } := by simp
  refine (Changes.modifyMany (g := fun q => { q with edge := false }) (fun q => rfl) view first
    (fun i _ => hrule i) s).congr ?_
  simp only [List.mem_range, implies_true]

end Hardware.State

namespace Bus

open Hardware

variable {s : State} {g : Irq → Irq}

/-- The program runs on the controller and changes the interrupts at some places. -/
def Amends (p : Program Unit) (s : State) (A : Place → Prop) (g : Irq → Irq) : Prop :=
  ∃ t, p.run Board.answer (.controller s) = (.ok (), .controller t) ∧ State.Changes A g s t

namespace Amends

variable {p q : Program Unit} {A B : Place → Prop} {f : Irq → Irq}

lemma congr (h : Amends p s A g) (hAB : ∀ p, A p ↔ B p) : Amends p s B g :=
  h.imp fun _ ⟨hrun, ht⟩ => ⟨hrun, ht.congr hAB⟩

/-- A loop each of whose rounds changes a part of the interrupts. -/
lemma each (hg : ∀ q, g (g q) = g q) {p : Nat → Program Unit} {A : Nat → Place → Prop}
    {start n : Nat} (hp : ∀ i, start ≤ i → i < start + n → ∀ t : State, t.bare = s.bare →
      Amends (p i) t (A i) g) :
    Amends (Program.each p start n) s (fun x => ∃ i, start ≤ i ∧ i < start + n ∧ A i x) g := by
  induction n generalizing start s with
  | zero =>
    refine ⟨s, rfl, .refl ?_ s⟩
    rintro x ⟨i, h1, h2, -⟩
    omega
  | succ n ih =>
    obtain ⟨t, hrun, ht⟩ := hp start le_rfl (by omega) s rfl
    obtain ⟨u, hrun', hu⟩ := @ih t (start + 1) fun i h1 h2 v hv =>
      hp i (by omega) (by omega) v (hv.trans ht.bare)
    refine ⟨u, (run_bind_ok hrun).trans hrun', (ht.union hg hu).congr fun x => ?_⟩
    constructor
    · rintro (h | ⟨i, h1, h2, h⟩)
      · exact ⟨start, le_rfl, by omega, h⟩
      · exact ⟨i, by omega, by omega, h⟩
    · rintro ⟨i, h1, h2, h⟩
      rcases eq_or_ne i start with rfl | hne
      · exact .inl h
      · exact .inr ⟨i, by omega, by omega, h⟩

end Amends

namespace Bank

variable {b : Bank}

/-- The place of one of the interrupts of the bank from number `lo` on and below number `hi`. -/
def Covers (b : Bank) (lo hi : Nat) (p : Place) : Prop :=
  ∃ j, lo ≤ j ∧ j < hi ∧ b.view (b.first + j) = some p

/-- One word of `w` interrupts. -/
lemma covers_word {w k : Nat} {p : Place} :
    (∃ i < w, b.view (b.first + k * w + i) = some p) ↔ b.Covers (k * w) (k * w + w) p := by
  constructor
  · rintro ⟨i, hi, hp⟩
    exact ⟨k * w + i, Nat.le_add_right .., by omega, by rwa [← Nat.add_assoc]⟩
  · rintro ⟨j, h1, h2, hp⟩
    exact ⟨j - k * w, by omega, by rwa [Nat.add_assoc, Nat.add_sub_cancel' h1]⟩

/-- Words in a row. -/
lemma covers_words {w : Nat} (hw : 0 < w) {lo hi : Nat} {p : Place} :
    (∃ i, lo ≤ i ∧ i < hi ∧ b.Covers (i * w) (i * w + w) p) ↔ b.Covers (lo * w) (hi * w) p := by
  constructor
  · rintro ⟨i, h1, h2, j, hj, hj', hp⟩
    refine ⟨j, (Nat.mul_le_mul_right w h1).trans hj, hj'.trans_le ?_, hp⟩
    calc i * w + w = (i + 1) * w := (Nat.succ_mul i w).symm
      _ ≤ hi * w := Nat.mul_le_mul_right w h2
  · rintro ⟨j, h1, h2, hp⟩
    have hj : j / w * w + j % w = j := Nat.div_add_mod' j w
    have hlt : j % w < w := Nat.mod_lt j hw
    exact ⟨j / w, (Nat.le_div_iff_mul_le hw).mpr h1, (Nat.div_lt_iff_lt_mul hw).mpr h2, j,
      by omega, by omega, hp⟩

/-- The controller keeps the bank whatever becomes of its interrupts. -/
def Kept (b : Bank) (s : State) : Prop := ∀ t : State, t.bare = s.bare → b.Keeps t

/-- A word of ones takes down the flags that it is about. -/
lemma apply_clear (f : Flag) : ∀ i < 32,
    WriteRule.clear.apply f.field ((BitVec.allOnes 32).getLsbD i) = (·.put f.field false) := by
  intro i hi
  rw [BitVec.getLsbD_allOnes, decide_eq_true hi]
  rfl

namespace Kept

variable (h : b.Kept s)
include h

lemma of_bare {t : State} (ht : t.bare = s.bare) : b.Kept t := fun u hu => h u (hu.trans ht)

/-- One word of a table. -/
lemma write_word {t : Table} {field : Field} {r : WriteRule} (ht : b.Shows t field r)
    {v : BitVec 32} {x : Bool} (hv : ∀ i < 32, r.apply field (v.getLsbD i) = (·.put field x)) {k : Nat}
    (hk : k < t.words) : Amends (write32 (t.word k) v) s (b.Covers (k * 32) (k * 32 + 32))
      (·.put field x) :=
  ⟨_, (run_write32 ..).trans ((h s rfl).writeBits ht hk v),
    (State.changes_writeBits hv b.view _ s).congr fun _ => covers_word⟩

/-- The words that have a bit for an interrupt below a bound. -/
lemma fill_words {t : Table} {field : Field} {r : WriteRule} (ht : b.Shows t field r)
    {v : BitVec 32} {x : Bool} (hv : ∀ i < 32, r.apply field (v.getLsbD i) = (·.put field x))
    (bound : BitVec 32) : Amends (t.fill bound v) s
      (b.Covers 0 (min ((bound.toNat + 31) / 32) t.words * 32)) (·.put field x) := by
  have hput : ∀ q : Irq, (q.put field x).put field x = q.put field x := by
    intro q
    cases field <;> rfl
  refine (Amends.each hput fun i _ hi u hu => (h.of_bare hu).write_word ht hv (by omega)).congr
    fun p => ?_
  rw [covers_words (by decide), Nat.zero_mul, Nat.zero_add]

lemma fill_clearing (f : Flag) (bound : BitVec 32) :
    Amends ((b.layout.clearingTable f).fill bound (.allOnes 32)) s
      (b.Covers 0 (min ((bound.toNat + 31) / 32) b.layout.bitWords * 32)) (·.put f.field false) :=
  h.fill_words (.clearing f) (apply_clear f) bound

lemma fill_plain {a : Attribute} (ha : b.offers a = true) (x : Bool) (bound : BitVec 32) :
    Amends ((b.layout.plainTable a).fill bound (if x then .allOnes 32 else 0)) s
      (b.Covers 0 (min ((bound.toNat + 31) / 32) b.layout.bitWords * 32)) (·.put a.field x) := by
  refine h.fill_words (.plain ha) (fun i hi => ?_) bound
  cases x with
  | true =>
    rw [if_pos rfl, BitVec.getLsbD_allOnes, decide_eq_true hi]
    rfl
  | false =>
    rw [if_neg Bool.false_ne_true, BitVec.ofNat_eq_ofNat, BitVec.getLsbD_zero]
    rfl

/-- All three flags are taken down, and something else follows. -/
lemma clear_flags (bound : BitVec 32) : ∃ t,
    (∀ {α : Type} (k : Unit → Program α),
      ((b.layout.clearingTable .enabled).fill bound (.allOnes 32) >>= fun _ =>
        (b.layout.clearingTable .pending).fill bound (.allOnes 32) >>= fun _ =>
        (b.layout.clearingTable .active).fill bound (.allOnes 32) >>= k).run Board.answer (.controller s)
          = (k ()).run Board.answer (.controller t))
      ∧ State.Changes (b.Covers 0 (min ((bound.toNat + 31) / 32) b.layout.bitWords * 32))
          (fun q => { q with enabled := false, pending := false, active := false }) s t := by
  obtain ⟨t1, hrun1, h1⟩ := h.fill_clearing .enabled bound
  obtain ⟨t2, hrun2, h2⟩ := (h.of_bare h1.bare).fill_clearing .pending bound
  obtain ⟨t3, hrun3, h3⟩ := (h.of_bare (h2.bare.trans h1.bare)).fill_clearing .active bound
  refine ⟨t3, fun k => ?_, (h1.trans h2).trans h3⟩
  exact (run_bind_ok hrun1).trans ((run_bind_ok hrun2).trans (run_bind_ok hrun3))

/-- And then all of them are put into group 1 of the non-secure state. -/
lemma clear_groups (ha : ∀ a, b.offers a = true) (bound : BitVec 32) : ∃ t,
    (∀ {α : Type} (k : Unit → Program α),
      ((b.layout.clearingTable .enabled).fill bound (.allOnes 32) >>= fun _ =>
        (b.layout.clearingTable .pending).fill bound (.allOnes 32) >>= fun _ =>
        (b.layout.clearingTable .active).fill bound (.allOnes 32) >>= fun _ =>
        (b.layout.plainTable .group1).fill bound (.allOnes 32) >>= fun _ =>
        (b.layout.plainTable .groupModifier).fill bound 0 >>= k).run Board.answer (.controller s)
          = (k ()).run Board.answer (.controller t))
      ∧ State.Changes (b.Covers 0 (min ((bound.toNat + 31) / 32) b.layout.bitWords * 32))
          (fun q => { q with
            enabled := false, pending := false, active := false, group1 := true
            groupModifier := false }) s t := by
  obtain ⟨t1, hrun1, h1⟩ := h.clear_flags bound
  obtain ⟨t2, hrun2, h2⟩ := (h.of_bare h1.bare).fill_plain (ha .group1) true bound
  obtain ⟨t3, hrun3, h3⟩ := (h.of_bare (h2.bare.trans h1.bare)).fill_plain (ha .groupModifier) false bound
  refine ⟨t3, fun k => ?_, (h1.trans h2).trans h3⟩
  exact (hrun1 _).trans ((run_bind_ok hrun2).trans (run_bind_ok hrun3))

/-- Priorities stand in bytes. -/
lemma fill_priorities (p : Priority) {lo n : Nat} (hn : lo + n ≤ b.size) :
    Amends (each (fun i => write8 (b.layout.priorities + i) p) lo n) s (b.Covers lo (lo + n))
      fun q => { q with priority := p } := by
  refine Amends.each (A := fun i x => b.view (b.first + i) = some x)
    (g := fun q => { q with priority := p }) (fun q => rfl) fun i _ hi u hu => ?_
  exact ⟨_, (run_write8 ..).trans ((h u hu).writePriority (by omega) p),
    State.Changes.modifyAt u b.view _ _⟩

/-- However many words of triggers are counted, from `skip` on all of them become level. -/
lemma fill_levelWords {skip : Nat} (hskip : b.fixed ≤ skip) (bound : BitVec 32)
    (hwords : b.layout.triggerWords < 0x100000000) :
    Amends (b.layout.triggerTable.fillLevel skip bound) s
      (b.Covers (skip * 16) ((skip + (b.layout.triggerTable.triggerWordsBelow bound - skip)) * 16))
      fun q => { q with edge := false } := by
  have hbelow : b.layout.triggerTable.triggerWordsBelow bound ≤ b.layout.triggerWords := by
    rw [Table.triggerWordsBelow_eq hwords]
    exact Nat.min_le_right ..
  have hround : ∀ i, skip ≤ i →
      i < skip + (b.layout.triggerTable.triggerWordsBelow bound - skip) → ∀ u : State,
      u.bare = s.bare → Amends (write32 (b.layout.triggerTable.word i) 0) u
        (b.Covers (i * 16) (i * 16 + 16)) (fun q => { q with edge := false }) := by
    intro i hi hlt u hu
    exact ⟨_, (run_write32 ..).trans ((h u hu).writeTriggers (by omega) (hskip.trans hi) 0),
      (State.changes_writeTriggers b.view _ u).congr fun _ => covers_word⟩
  refine (Amends.each (g := fun q => { q with edge := false }) (fun q => rfl) hround).congr
    fun p => ?_
  rw [covers_words (by decide)]

lemma fill_level {skip : Nat} (hskip : b.fixed ≤ skip) (bound : BitVec 32)
    (hbound : bound.toNat ≤ 0xfffffff0) (hwords : b.layout.triggerWords < 0x100000000) :
    Amends (b.layout.triggerTable.fillLevel skip bound) s
      (b.Covers (skip * 16)
        ((skip + (min ((bound.toNat + 15) / 16) b.layout.triggerWords - skip)) * 16))
      fun q => { q with edge := false } :=
  Table.triggerWordsBelow_of_le (t := b.layout.triggerTable) hwords hbound
    ▸ h.fill_levelWords hskip bound hwords

end Kept

/-! ### The banks of a controller -/

/-- The distributor of a routed controller has no private interrupts. -/
lemma view_distributor_iff {j : Nat} {p : Place} :
    (distributor s).view ((distributor s).first + j) = some p
      ↔ ¬ (s.isRouted = true ∧ j < 32) ∧ s.place? j s.current = some p := by
  rw [first_distributor]
  simp only [distributor, State.distributorView]
  by_cases h : s.isRouted = true ∧ j < 32 <;> simp [h]

/-- All the interrupts of the distributor that are built in. The private ones of the current core
are among them on a banked controller. -/
lemma covers_distributor {c : Core} (hc : s.cores[s.current]? = some c) {lo hi : Nat}
    (hhi : s.options.sharedLimit ≤ hi) (h32 : 32 ≤ hi) (hle : hi ≤ 1024) {p : Place} :
    (distributor s).Covers lo hi p ↔
      (s.isRouted = false ∧ ∃ i, lo ≤ i ∧ i < 32 ∧ p = .own s.current i)
        ∨ ∃ i, lo ≤ i ∧ 32 ≤ i ∧ i < s.options.sharedLimit ∧ p = .shared i := by
  have h96 := privateCount_le s.options
  constructor
  · rintro ⟨j, h1, h2, hp⟩
    obtain ⟨hprivate, hplace⟩ := view_distributor_iff.mp hp
    obtain ⟨c', hc', hleads⟩ := State.leadsTo_of_place? hplace
    cases hleads with
    | own hj =>
      refine .inl ⟨?_, j, h1, hj, rfl⟩
      exact Bool.eq_false_iff.mpr fun hr => hprivate ⟨hr, hj⟩
    | shared hj hj' => exact .inr ⟨j, h1, hj, hj', rfl⟩
    | lpi | extendedOwn | extendedShared => omega
  · rintro (⟨hr, i, h1, h2, rfl⟩ | ⟨i, h1, h2, h3, rfl⟩)
    · exact ⟨i, h1, by omega, view_distributor_iff.mpr ⟨by simp [hr], State.place?_of_lt s hc h2⟩⟩
    · refine ⟨i, h1, by omega, view_distributor_iff.mpr ⟨fun h => absurd h.2 (by omega), ?_⟩⟩
      exact State.place?_of_leadsTo hc h96 (.shared h2 h3)

/-- The first word of each table of a banked controller is about the private interrupts. -/
lemma covers_first {c : Core} (hr : s.isRouted = false) (hc : s.cores[s.current]? = some c) {p : Place} :
    (distributor s).Covers 0 32 p ↔ ∃ i < 32, p = .own s.current i := by
  have hview {i : Nat} (hi : i < 32) : (distributor s).view ((distributor s).first + i)
      = some (.own s.current i) := by
    rw [first_distributor]
    simp only [distributor, State.distributorView, hr, Bool.false_and, Bool.false_eq_true, if_false]
    exact State.place?_of_lt s hc hi
  constructor
  · rintro ⟨i, -, hi, hp⟩
    exact ⟨i, hi, Option.some.inj (hp.symm.trans (hview hi))⟩
  · rintro ⟨i, hi, rfl⟩
    exact ⟨i, Nat.zero_le i, hi, hview hi⟩

/-- All the extended SPIs. -/
lemma covers_extended {c : Core} (hc : s.cores[s.current]? = some c) {hi : Nat}
    (hhi : s.options.extendedCount ≤ hi) (hle : hi ≤ 1024) {p : Place} :
    (extended s).Covers 0 hi p ↔ ∃ i < s.options.extendedCount, p = .shared (1024 + i) := by
  have hview (j : Nat) : (extended s).view ((extended s).first + j)
      = s.place? (4096 + j) s.current := by
    simp only [extended, State.distributorView]
    rw [decide_eq_false (show ¬ 4096 + j < 32 by omega), Bool.and_false, if_neg Bool.false_ne_true]
  have h96 := privateCount_le s.options
  have hlimit := State.sharedLimit_le s.options
  constructor
  · rintro ⟨j, -, h2, hp⟩
    rw [hview] at hp
    obtain ⟨c', hc', hleads⟩ := State.leadsTo_of_place? hp
    generalize hn : 4096 + j = n at hleads
    cases hleads with
    | extendedShared hj hj' h8 =>
      have hindex : n - 3072 = 1024 + j := by omega
      exact ⟨j, by omega, congrArg Place.shared hindex⟩
    | lpi | own | extendedOwn | shared => omega
  · rintro ⟨i, h1, rfl⟩
    have hindex : 4096 + i - 3072 = 1024 + i := by omega
    refine ⟨i, Nat.zero_le i, by omega, ?_⟩
    rw [hview, State.place?_of_leadsTo hc h96 (.extendedShared (by omega) (by omega) (by omega)),
      hindex]

/-- All the private interrupts of a core. -/
lemma covers_redistributor {cpu : Nat} {c : Core} (hr : s.isRouted = true)
    (hc : s.cores[cpu]? = some c) {hi : Nat} (hhi : s.options.privateCount ≤ hi) {p : Place} :
    (redistributor s cpu).Covers 0 hi p ↔ ∃ i < s.options.privateCount, p = .own cpu i := by
  have hview (j : Nat) : (redistributor s cpu).view ((redistributor s cpu).first + j)
      = s.redistributorView cpu j := congrArg _ (Nat.zero_add j)
  have h96 := privateCount_le s.options
  have hown {j : Nat} (hj : j < s.options.privateCount) :
      s.redistributorView cpu j = some (.own cpu j) := by
    rw [State.redistributorView, if_pos hj]
    by_cases h32 : j < 32
    · rw [Hardware.privateNumber, if_pos h32]
      exact State.place?_of_lt s hc h32
    · rw [Hardware.privateNumber, if_neg h32,
        State.place?_extended s hc hr (by omega) (by omega) h96, Nat.add_sub_cancel]
  constructor
  · rintro ⟨j, -, -, hp⟩
    rw [hview] at hp
    have hj : j < s.options.privateCount := by
      by_contra hj
      simp [State.redistributorView, hj] at hp
    exact ⟨j, hj, Option.some.inj (hp.symm.trans (hown hj))⟩
  · rintro ⟨i, h1, rfl⟩
    exact ⟨i, Nat.zero_le i, by omega, by rw [hview, hown h1]⟩

lemma distributorView_of_bare {t : State} (ht : t.bare = s.bare) :
    t.distributorView = s.distributorView := by
  funext i
  simp only [State.distributorView, State.isRouted_of_bare ht, State.current_of_bare ht,
    State.place?_of_bare ht]

lemma kept_distributor (s : State) : (distributor s).Kept s := by
  intro t ht
  have hsame : distributor s = distributor t := by
    simp only [distributor, distributorView_of_bare ht, State.isRouted_of_bare ht]
  exact hsame ▸ keeps_distributor t

/-- Targets stand in bytes, too, and only a banked controller has them. -/
lemma fill_targets {t : State} (ht : t.bare = s.bare) (hr : s.isRouted = false) (mask : BitVec 8)
    {lo n : Nat} (hlo : 32 ≤ lo) (hn : lo + n ≤ 1020) :
    Amends (each (fun i => write8 (Banked.Distributor.targetAddress ⟨Region.distributor.base⟩ i) mask)
      lo n) t ((distributor s).Covers lo (lo + n)) fun q => { q with targets := mask } := by
  refine Amends.each (A := fun i x => (distributor s).view ((distributor s).first + i) = some x)
    (g := fun q => { q with targets := mask }) (fun q => rfl) fun i hi hlt u hu => ?_
  have hbare : u.bare = s.bare := hu.trans ht
  have hview : (distributor s).view = u.distributorView := (distributorView_of_bare hbare).symm
  have hwrite := (answer_byte (s := u) (d := 0x800) (i := i) (by omega)).2 mask
  rw [State.writeDistributorByte_targets ((State.isRouted_of_bare hbare).trans hr) (by omega)
    (by omega)] at hwrite
  refine ⟨_, (run_write8 ..).trans hwrite, ?_⟩
  rw [first_distributor, hview]
  exact State.Changes.modifyAt u u.distributorView i _

lemma kept_extended (hr : s.isRouted = true) : (extended s).Kept s := by
  intro t ht
  have hsame : extended s = extended t := by
    simp only [extended, distributorView_of_bare ht]
  exact hsame ▸ keeps_extended ((State.isRouted_of_bare ht).trans hr)

lemma kept_redistributor {cpu : Nat} {c : Core} (h : OnBus s cpu c) : (redistributor s cpu).Kept s := by
  intro t ht
  obtain ⟨c', hc', -⟩ := State.exists_core_of_bare ht.symm h.core
  have hoptions := State.options_of_bare ht
  have hsame : redistributor s cpu = redistributor t cpu := by
    have hview : s.redistributorView cpu = t.redistributorView cpu := by
      funext i
      simp only [State.redistributorView, hoptions, State.place?_of_bare ht]
    simp only [redistributor, hview, hoptions]
  rw [hsame]
  exact keeps_redistributor ⟨(State.isRouted_of_bare ht).trans h.routed, hc', hoptions ▸ h.built,
    hoptions ▸ h.reached⟩

end Bank

end Bus

end InterruptControl
