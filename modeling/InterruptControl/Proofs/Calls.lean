import InterruptControl.Proofs.Cell
import InterruptControl.Proofs.Gic.Requests
import InterruptControl.Proofs.Gic.Configure

/-!
Calls about one interrupt are carried out for exactly the interrupts that have a register.

A call asks the hardware who is there at most, and accesses the one cell that holds the interrupt. If
it is refused it has done no more than ask.
-/

namespace InterruptControl

open Bus Hardware Program

/-! ### Asking who is there -/

/-- Reads of the registers by which the distributor, the redistributors and the core say what they
are. -/
inductive Identifies (o : Options) : Request → Prop
  | distributor : Identifies o (.read .word (Region.distributor.base + 0x4))
  | redistributor {cpu : Nat} (hr : o.isRouted = true) (hcpu : cpu < o.cpus) :
    Identifies o (.read .doubleword (Region.redistributors.base + cpu * o.stride + 0x8))
  | core : Identifies o (.readSystem .coreAffinity)

lemma Identifies.answer_eq {o : Options} {s : State} {q : Request} (h : Identifies o q)
    (hs : s.Sound o) (hfit : o.Fits) :
    (Board.answer (.controller s) q).2 = .controller s := by
  cases h with
  | distributor => rw [Board.answer_read_distributor (o := 0x4) .word rfl (by omega)]
  | redistributor hr hcpu =>
    obtain ⟨c, hon⟩ := Keeper.onBus hs hfit hr hcpu
    obtain rfl := hs.options
    rw [Bank.answer_core hon (o := 0x8) .doubleword (by omega)]
  | core => rw [Board.answer_readSystem, State.readSystem_of_ne (by decide)]

/-- The call asks who is there, and if it is `allowed` it accesses the cell as well. -/
def Asks (o : Options) (allowed : Prop) (c : Cell) (q : Request) : Prop :=
  Identifies o q ∨ allowed ∧ c.Accessed q

/-- The call is carried out at once if it is `allowed`, and is refused otherwise. It asks who is
there, and accesses the cell only if it is allowed. -/
structure Hardware.State.Admits {α : Type} (s : State) (o : Options) (p : Program α) (allowed : Prop)
    (c : Cell) : Prop where
  accepted (h : allowed) : ∃ a t, p.run Board.answer (.controller s) = (.ok a, .controller t)
  refused (h : ¬ allowed) : p.run Board.answer (.controller s) = (.error .assertion, .controller s)
  atOnce : p.AtOnce Board.answer (Asks o allowed c) (.controller s)

/-- A part of a call that only asks. -/
lemma Program.AtOnce.of_identifies {α : Type} {o : Options} {s : State} {p : Program α}
    {P : Request → Prop} (hs : s.Sound o) (hfit : o.Fits)
    (h : ∀ q ∈ p.requests Board.answer (.controller s), Identifies o q)
    (hP : ∀ q, Identifies o q → P q) : p.AtOnce Board.answer P (.controller s) :=
  .of_requests fun q hq => ⟨hP q (h q hq), (h q hq).answer_eq hs hfit⟩

namespace Hardware.State.Admits

variable {α β : Type} {o : Options} {s : State} {p : Program α} {f : α → Program β} {a : α} {b : Bool}
  {allowed : Prop} {c : Cell}

/-- The call finds out where to go, or that it may not, and then goes there. -/
lemma of_guarded (hs : s.Sound o) (hfit : o.Fits) (hb : b = true ↔ allowed)
    (hrun : p.run Board.answer (.controller s)
      = (if b then .ok a else .error .assertion, .controller s))
    (hp : p.Within (Identifies o))
    (hok : allowed → ∃ r t, (p >>= f).run Board.answer (.controller s) = (.ok r, .controller t))
    (hf : allowed → (f a).AtOnce Board.answer c.Accessed (.controller s)) :
    s.Admits o (p >>= f) allowed c := by
  have hask := Program.AtOnce.of_identifies (P := Asks o allowed c) hs hfit (fun _ => hp.requests)
    fun _ => .inl
  refine ⟨hok, fun h => ?_, ?_⟩
  · rw [if_neg (mt hb.mp h)] at hrun
    exact run_bind_error hrun
  · by_cases h : allowed
    · rw [if_pos (hb.mpr h)] at hrun
      exact hask.bind hrun ((hf h).mono fun _ hq => .inr ⟨h, hq⟩)
    · rw [if_neg (mt hb.mp h)] at hrun
      exact hask.bind_error hrun

/-- The call is carried out if a condition holds. -/
lemma of_require (hb : b = true ↔ allowed)
    (hok : allowed → ∃ r t, p.run Board.answer (.controller s) = (.ok r, .controller t))
    (hp : allowed → p.AtOnce Board.answer c.Accessed (.controller s)) :
    s.Admits o (require b >>= fun _ => p) allowed c where
  accepted h := by
    rw [run_require_bind, if_pos (hb.mpr h)]
    exact hok h
  refused h := by rw [run_require_bind, if_neg (mt hb.mp h)]
  atOnce := .require_bind fun h => (hp (hb.mp h)).mono fun _ hq => .inr ⟨hb.mp h, hq⟩

/-- The call asks before it goes on. -/
lemma after (hs : s.Sound o) (hfit : o.Fits)
    (hrun : p.run Board.answer (.controller s) = (.ok a, .controller s))
    (hp : ∀ q ∈ p.requests Board.answer (.controller s), Identifies o q)
    (hf : s.Admits o (f a) allowed c) : s.Admits o (p >>= f) allowed c where
  accepted h := by
    obtain ⟨b, t, hb⟩ := hf.accepted h
    exact ⟨b, t, (run_bind_ok hrun).trans hb⟩
  refused h := (run_bind_ok hrun).trans (hf.refused h)
  atOnce := (Program.AtOnce.of_identifies hs hfit hp fun _ => .inl).bind hrun hf.atOnce

/-- What is required first follows from what is allowed. -/
lemma require_bind (hb : allowed → b = true) (hp : s.Admits o p allowed c) :
    s.Admits o (require b >>= fun _ => p) allowed c where
  accepted h := by
    rw [run_require_bind, if_pos (hb h)]
    exact hp.accepted h
  refused h := by
    rw [run_require_bind, hp.refused h, ite_self]
  atOnce := .require_bind fun _ => hp.atOnce

lemma congr {allowed' : Prop} (hp : s.Admits o p allowed c) (h : allowed ↔ allowed') :
    s.Admits o p allowed' c := propext h ▸ hp

/-- A call that was refused has only asked. -/
lemma identifies (h : s.Admits o p allowed c) (hrefused : ¬ allowed) {q : Request}
    (hq : q ∈ p.requests Board.answer (.controller s)) : Identifies o q :=
  (h.atOnce.requests hq).resolve_right fun h => hrefused h.1

end Hardware.State.Admits

/-! ### Calls -/

/-- What may be asked of the part that is in charge of an interrupt. -/
inductive Call where
  | set (a : Setting) (v : a.Value)
  | get (a : Setting)
  | setRoute (a : Affinity)
  | setRouteAny
  | route

namespace Call

abbrev Result : Call → Type
  | get a => a.Value
  | route => Bool × Affinity
  | _ => Unit

def setsTargets : Call → Bool
  | set .targets _ => true
  | _ => false

/-- The kind of table that holds what the call is about. -/
def column : Call → Column
  | set (.flag f) v => if v then .setting f else .clearing f
  | get (.flag f) => .setting f
  | set (.plain a) _ | get (.plain a) => .plain a
  | set .priority _ | get .priority => .priorities
  | set .trigger _ | get .trigger => .triggers
  | set .targets _ | get .targets => .targets
  | setRoute _ | setRouteAny | route => .routes

end Call

namespace Keeper

/-- Only the distributor of a routed controller has routes. -/
def router : Keeper → Routed.Distributor
  | routed security => ⟨Region.distributor.base, security⟩
  | _ => ⟨Region.distributor.base, .nonSecure⟩

def call (k : Keeper) (o : Options) : (x : Call) → IntId → Program x.Result
  | .set a v, id => k.set o a id v
  | .get a, id => k.get o a id
  | .setRoute a, id => k.router.setRoute id a
  | .setRouteAny, id => k.router.setRouteAny id
  | .route, id => k.router.route id

def takes : Keeper → Call → Bool
  | k, .set a _ | k, .get a => k.offers a
  | routed _, _ => true
  | _, _ => false

/-- The interrupts that the part has registers for. -/
def Holds (o : Options) (id : IntId) : Keeper → Prop
  | banked => id.number < 1020
  | routed _ => 32 ≤ id.number ∧ id.number < 1020
      ∨ 4096 ≤ id.number ∧ id.number < 4096 + o.extendedCount
  | redistributor _ => id.number < 32 ∨ 1056 ≤ id.number ∧ id.number < 1024 + o.privateCount

instance (k : Keeper) (o : Options) (id : IntId) : Decidable (k.Holds o id) :=
  match k with
  | banked => inferInstanceAs (Decidable (_ < _))
  | routed _ | redistributor _ => inferInstanceAs (Decidable (_ ∨ _))

/-- The interrupts that a call may be about. Private ones have no targets to set. -/
def Allows (k : Keeper) (o : Options) (x : Call) (id : IntId) : Prop :=
  k.Holds o id ∧ (x.setsTargets = true → 32 ≤ id.number)

instance (k : Keeper) (o : Options) (x : Call) (id : IntId) : Decidable (k.Allows o x id) :=
  inferInstanceAs (Decidable (_ ∧ _))

/-- What the part says about how many extended interrupts it has. -/
def Reports (o : Options) (s : State) : Keeper → Prop
  | banked => True
  | routed security => (Routed.Distributor.mk Region.distributor.base security).extendedSpiCount.run
      Board.answer (.controller s) = (.ok o.extendedCount, .controller s)
  | redistributor cpu => ∃ i : Routed.RedistributorInfo, i.privateCount = o.privateCount
      ∧ (Routed.Redistributor.mk (Region.redistributors.base + cpu * o.stride)).info.run Board.answer
          (.controller s) = (.ok i, .controller s)

/-! ### Tables -/

/-- Where the tables of the part begin. -/
def base (o : Options) : Keeper → Nat
  | banked | routed _ => Region.distributor.base
  | redistributor cpu => Region.redistributors.base + cpu * o.stride + 0x10000

/-- How many interrupts its ordinary tables hold. -/
def size : Keeper → Nat
  | banked | routed _ => 1020
  | redistributor _ => 96

/-- One of its tables, an ordinary one or one of the extended SPIs. -/
def table (k : Keeper) (o : Options) (extended : Bool) (c : Column) : Series :=
  c.series extended (k.base o) (if extended then 1024 else k.size)

/-- The tables of bits that the hardware has in the part. -/
def bitTables : Keeper → List BitTable
  | banked | routed _ => distributorTables
  | redistributor _ => redistributorTables

lemma base_table {k : Keeper} {t : BitTable} (ht : t ∈ k.bitTables) {c : Column}
    (hc : c.bits? = some (t.field, t.rule)) (o : Options) :
    (k.table o (decide (t.first ≠ 0)) c).base = k.base o + t.offset := by
  have hmem : t ∈ distributorTables ++ redistributorTables := by
    cases k with
    | banked | routed _ => exact List.mem_append_left _ ht
    | redistributor _ => exact List.mem_append_right _ ht
  exact congrArg _ (Column.offset_of_mem t hmem c (Column.mem_all nofun) hc)

section Apart

variable {o : Options} {k k' : Keeper}

lemma size_mem (k : Keeper) : k.size ∈ [96, 1020] := by cases k <;> simp [size]

/-- The frames of different parts are apart. -/
lemma base_apart (h : k.base o ≠ k'.base o) :
    k.base o + 0x10000 ≤ k'.base o ∨ k'.base o + 0x10000 ≤ k.base o := by
  have hstride : 0x20000 ≤ o.stride := by
    rw [Options.stride]
    split <;> omega
  have hcores (i j : Nat) (hij : i < j) : i * o.stride + 0x20000 ≤ j * o.stride :=
    calc i * o.stride + 0x20000 ≤ (i + 1) * o.stride := by rw [Nat.succ_mul]; omega
      _ ≤ j * o.stride := Nat.mul_le_mul_right _ hij
  cases k <;> cases k' <;> simp only [base, Region.base] at h ⊢
  case redistributor.redistributor i j =>
    rcases Nat.lt_trichotomy i j with hij | rfl | hij
    · have := hcores i j hij
      omega
    · exact absurd rfl h
    · have := hcores j i hij
      omega
  all_goals omega

/-- No two tables of the controller share an address. -/
lemma table_apart {x x' : Bool} {c c' : Column} (hc : x = true → c ≠ .targets)
    (hc' : x' = true → c' ≠ .targets) (hne : (k.base o, x, c) ≠ (k'.base o, x', c')) :
    (k.table o x c).Apart (k'.table o x' c') := by
  by_cases hbase : k.base o = k'.base o
  · have hsize : k.size = k'.size := by
      cases k <;> cases k' <;> simp only [base, size, Region.base] at hbase ⊢
      all_goals omega
    rw [table, table, ← hbase, ← hsize]
    exact Column.apart k.size_mem hc hc' (fun h => hne (by rw [hbase, h])) _
  · have hlow := Column.limit_le k.size_mem hc (k.base o)
    have hlow' := Column.limit_le k'.size_mem hc' (k'.base o)
    have hfirst : k.base o ≤ (k.table o x c).base := Nat.le_add_right ..
    have hfirst' : k'.base o ≤ (k'.table o x' c').base := Nat.le_add_right ..
    have := base_apart hbase
    simp only [table, Series.Apart] at hfirst hfirst' ⊢
    omega

end Apart

/-- The interrupt is in the tables of the extended SPIs. -/
def isExtended (id : IntId) : Keeper → Bool
  | routed _ => id.isExtendedSpi
  | _ => false

/-- The register that holds the interrupt. -/
def cell (k : Keeper) (o : Options) (c : Column) (id : IntId) : Cell :=
  c.cell (k.isExtended id) (k.base o) (k.index id)

section Layout

variable {o : Options} {s : State} {k : Keeper} {id : IntId} {v : Nat → Nat}

lemma reports (hs : s.Sound o) (hfit : o.Fits) (hk : k.Matches o) : k.Reports o s := by
  cases k with
  | banked => trivial
  | routed security =>
    obtain rfl := hs.options
    exact Routed.Distributor.run_extendedSpiCount hfit security
  | redistributor cpu =>
    obtain ⟨c, hon⟩ := onBus hs hfit hk.1 hk.2
    obtain rfl := hs.options
    exact ⟨_, State.privateCount_ofWord c hfit hon.built hon.routed, run_info hon⟩

lemma allows_iff {x : Call} (h : x.setsTargets = false) : k.Holds o id ↔ k.Allows o x id :=
  (and_iff_left fun h' => absurd (h.symm.trans h') Bool.false_ne_true).symm

lemma serves_iff (hfit : o.Fits) : k.serves o id = true ↔ k.Holds o id := by
  have h1024 := State.extendedCount_le hfit
  have h96 := Bank.privateCount_le o
  cases k with
  | banked => exact decide_eq_true_iff
  | routed security =>
    rw [serves, Bool.or_eq_true, Bool.and_eq_true, id.isSpi_iff, id.isExtendedSpi_iff,
      decide_eq_true_iff, Holds]
    omega
  | redistributor cpu =>
    rw [serves, Bool.and_eq_true, Bool.not_eq_true', Bool.and_eq_false_iff, decide_eq_false_iff_not,
      id.isPrivate_iff, ← Bool.not_eq_true, id.isExtendedPpi_iff, Holds]
    omega

/-- The register is one of its own table. -/
lemma exists_cell_eq (hfit : o.Fits) (hid : k.Holds o id) (c : Column) :
    ∃ n < (k.table o (k.isExtended id) c).count,
      k.cell o c id = (k.table o (k.isExtended id) c).cell n := by
  have h1024 := State.extendedCount_le hfit
  have h96 := Bank.privateCount_le o
  refine ⟨_, Column.lt_count ?_, rfl⟩
  cases k with
  | banked => exact hid
  | routed security =>
    simp only [Holds] at hid
    have := id.isExtendedSpi_iff
    rcases he : id.isExtendedSpi with _ | _ <;> simp only [he, isExtended, index, size] at this ⊢
    all_goals simp only [Bool.false_eq_true, false_iff, true_iff, if_true, if_false] at this ⊢
    all_goals omega
  | redistributor cpu =>
    simp only [Holds] at hid
    have := id.isExtendedPpi_iff
    show (if id.isExtendedPpi then id.number - 1024 else id.number) < 96
    split <;> simp_all <;> omega

end Layout

/-! ### Operations on the tables -/

section Tables

variable {o : Options} {s : State} {k : Keeper} {a : Setting} {id : IntId}

lemma places (hs : s.Sound o) (k : Keeper) (id : IntId) :
    Column.Places (k.bank s id).layout (k.isExtended id) (k.base o) := by
  obtain rfl := hs.options
  cases k with
  | banked => exact Column.places_ordinary ..
  | routed security =>
    simp only [bank, isExtended]
    split
    next h => exact h ▸ Column.places_extended _
    next h => exact Bool.eq_false_iff.mpr h ▸ Column.places_ordinary ..
  | redistributor cpu => exact Column.places_ordinary ..

lemma locate_within (hk : k.Matches o) : ((k.block o).locate id).Within (Identifies o) := by
  cases k with
  | banked => exact .bind (.require _) fun _ => .pure _
  | routed security =>
    exact .bind (Routed.Distributor.place_within _ id .distributor) fun _ => .pure _
  | redistributor cpu =>
    exact .bind (Routed.Redistributor.index_within _ (.redistributor hk.1 hk.2) id) fun _ => .pure _

/-- A table of words that begins where the column does holds the interrupt in its cell. -/
lemma word_eq {c : Column} (hc : c.width = .word) (t : Table)
    (ht : t.base = k.base o + c.offset (k.isExtended id)) :
    Cell.mk .word (t.word (k.index id / c.share)) = k.cell o c id := by
  rw [Table.word, ht, cell, Column.cell, hc]
  rfl

/-- The interrupt has a register for itself. -/
lemma cell_eq (k : Keeper) (o : Options) (id : IntId) {c : Column} (hc : c.share = 1) : k.cell o c id
    = ⟨c.width, k.base o + c.offset (k.isExtended id) + c.width.bytes * k.index id⟩ := by
  rw [cell, Column.cell, hc, Nat.div_one]

variable (hs : s.Sound o) (hfit : o.Fits) (hk : k.Matches o)
include hs hfit hk

/-- A call that goes to where the interrupt is found. -/
lemma admits_located {α : Type} {f : Slot → Program α} {c : Cell}
    (hok : k.serves o id = true →
      ∃ r t, ((k.block o).locate id >>= f).run Board.answer (.controller s) = (.ok r, .controller t))
    (hf : (k.block o).Finds id (k.bank s id) (k.index id) s →
      (f ⟨(k.bank s id).layout, k.index id⟩).AtOnce Board.answer c.Accessed (.controller s)) :
    s.Admits o ((k.block o).locate id >>= f) (k.Holds o id) c :=
  .of_guarded hs hfit (serves_iff hfit) (run_locate hs hfit hk) (locate_within hk)
    (fun h => hok ((serves_iff hfit).mpr h))
    fun h => hf (finds hs hfit hk ((serves_iff hfit).mpr h))

lemma admits_set (ha : k.offers a = true) (ht : a ≠ .targets) (v : a.Value) :
    s.Admits o (k.set o a id v) (k.Holds o id) (k.cell o (Call.column (.set a v)) id) := by
  have hplaces := places hs k id
  have hok (hid : k.serves o id = true) : ∃ r t,
      (k.set o a id v).run Board.answer (.controller s) = (.ok r, .controller t) := by
    refine ⟨_, _, run_set hs hfit hk ha ?_ v⟩
    rw [accepts, hid, beq_eq_false_iff_ne.mpr ht]
    rfl
  cases a with
  | flag f =>
    refine admits_located hs hfit hk hok fun hfinds => ?_
    rcases v with _ | _
    · have hcell := word_eq (c := .clearing f) rfl ((k.bank s id).layout.clearingTable f) (hplaces.clearing f)
      exact Table.atOnce_clear (fun _ h => hcell ▸ h)
        (hfinds.keeps.readBits (.clearing f) hfinds.lt_bits)
    · have hcell := word_eq (c := .setting f) rfl ((k.bank s id).layout.settingTable f) (hplaces.setting f)
      exact Table.atOnce_set fun _ h => hcell ▸ h
  | plain f =>
    refine admits_located hs hfit hk hok fun hfinds => ?_
    have hcell := word_eq (c := .plain f) rfl ((k.bank s id).layout.plainTable f) (hplaces.plain f)
    exact Table.atOnce_assign (fun _ h => hcell ▸ h)
      (hfinds.keeps.readBits (.plain (offers_bank hs hk ha)) hfinds.lt_bits) v
  | priority =>
    refine admits_located hs hfit hk hok fun _ => .request ?_
    have hcell := cell_eq k o id (c := .priorities) rfl
    exact hcell ▸ ⟨rfl, congrArg₂ _ hplaces.priorities (Nat.one_mul _).symm⟩
  | trigger =>
    refine admits_located hs hfit hk hok fun hfinds => ?_
    split
    · exact .pure _
    · have hcell := word_eq (c := .triggers) rfl (k.bank s id).layout.triggerTable hplaces.triggers
      exact Table.atOnce_setEdge (fun _ h => hcell ▸ h) (hfinds.keeps.readTriggers hfinds.lt_triggers)
        _
  | targets => exact absurd rfl ht

omit hs hfit hk in
lemma admits_setTargets (hr : s.isRouted = false) (v : CpuSet) :
    s.Admits o (banked.set o .targets id v) (banked.Holds o id ∧ 32 ≤ id.number)
      (banked.cell o .targets id) := by
  have hcell := cell_eq banked o id (c := .targets) rfl
  have hrange : id.isSpi = true ↔ banked.Holds o id ∧ 32 ≤ id.number := by
    rw [id.isSpi_iff]
    exact and_comm
  have hrun := @run_setTargets s id hr v
  refine ⟨fun h => ⟨_, _, hrun.trans (if_pos (hrange.mpr h))⟩,
    fun h => hrun.trans (if_neg (mt hrange.mp h)), ?_⟩
  refine .require_bind fun hlimit => .require_bind fun hshared => .request (.inr ⟨?_, ?_⟩)
  · rw [Bool.not_eq_true', ← Bool.not_eq_true, id.isPrivate_iff] at hshared
    exact ⟨show id.number < 1020 from of_decide_eq_true hlimit, by omega⟩
  · exact hcell ▸ ⟨rfl, congrArg _ (Nat.one_mul _).symm⟩

lemma admits_get (ha : k.offers a = true) :
    s.Admits o (k.get o a id) (k.Holds o id) (k.cell o (Call.column (.get a)) id) := by
  have hplaces := places hs k id
  have hok (ht : a ≠ .targets) (hid : k.serves o id = true) : ∃ r t,
      (k.get o a id).run Board.answer (.controller s) = (.ok r, .controller t) := by
    refine ⟨_, _, run_get hs hfit hk ha ?_⟩
    rw [accepts, hid, beq_eq_false_iff_ne.mpr ht]
    rfl
  cases a with
  | flag f =>
    refine admits_located hs hfit hk (hok (by simp)) fun hfinds => ?_
    have hcell := word_eq (c := .setting f) rfl ((k.bank s id).layout.settingTable f)
      (hplaces.setting f)
    exact Table.atOnce_test (fun _ h => hcell ▸ h)
      (hfinds.keeps.readBits (.setting f) hfinds.lt_bits)
  | plain f =>
    refine admits_located hs hfit hk (hok (by simp)) fun hfinds => ?_
    have hcell := word_eq (c := .plain f) rfl ((k.bank s id).layout.plainTable f) (hplaces.plain f)
    exact Table.atOnce_test (fun _ h => hcell ▸ h)
      (hfinds.keeps.readBits (.plain (offers_bank hs hk ha)) hfinds.lt_bits)
  | priority =>
    refine admits_located hs hfit hk (hok (by simp)) fun _ => .request ?_
    have hcell := cell_eq k o id (c := .priorities) rfl
    exact hcell ▸ ⟨rfl, congrArg₂ _ hplaces.priorities (Nat.one_mul _).symm⟩
  | trigger =>
    refine admits_located hs hfit hk (hok (by simp)) fun hfinds => ?_
    split
    · exact .pure _
    · have hcell := word_eq (c := .triggers) rfl (k.bank s id).layout.triggerTable hplaces.triggers
      have hread := hfinds.keeps.readTriggers hfinds.lt_triggers
      exact .bind (Table.atOnce_isEdge (fun _ h => hcell ▸ h) hread)
        (Table.run_isEdge hfinds.lt_triggers hread) (.pure _)
  | targets =>
    obtain rfl := banked_of_offers ha
    have hcell := cell_eq banked o id (c := .targets) rfl
    have hread (h : banked.Holds o id) := (run_read8 Board.answer (.controller s) _).trans
      (Bank.answer_byte (d := 0x800) (Nat.lt_of_lt_of_le (Nat.add_lt_add_left h _) (by omega))).1
    refine .of_require (b := banked.serves o id) (serves_iff hfit)
      (fun h => ⟨_, _, (run_bind_ok (hread h)).trans (run_pure ..)⟩) fun h => ?_
    exact .bind (.request (hcell ▸ ⟨rfl, congrArg _ (Nat.one_mul _).symm⟩)) (hread h) (.pure _)

end Tables

/-! ### Operations on the routes -/

section Routes

variable {o : Options} {s : State} {id : IntId} {security : Routed.SecurityState} (hs : s.Sound o)
  (hfit : o.Fits)
include hfit

lemma exists_route_address (hid : (routed security).Holds o id) : ∃ offset < 0x10000,
    ((routed security).cell o .routes id).address = Region.distributor.base + offset := by
  refine ⟨Column.routes.offset id.isExtendedSpi + 8 * (routed security).index id, ?_, ?_⟩
  · have h1024 := State.extendedCount_le hfit
    have hrange := id.isExtendedSpi_iff
    simp only [Holds] at hid
    rcases he : id.isExtendedSpi with _ | _
    all_goals simp only [he, index, Column.offset, Bool.false_eq_true, false_iff, true_iff, if_true,
      if_false] at hrange ⊢
    all_goals omega
  · rw [cell_eq _ _ _ rfl, ← Nat.add_assoc]
    rfl

include hs

/-- A call that goes to where the route is. -/
lemma admits_routed {α : Type} {f : Nat → Program α}
    (hok : ∀ offset < 0x10000, ∃ r t, (f (Region.distributor.base + offset)).run Board.answer
      (.controller s) = (.ok r, .controller t))
    (hf : ∀ offset < 0x10000, (f (Region.distributor.base + offset)).AtOnce Board.answer
      (Cell.mk .doubleword (Region.distributor.base + offset)).Accessed (.controller s)) :
    s.Admits o ((routed security).router.routeAddress id >>= f) ((routed security).Holds o id)
      ((routed security).cell o .routes id) := by
  have hserves := @serves_iff o (routed security) id hfit
  obtain rfl := hs.options
  have hcell := cell_eq (routed security) s.options id (c := .routes) rfl
  have haddress : ((routed security).router.routeAddress id).run Board.answer (.controller s)
      = (if (routed security).serves s.options id
          then .ok ((routed security).cell s.options .routes id).address
        else .error .assertion, .controller s) := by
    rw [hcell]
    exact run_map_guarded (run_place hfit security)
  refine .of_guarded hs hfit hserves haddress
    (.bind (Routed.Distributor.place_within _ id .distributor) fun _ => .pure _) (fun h => ?_)
    fun h => ?_
  · obtain ⟨offset, hlt, ha⟩ := exists_route_address hfit h
    rw [if_pos (hserves.mpr h), ha] at haddress
    rw [run_bind_ok haddress]
    exact hok offset hlt
  · obtain ⟨offset, hlt, ha⟩ := exists_route_address hfit h
    have := hf offset hlt
    rw [← ha] at this
    exact hcell ▸ this

/-- A route is written. -/
lemma admits_writeRoute (v : BitVec 64) :
    s.Admits o (do
        require !id.isPrivate
        let address ← (routed security).router.routeAddress id
        write64 address v)
      ((routed security).Holds o id) ((routed security).cell o .routes id) := by
  refine .require_bind (fun h => ?_) (admits_routed hs hfit (fun offset hlt => ?_) fun offset _ =>
    .request ⟨rfl, rfl⟩)
  · simp only [Holds] at h
    rw [Bool.not_eq_true', ← Bool.not_eq_true, id.isPrivate_iff]
    omega
  · exact ⟨_, _, (run_write64 ..).trans (Board.answer_write_distributor .doubleword v rfl hlt)⟩

lemma admits_readRoute : s.Admits o ((routed security).router.route id)
    ((routed security).Holds o id) ((routed security).cell o .routes id) := by
  have hread (offset : Nat) (hlt : offset < 0x10000) :=
    (run_read64 Board.answer (.controller s) (Region.distributor.base + offset)).trans
      (Board.answer_read_distributor .doubleword rfl hlt)
  exact admits_routed hs hfit
    (fun offset hlt => ⟨_, _, (run_bind_ok (hread offset hlt)).trans (run_pure ..)⟩)
    fun offset hlt => .bind (.request ⟨rfl, rfl⟩) (hread offset hlt) (.pure _)

end Routes

/-- A part carries a call out if it has a register for the interrupt. -/
lemma admits_call {o : Options} {s : State} {k : Keeper} (hs : s.Sound o) (hfit : o.Fits)
    (hk : k.Matches o) {x : Call} (hx : k.takes x = true) (id : IntId) :
    s.Admits o (k.call o x id) (k.Allows o x id) (k.cell o x.column id) := by
  cases x with
  | set a v =>
    by_cases ht : a = .targets
    · subst ht
      obtain rfl := banked_of_offers hx
      exact (admits_setTargets (hs.isRouted.trans hk) v).congr
        (and_congr_right fun _ => ⟨fun h _ => h, fun h => h rfl⟩)
    · refine (admits_set hs hfit hk hx ht v).congr (allows_iff ?_)
      cases a <;> first | rfl | exact absurd rfl ht
  | get a => exact (admits_get hs hfit hk hx).congr (allows_iff rfl)
  | setRoute _ | setRouteAny =>
    cases k with
    | routed security => exact (admits_writeRoute hs hfit _).congr (allows_iff rfl)
    | _ => cases hx
  | route =>
    cases k with
    | routed security => exact (admits_readRoute hs hfit).congr (allows_iff rfl)
    | _ => cases hx

end Keeper

end InterruptControl
