import InterruptControl.Proofs.AtOnce
import InterruptControl.Proofs.Block

/-!
The registers that hold the state of interrupts, as tables of cells.

A block has one table for each kind of state. No two of them share an address, so an access to a cell
within its own table touches no other one. An operation on one interrupt happens at once and accesses
one cell.
-/

namespace InterruptControl

open Bus Hardware Program

/-! ### Cells -/

/-- One register. -/
structure Cell where
  width : Width
  address : Nat

/-- The request is an access to the register as a whole. -/
def Cell.Accessed (c : Cell) : Request → Prop
  | .read w a | .write w a _ => w = c.width ∧ a = c.address
  | _ => False

/-- Registers of one width that follow each other. -/
structure Series where
  base : Nat
  width : Width
  count : Nat

namespace Series

def cell (r : Series) (n : Nat) : Cell := ⟨r.width, r.base + r.width.bytes * n⟩

/-- Where it ends. -/
def limit (r : Series) : Nat := r.base + r.width.bytes * r.count

/-- The two have no address in common. -/
def Apart (r r' : Series) : Prop := r.limit ≤ r'.base ∨ r'.limit ≤ r.base

instance (r r' : Series) : Decidable (r.Apart r') := inferInstanceAs (Decidable (_ ∨ _))

/-- A cell is in the range of its series, so cells of two series that are apart do not overlap. -/
lemma within {r : Series} {n : Nat} (h : n < r.count) :
    r.base ≤ (r.cell n).address ∧ (r.cell n).address + r.width.bytes ≤ r.limit := by
  have := Nat.mul_le_mul_left r.width.bytes (Nat.succ_le_of_lt h)
  rw [Nat.mul_succ] at this
  simp only [cell, limit]
  omega

end Series

/-! ### The tables of a block -/

/-- The kinds of tables that a block may have. -/
inductive Column where
  | setting (f : Flag)
  | clearing (f : Flag)
  | plain (a : Attribute)
  | priorities
  | triggers
  | targets
  | routes
deriving DecidableEq

namespace Column

def width : Column → Width
  | setting _ | clearing _ | plain _ | triggers => .word
  | priorities | targets => .byte
  | routes => .doubleword

/-- How many interrupts share a register. -/
def share : Column → Nat
  | setting _ | clearing _ | plain _ => 32
  | triggers => 16
  | priorities | targets | routes => 1

/-- What a table of bits shows, and what a write to it does. -/
def bits? : Column → Option (Field × WriteRule)
  | setting f => some (f.field, .set)
  | clearing f => some (f.field, .clear)
  | plain a => some (a.field, .plain)
  | _ => none

/-- Where the hardware has the table in its block. The extended SPIs have tables of their own. -/
def offset (extended : Bool) : Column → Nat
  | priorities => if extended then 0x2000 else 0x400
  | triggers => if extended then 0x3000 else 0xc00
  | targets => 0x800
  | routes => if extended then 0x8000 else 0x6000
  | c =>
    ((distributorTables.find? fun t => decide (c.bits? = some (t.field, t.rule))
      && decide (t.first = if extended then 4096 else 0)).map (·.offset)).getD 0

/-- The layout puts its tables where they begin in the block at `base`. -/
structure Places (l : Layout) (extended : Bool) (base : Nat) : Prop where
  setting (f : Flag) : l.setting f = base + (setting f).offset extended
  clearing (f : Flag) : l.clearing f = base + (clearing f).offset extended
  plain (a : Attribute) : l.plain a = base + (plain a).offset extended
  priorities : l.priorities = base + Column.priorities.offset extended
  triggers : l.triggers = base + Column.triggers.offset extended

lemma places_ordinary (base words triggerWords : Nat) :
    Places (.ordinary base words triggerWords) false base where
  setting f := by cases f <;> rfl
  clearing f := by cases f <;> rfl
  plain a := by cases a <;> rfl
  priorities := rfl
  triggers := rfl

lemma places_extended (base : Nat) : Places (.extended base) true base where
  setting f := by cases f <;> rfl
  clearing f := by cases f <;> rfl
  plain a := by cases a <;> rfl
  priorities := rfl
  triggers := rfl

/-- The table for `size` interrupts, in the block at `base`. -/
def series (c : Column) (extended : Bool) (base size : Nat) : Series where
  base := base + c.offset extended
  width := c.width
  count := (size + c.share - 1) / c.share

/-- The register that holds the interrupt at index `i`. -/
def cell (c : Column) (extended : Bool) (base i : Nat) : Cell :=
  ⟨c.width, base + c.offset extended + c.width.bytes * (i / c.share)⟩

lemma share_pos (c : Column) : 0 < c.share := by cases c <;> exact Nat.zero_lt_succ _

lemma lt_count {c : Column} {extended : Bool} {base size i : Nat} (h : i < size) :
    i / c.share < (c.series extended base size).count := by
  have hpos := c.share_pos
  refine (Nat.div_lt_iff_lt_mul hpos).mpr ?_
  have := Nat.lt_div_mul_add (a := size + c.share - 1) hpos
  show i < (size + c.share - 1) / c.share * c.share
  omega

/-- The extended SPIs have routes, but no targets. -/
def all (extended : Bool) : List Column :=
  [setting .enabled, setting .pending, setting .active, clearing .enabled, clearing .pending,
    clearing .active, plain .group1, plain .groupModifier, plain .nonMaskable, priorities, triggers,
    routes] ++ if extended then [] else [targets]

lemma mem_all {c : Column} {extended : Bool} (h : extended = true → c ≠ targets) :
    c ∈ all extended := by
  rcases c with (_ | _ | _) | (_ | _ | _) | (_ | _ | _) | _ | _ | _ | _ <;> cases extended <;>
    simp_all [all]

/-- The tables of a redistributor are where those of a distributor are. -/
lemma offset_of_mem : ∀ t ∈ distributorTables ++ redistributorTables, ∀ c ∈ all false,
    c.bits? = some (t.field, t.rule) → c.offset (decide (t.first ≠ 0)) = t.offset := by
  decide

/-- No two tables of a distributor, which holds 1020 ordinary interrupts, or of a redistributor, which
holds 96, share an address. -/
lemma apart_at_zero : ∀ n ∈ [96, 1020], ∀ x ∈ [false, true], ∀ x' ∈ [false, true],
    ∀ c ∈ all x, ∀ c' ∈ all x', (x, c) ≠ (x', c') →
      (c.series x 0 (if x then 1024 else n)).Apart (c'.series x' 0 (if x' then 1024 else n)) := by
  decide +kernel

lemma apart {c c' : Column} {x x' : Bool} {n : Nat} (hn : n ∈ [96, 1020])
    (hc : x = true → c ≠ targets) (hc' : x' = true → c' ≠ targets) (hne : (x, c) ≠ (x', c'))
    (base : Nat) :
    (c.series x base (if x then 1024 else n)).Apart
      (c'.series x' base (if x' then 1024 else n)) := by
  have h := apart_at_zero n hn x (by cases x <;> simp) x' (by cases x' <;> simp) c (mem_all hc) c'
    (mem_all hc') hne
  simp only [Series.Apart, Series.limit, series, Nat.zero_add] at h ⊢
  omega

lemma limit_at_zero : ∀ n ∈ [96, 1020], ∀ x ∈ [false, true], ∀ c ∈ all x,
    (c.series x 0 (if x then 1024 else n)).limit ≤ 0x10000 := by
  decide +kernel

/-- A part has all its tables in one frame. -/
lemma limit_le {c : Column} {x : Bool} {n : Nat} (hn : n ∈ [96, 1020]) (hc : x = true → c ≠ targets)
    (base : Nat) : (c.series x base (if x then 1024 else n)).limit ≤ base + 0x10000 := by
  have h := limit_at_zero n hn x (by cases x <;> simp) c (mem_all hc)
  simp only [Series.limit, series, Nat.zero_add] at h ⊢
  omega

end Column

/-! ### Operations on tables -/

namespace Table

variable {σ : Type} {d : Device σ} {s : σ} {P : Request → Prop} {t : Table} {i : Nat} {v : BitVec 32}

section Bits

variable (hP : ∀ q, (Cell.mk .word (t.word (i / 32))).Accessed q → P q)
include hP

lemma atOnce_set : (t.set i).AtOnce d P s := .guarded_bind fun _ => .request (hP _ ⟨rfl, rfl⟩)

variable (hr : d s (.read .word (t.word (i / 32))) = (.ok v, s))
include hr

lemma atOnce_test : (t.test i).AtOnce d P s := .guarded_bind fun _ =>
  .bind (.request (hP _ ⟨rfl, rfl⟩)) ((run_read32 ..).trans hr) (.pure _)

lemma atOnce_clear : (t.clear i).AtOnce d P s := .guarded_bind fun _ => by
  refine .bind (.request (hP _ ⟨rfl, rfl⟩)) ((run_read32 ..).trans hr) ?_
  split
  · exact .pure _
  · exact .request (hP _ ⟨rfl, rfl⟩)

lemma atOnce_assign (b : Bool) : (t.assign i b).AtOnce d P s := .guarded_bind fun _ => by
  refine .bind (.request (hP _ ⟨rfl, rfl⟩)) ((run_read32 ..).trans hr) ?_
  simp only
  split_ifs
  all_goals first
    | exact .pure _
    | exact .request (hP _ ⟨rfl, rfl⟩)

end Bits

section Triggers

variable (hP : ∀ q, (Cell.mk .word (t.word (i / 16))).Accessed q → P q)
  (hr : d s (.read .word (t.word (i / 16))) = (.ok v, s))
include hP hr

lemma atOnce_setEdge (e : Bool) : (t.setEdge i e).AtOnce d P s := .guarded_bind fun _ =>
  .bind (.request (hP _ ⟨rfl, rfl⟩)) ((run_read32 ..).trans hr) (.request (hP _ ⟨rfl, rfl⟩))

lemma atOnce_isEdge : (t.isEdge i).AtOnce d P s := .guarded_bind fun _ =>
  .bind (.request (hP _ ⟨rfl, rfl⟩)) ((run_read32 ..).trans hr) (.pure _)

end Triggers

/-- A flag is raised by a single write. -/
lemma history_set (h : i / 32 < t.words) :
    (t.set i).history d s = [(s, .write .word (t.word (i / 32)) (bit i))] := by
  have hlocate : (t.locateBit i).history d s = [] := by
    rw [locateBit, decide_eq_true h]
    rfl
  rw [set, history_bind_ok (run_locateBit h), hlocate, List.nil_append, write32, write,
    request, history_ask]
  rcases d s _ with ⟨_ | v, s'⟩ <;> rfl

end Table

end InterruptControl
