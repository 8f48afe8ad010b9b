import InterruptControl.Block
import InterruptControl.Distributor.Banked
import InterruptControl.Distributor.Routed
import InterruptControl.Redistributor
import InterruptControl.Proofs.Bus.Board
import InterruptControl.Proofs.Hardware.Registers

/-!
The tables of a layout as a controller answers for them.

A bank says which interrupts the tables are about. There are four of them: the distributor
of a banked controller, the ordinary and the extended interrupts of the distributor of a
routed one, and the private interrupts of a redistributor. A controller `Keeps` a bank if it
answers every access to its tables by the interrupts of the bank.
-/

namespace InterruptControl

open Hardware (Field WriteRule State Place InjectiveView Irq)

def Flag.field : Flag → Field
  | .enabled => .enabled
  | .pending => .pending
  | .active => .active

def Attribute.field : Attribute → Field
  | .group1 => .group1
  | .groupModifier => .groupModifier
  | .nonMaskable => .nonMaskable

namespace Bus

/-- Tables, and the `size` interrupts of a view, from `first` on, that they are about. The
first `fixed` words of triggers stay as they are. -/
structure Bank where
  layout : Layout
  view : Nat → Option Place
  first : Nat
  size : Nat
  offers : Attribute → Bool
  fixed : Nat

namespace Bank

/-- The tables of bits, each with the field it shows and what a write does to it. -/
inductive Shows (b : Bank) : Table → Field → WriteRule → Prop
  | setting (f : Flag) : Shows b (b.layout.settingTable f) f.field .set
  | clearing (f : Flag) : Shows b (b.layout.clearingTable f) f.field .clear
  | plain {a : Attribute} (h : b.offers a = true) : Shows b (b.layout.plainTable a) a.field .plain

/-- The controller answers accesses to the tables by the interrupts of the bank. -/
structure Keeps (b : Bank) (s : State) : Prop where
  injective : InjectiveView b.view
  size_bits : b.size ≤ 32 * b.layout.bitWords
  size_triggers : b.size ≤ 16 * b.layout.triggerWords
  readBits {t : Table} {f : Field} {r : WriteRule} (h : b.Shows t f r) {k : Nat}
    (hk : k < t.words) : Board.answer (.controller s) (.read .word (t.word k))
      = (.ok (s.readBits b.view (b.first + k * 32) f), .controller s)
  writeBits {t : Table} {f : Field} {r : WriteRule} (h : b.Shows t f r) {k : Nat}
    (hk : k < t.words) (v : BitVec 32) : Board.answer (.controller s) (.write .word (t.word k) v)
      = (.ok (), .controller (s.writeBits b.view (b.first + k * 32) f r v))
  readPriority {i : Nat} (hi : i < b.size) :
    Board.answer (.controller s) (.read .byte (b.layout.priorities + i))
      = (.ok (((s.irqAt? b.view (b.first + i)).map (·.priority)).getD 0), .controller s)
  writePriority {i : Nat} (hi : i < b.size) (p : Priority) :
    Board.answer (.controller s) (.write .byte (b.layout.priorities + i) p)
      = (.ok (), .controller (s.modifyAt b.view (b.first + i) fun q => { q with priority := p }))
  readTriggers {k : Nat} (hk : k < b.layout.triggerWords) :
    Board.answer (.controller s) (.read .word (b.layout.triggerTable.word k))
      = (.ok (s.readTriggers b.view (b.first + k * 16)), .controller s)
  writeTriggers {k : Nat} (hk : k < b.layout.triggerWords) (h0 : b.fixed ≤ k) (v : BitVec 32) :
    Board.answer (.controller s) (.write .word (b.layout.triggerTable.word k) v)
      = (.ok (), .controller (s.writeTriggers b.view (b.first + k * 16) v))

/-! ### The distributor -/

/-- The interrupts below 1020. Only a routed controller has all tables. -/
def distributor (s : State) : Bank where
  layout := .ordinary Region.distributor.base 32 64
  view := s.distributorView
  first := 0
  size := 1020
  offers a := s.isRouted || a == .group1
  fixed := 1

/-- The extended SPIs. -/
def extended (s : State) : Bank where
  layout := .extended Region.distributor.base
  view := s.distributorView
  first := 4096
  size := 1024
  offers _ := true
  fixed := 0

/-- Every table of bits of a bank of the distributor is one of the hardware. -/
def Tabulated (s : State) (b : Bank) : Prop :=
  ∀ {t f r}, b.Shows t f r → ∃ bt ∈ Hardware.distributorTables,
    t = ⟨Region.distributor.base + bt.offset, 32⟩ ∧ bt.field = f ∧ bt.rule = r
      ∧ bt.first = b.first ∧ (s.isRouted || !bt.routedOnly) = true

variable {s : State}

lemma tabulated_distributor : Tabulated s (distributor s) := by
  rintro t f r (f | f | @⟨a, h⟩)
  case plain =>
    rcases hs : s.isRouted with _ | _
    · obtain rfl : a = .group1 := by simpa [distributor, hs] using h
      exact ⟨⟨0x080, .group1, .plain, 0, false⟩, by decide, rfl, rfl, rfl, rfl, by simp⟩
    · cases a <;> simp [Hardware.distributorTables, distributor, Layout.plainTable,
        Layout.ordinary, Attribute.field]
  all_goals cases f <;>
    simp [Hardware.distributorTables, distributor, Layout.settingTable, Layout.clearingTable,
      Layout.ordinary, Flag.field]

lemma tabulated_extended (hs : s.isRouted = true) : Tabulated s (extended s) := by
  rintro t f r (f | f | @⟨a, h⟩)
  case plain =>
    cases a <;> simp [Hardware.distributorTables, extended, Layout.plainTable, Layout.extended,
      Attribute.field, hs]
  all_goals cases f <;>
    simp [Hardware.distributorTables, extended, Layout.settingTable, Layout.clearingTable,
      Layout.extended, Flag.field, hs]

lemma injective_distributorView (s : State) : InjectiveView s.distributorView := by
  intro i j p hi hj
  simp only [State.distributorView] at hi hj
  split at hi
  · simp at hi
  split at hj
  · simp at hj
  exact State.place?_injective hi hj

lemma offset_le : ∀ bt ∈ Hardware.distributorTables, bt.offset + 0x80 ≤ 0x10000 := by decide

section Distributor

variable {t : Table} {f : Field} {r : WriteRule} {b : Bank} (hb : Tabulated s b) (h : b.Shows t f r)
  {k : Nat} (hk : k < t.words)
include hb h hk

lemma answer_readBits :
    Board.answer (.controller s) (.read .word (t.word k))
      = (.ok (s.readBits s.distributorView (b.first + k * 32) f), .controller s) := by
  obtain ⟨bt, hbt, rfl, rfl, rfl, hfirst, hr⟩ := hb h
  have hoff : bt.offset + 0x80 ≤ 0x10000 := offset_le bt hbt
  simp only at hk
  rw [Board.answer_read_distributor (o := bt.offset + 4 * k) .word
    (by simp only [Table.word]; omega) (by omega), ← hfirst]
  exact congrArg (fun v => (Except.ok v, _)) (State.readDistributorWord_table hbt hr hk)

lemma answer_writeBits (v : BitVec 32) :
    Board.answer (.controller s) (.write .word (t.word k) v)
      = (.ok (), .controller (s.writeBits s.distributorView (b.first + k * 32) f r v)) := by
  obtain ⟨bt, hbt, rfl, rfl, rfl, hfirst, hr⟩ := hb h
  have hoff : bt.offset + 0x80 ≤ 0x10000 := offset_le bt hbt
  simp only at hk
  rw [Board.answer_write_distributor (o := bt.offset + 4 * k) .word v
    (by simp only [Table.word]; omega) (by omega), ← hfirst]
  exact congrArg (fun t => (Except.ok (), Board.controller t))
    (State.writeDistributorWord_table hbt hr hk v)

end Distributor

/-- A word of triggers of the distributor, which the hardware keeps from offset `d` on. -/
lemma answer_triggerWord {t : Table} {d k : Nat} (ht : t.base = Region.distributor.base + d)
    (ho : d + 4 * k < 0x10000) :
    Board.answer (.controller s) (.read .word (t.word k))
        = (.ok (s.readDistributorWord (d + 4 * k)), .controller s)
      ∧ ∀ v : BitVec 32, Board.answer (.controller s) (.write .word (t.word k) v)
        = (.ok (), .controller (s.writeDistributorWord (d + 4 * k) v)) := by
  have ha : t.word k = Region.distributor.base + (d + 4 * k) := by
    rw [Table.word, ht, Nat.add_assoc]
  exact ⟨Board.answer_read_distributor .word ha ho, fun v =>
    Board.answer_write_distributor .word v ha ho⟩

/-- A byte of the distributor at offset `d + i`. -/
lemma answer_byte {d i : Nat} (ho : d + i < 0x10000) :
    Board.answer (.controller s) (.read .byte (Region.distributor.base + d + i))
        = (.ok (s.readDistributorByte (d + i)), .controller s)
      ∧ ∀ v : BitVec 8, Board.answer (.controller s) (.write .byte (Region.distributor.base + d + i) v)
        = (.ok (), .controller (s.writeDistributorByte (d + i) v)) :=
  ⟨Board.answer_read_distributor .byte (Nat.add_assoc ..) ho, fun v =>
    Board.answer_write_distributor .byte v (Nat.add_assoc ..) ho⟩

lemma first_distributor (i : Nat) : (distributor s).first + i = i := Nat.zero_add i

lemma keeps_distributor (s : State) : (distributor s).Keeps s where
  injective := injective_distributorView s
  size_bits := Nat.le_of_ble_eq_true rfl
  size_triggers := Nat.le_of_ble_eq_true rfl
  readBits h _ hk := answer_readBits tabulated_distributor h hk
  writeBits h _ hk v := answer_writeBits tabulated_distributor h hk v
  readPriority {i} hi := by
    rw [first_distributor]
    refine (answer_byte (d := 0x400) (by simp only [distributor] at hi; omega)).1.trans ?_
    rw [State.readDistributorByte_priority hi]
    rfl
  writePriority {i} hi p := by
    rw [first_distributor]
    refine ((answer_byte (d := 0x400) (by simp only [distributor] at hi; omega)).2 p).trans ?_
    rw [State.writeDistributorByte_priority hi]
    rfl
  readTriggers {k} hk := by
    simp only [distributor, Layout.ordinary] at hk
    rw [first_distributor]
    refine (answer_triggerWord (d := 0xc00) rfl (by omega)).1.trans ?_
    rw [State.readDistributorWord_triggers hk]
    rfl
  writeTriggers {k} hk h0 v := by
    simp only [distributor, Layout.ordinary] at hk
    rw [first_distributor]
    refine ((answer_triggerWord (d := 0xc00) rfl (by omega)).2 v).trans ?_
    rw [State.writeDistributorWord_triggers hk h0]
    rfl

lemma keeps_extended (hs : s.isRouted = true) : (extended s).Keeps s where
  injective := injective_distributorView s
  size_bits := Nat.le_of_ble_eq_true rfl
  size_triggers := Nat.le_of_ble_eq_true rfl
  readBits h _ hk := answer_readBits (tabulated_extended hs) h hk
  writeBits h _ hk v := answer_writeBits (tabulated_extended hs) h hk v
  readPriority {i} hi := by
    refine (answer_byte (d := 0x2000) (by simp only [extended] at hi; omega)).1.trans ?_
    rw [State.readDistributorByte_extended hs hi]
    rfl
  writePriority {i} hi p := by
    refine ((answer_byte (d := 0x2000) (by simp only [extended] at hi; omega)).2 p).trans ?_
    rw [State.writeDistributorByte_extended hs hi]
    rfl
  readTriggers {k} hk := by
    simp only [extended, Layout.extended] at hk
    refine (answer_triggerWord (d := 0x3000) rfl (by omega)).1.trans ?_
    rw [State.readDistributorWord_extendedTriggers hs hk]
    rfl
  writeTriggers {k} hk _ v := by
    simp only [extended, Layout.extended] at hk
    refine ((answer_triggerWord (d := 0x3000) rfl (by omega)).2 v).trans ?_
    rw [State.writeDistributorWord_extendedTriggers hs hk]
    rfl

/-! ### A redistributor -/

/-- The private interrupts of core `cpu`. -/
def redistributor (s : State) (cpu : Nat) : Bank where
  layout := (Routed.Redistributor.mk
    (Region.redistributors.base + cpu * s.options.stride)).layout
  view := s.redistributorView cpu
  first := 0
  size := 96
  offers _ := true
  fixed := 1

lemma tabulated_redistributor {cpu : Nat} {t : Table} {f : Field} {r : WriteRule}
    (h : (redistributor s cpu).Shows t f r) : ∃ bt ∈ Hardware.redistributorTables,
      t = ⟨Region.redistributors.base + cpu * s.options.stride + Routed.frameSize + bt.offset, 3⟩
        ∧ bt.field = f ∧ bt.rule = r ∧ bt.first = 0 := by
  rcases h with f | f | @⟨a, h⟩
  case plain =>
    cases a <;> simp [Hardware.redistributorTables, redistributor, Layout.plainTable,
      Routed.Redistributor.layout, Layout.ordinary, Attribute.field]
  all_goals cases f <;>
    simp [Hardware.redistributorTables, redistributor, Layout.settingTable, Layout.clearingTable,
      Routed.Redistributor.layout, Layout.ordinary, Flag.field]

lemma privateNumber_injective {i j : Nat} (hi : i < 96) (hj : j < 96)
    (h : Hardware.privateNumber i = Hardware.privateNumber j) : i = j := by
  unfold Hardware.privateNumber at h
  split at h <;> split at h <;> omega

lemma privateCount_le (o : Hardware.Options) : o.privateCount ≤ 96 := by
  unfold Hardware.Options.privateCount
  repeat' split
  all_goals omega

lemma injective_redistributorView (s : State) (cpu : Nat) :
    InjectiveView (s.redistributorView cpu) := by
  intro i j p hi hj
  have := privateCount_le s.options
  simp only [State.redistributorView] at hi hj
  split at hi
  · split at hj
    · exact privateNumber_injective (by omega) (by omega) (State.place?_injective hi hj)
    · simp at hj
  · simp at hi

/-- The redistributor of core `cpu` is on the bus. -/
structure OnBus (s : State) (cpu : Nat) (c : Hardware.Core) : Prop where
  routed : s.isRouted = true
  core : s.cores[cpu]? = some c
  built : cpu < s.options.cpus
  reached : Region.redistributors.base + s.options.cpus * s.options.stride < 0x10000000000000000

section Redistributor

variable {cpu o : Nat} {c : Hardware.Core} (h : OnBus s cpu c)
include h

lemma OnBus.lt (ho : o < s.options.stride) :
    cpu * s.options.stride + o < s.options.cpus * s.options.stride := by
  have := Nat.mul_le_mul_right s.options.stride (Nat.succ_le_of_lt h.built)
  rw [Nat.succ_mul] at this
  omega

/-- An access to the first frame of the redistributor. -/
lemma answer_core (w : Width) (ho : o < 0x10000) :
    Board.answer (.controller s)
        (.read w (Region.redistributors.base + cpu * s.options.stride + o))
      = (.ok ((s.readCoreFrame cpu c o w).setWidth w.bits), .controller s) := by
  have hstride := State.stride_ge s.options
  have hlt := h.lt (o := o) (by omega)
  have hend := h.reached
  rw [Board.answer_read_redistributors w h.routed (Nat.add_assoc ..) hlt (by omega),
    State.readRedistributor_core h.core ho]

lemma answer_writeCore (w : Width) (ho : o < 0x10000) (v : BitVec w.bits) :
    Board.answer (.controller s)
        (.write w (Region.redistributors.base + cpu * s.options.stride + o) v)
      = (.ok (), .controller (s.writeCoreFrame cpu o (v.setWidth 32))) := by
  have hstride := State.stride_ge s.options
  have hlt := h.lt (o := o) (by omega)
  have hend := h.reached
  rw [Board.answer_write_redistributors w v h.routed (Nat.add_assoc ..) hlt (by omega),
    State.writeRedistributor_core ho]

/-- An access to its second frame. -/
lemma answer_private {a : Nat} (ho : o < 0x10000) (ha : a =
      Region.redistributors.base + cpu * s.options.stride + Routed.frameSize + o) :
    Board.answer (.controller s) (.read .byte a)
        = (.ok (s.readPrivateByte cpu o), .controller s)
      ∧ (∀ v : BitVec 8, Board.answer (.controller s) (.write .byte a v)
        = (.ok (), .controller (s.writePrivateByte cpu o v)))
      ∧ Board.answer (.controller s) (.read .word a)
        = (.ok (s.readPrivateWord cpu c o), .controller s)
      ∧ ∀ v : BitVec 32, Board.answer (.controller s) (.write .word a v)
        = (.ok (), .controller (s.writePrivateWord cpu o v)) := by
  have hstride := State.stride_ge s.options
  have hlt := h.lt (o := 0x10000 + o) (by omega)
  have hend := h.reached
  have he : a = Region.redistributors.base + (cpu * s.options.stride + (0x10000 + o)) := by
    rw [ha, Routed.frameSize]
    omega
  refine ⟨?_, fun v => ?_, ?_, fun v => ?_⟩
  · rw [Board.answer_read_redistributors .byte h.routed he hlt (by omega),
      State.readRedistributor_byte h.core ho]
  · rw [Board.answer_write_redistributors .byte v h.routed he hlt (by omega),
      State.writeRedistributor_byte ho]
  · rw [Board.answer_read_redistributors .word h.routed he hlt (by omega),
      State.readRedistributor_word h.core ho]
  · rw [Board.answer_write_redistributors .word v h.routed he hlt (by omega),
      State.writeRedistributor_word ho]

lemma keeps_redistributor : (redistributor s cpu).Keeps s where
  injective := injective_redistributorView s cpu
  size_bits := Nat.le_of_ble_eq_true rfl
  size_triggers := Nat.le_of_ble_eq_true rfl
  readBits ht k hk := by
    obtain ⟨bt, hbt, rfl, rfl, rfl, hfirst⟩ := tabulated_redistributor ht
    have hoff : bt.offset + 0xc ≤ 0x1000 := by
      have : ∀ bt ∈ Hardware.redistributorTables, bt.offset + 0xc ≤ 0x1000 := by decide
      exact this bt hbt
    simp only at hk
    refine (answer_private h (o := bt.offset + 4 * k) (by omega)
      (by simp only [Table.word]; omega)).2.2.1.trans ?_
    rw [State.readPrivateWord_table cpu c hbt h.routed hk, hfirst]
    rfl
  writeBits ht k hk v := by
    obtain ⟨bt, hbt, rfl, rfl, rfl, hfirst⟩ := tabulated_redistributor ht
    have hoff : bt.offset + 0xc ≤ 0x1000 := by
      have : ∀ bt ∈ Hardware.redistributorTables, bt.offset + 0xc ≤ 0x1000 := by decide
      exact this bt hbt
    simp only at hk
    refine ((answer_private h (o := bt.offset + 4 * k) (by omega)
      (by simp only [Table.word]; omega)).2.2.2 v).trans ?_
    rw [State.writePrivateWord_table cpu hbt h.routed hk, hfirst]
    rfl
  readPriority {i} hi := by
    simp only [redistributor] at hi
    refine (answer_private h (o := 0x400 + i) (by omega) (Nat.add_assoc ..)).1.trans ?_
    rw [State.readPrivateByte_priority cpu hi]
    simp [redistributor]
  writePriority {i} hi p := by
    simp only [redistributor] at hi
    refine ((answer_private h (o := 0x400 + i) (by omega) (Nat.add_assoc ..)).2.1 p).trans ?_
    rw [State.writePrivateByte_priority cpu hi]
    simp [redistributor]
  readTriggers {k} hk := by
    simp only [redistributor, Routed.Redistributor.layout, Layout.ordinary] at hk
    refine (answer_private h (o := 0xc00 + 4 * k) (by omega) (Nat.add_assoc ..)).2.2.1.trans ?_
    rw [State.readPrivateWord_triggers cpu c hk]
    simp [redistributor]
  writeTriggers {k} hk h0 v := by
    simp only [redistributor, Routed.Redistributor.layout, Layout.ordinary] at hk
    refine ((answer_private h (o := 0xc00 + 4 * k) (by omega) (Nat.add_assoc ..)).2.2.2 v).trans ?_
    rw [State.writePrivateWord_triggers cpu hk h0]
    simp [redistributor]

end Redistributor

end Bank

end Bus

end InterruptControl
