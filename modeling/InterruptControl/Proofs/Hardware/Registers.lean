import InterruptControl.Proofs.Hardware.Reachable
import InterruptControl.Proofs.Hardware.Tables

/-!
Which interrupts the registers of the tables show, at each offset of the distributor and of
a redistributor.

No two tables overlap, so a word of one is found by its offset alone.
-/

namespace InterruptControl.Hardware

/-! ### Tables that do not overlap -/

/-- No two tables share an offset. -/
def Apart (span : Nat) (tables : List BitTable) : Prop :=
  tables.Pairwise fun t u => t.offset + span ≤ u.offset ∨ u.offset + span ≤ t.offset

instance (span : Nat) (tables : List BitTable) : Decidable (Apart span tables) :=
  inferInstanceAs (Decidable (List.Pairwise _ _))

lemma apart_distributorTables : Apart 0x80 distributorTables := by decide

lemma apart_redistributorTables : Apart 0xc redistributorTables := by decide

variable {tables : List BitTable} {routed : Bool} {span o k : Nat} {t : BitTable}

/-- The word `k` of a table. -/
lemma findTable?_eq (hapart : Apart span tables) (ht : t ∈ tables)
    (hr : (routed || !t.routedOnly) = true) (hk : 4 * k < span) :
    findTable? tables routed span (t.offset + 4 * k) = some (t, t.first + k * 32) := by
  have hword : (t.offset + 4 * k - t.offset) / 4 = k ∧ (t.offset + 4 * k - t.offset) % 4 = 0 := by
    omega
  suffices h : ∀ l : List BitTable, t ∈ l → Apart span l →
      (l.find? fun u => (routed || !u.routedOnly) && decide (u.offset ≤ t.offset + 4 * k)
        && decide (t.offset + 4 * k < u.offset + span)
        && decide ((t.offset + 4 * k - u.offset) % 4 = 0)) = some t by
    rw [findTable?, h tables ht hapart, Option.map_some, hword.1]
  intro l hl ha
  induction l with
  | nil => simp at hl
  | cons u rest ih =>
    obtain ⟨hu, hrest⟩ := List.pairwise_cons.mp ha
    rcases List.mem_cons.mp hl with rfl | hl
    · refine List.find?_cons_of_pos ?_
      simp only [hr, hword.2, Bool.true_and, Bool.and_eq_true, decide_eq_true_eq, and_true]
      omega
    · have := hu t hl
      rw [List.find?_cons_of_neg, ih hl hrest]
      simp only [Bool.and_eq_true, decide_eq_true_eq, not_and]
      omega

/-- Offsets outside of all tables. -/
lemma findTable?_eq_none (h : ∀ t ∈ tables, o < t.offset ∨ t.offset + span ≤ o) :
    findTable? tables routed span o = none := by
  rw [findTable?, Option.map_eq_none_iff, List.find?_eq_none]
  intro t ht
  have := h t ht
  simp only [Bool.and_eq_true, decide_eq_true_eq, not_and]
  omega

lemma findTable?_distributor_eq_none (h : 0xc00 ≤ o ∧ o < 0xd00 ∨ 0x3000 ≤ o ∧ o < 0x3100) :
    findTable? distributorTables routed 0x80 o = none := by
  refine findTable?_eq_none fun t ht => ?_
  have : ∀ t ∈ distributorTables, (t.offset + 0x80 ≤ 0xc00 ∨ 0xd00 ≤ t.offset)
      ∧ (t.offset + 0x80 ≤ 0x3000 ∨ 0x3100 ≤ t.offset) := by decide
  have := this t ht
  omega

lemma findTable?_redistributor_eq_none (h : 0xc00 ≤ o ∧ o < 0xc18) :
    findTable? redistributorTables routed 0xc o = none := by
  refine findTable?_eq_none fun t ht => ?_
  have : ∀ t ∈ redistributorTables, t.offset + 0xc ≤ 0xc00 ∨ 0xd00 ≤ t.offset := by decide
  have := this t ht
  omega

/-- Registers of the distributor that are in no table. -/
lemma findTable?_register_eq_none (h : o < 0x80 ∨ 0xe00 ≤ o ∧ o < 0xf80) :
    findTable? distributorTables routed 0x80 o = none := by
  refine findTable?_eq_none fun t ht => ?_
  have : ∀ t ∈ distributorTables, 0x80 ≤ t.offset ∧ (t.offset + 0x80 ≤ 0xe00 ∨ 0xf80 ≤ t.offset) := by
    decide
  have := this t ht
  omega

namespace State

variable {s : State}

/-! ### The distributor -/

lemma readDistributorWord_register (h : o < 0x80 ∨ 0xf00 ≤ o ∧ o < 0xf80) :
    s.readDistributorWord o = s.readDistributorRegister o := by
  rw [readDistributorWord, findTable?_register_eq_none (by omega)]
  simp only
  rw [if_neg (by omega), if_neg (by omega), if_neg (by omega)]

lemma writeDistributorWord_register (h : o < 0x80 ∨ 0xf00 ≤ o ∧ o < 0xf80) (v : BitVec 32) :
    s.writeDistributorWord o v = s.writeDistributorRegister o v := by
  rw [writeDistributorWord, findTable?_register_eq_none (by omega)]
  simp only
  rw [if_neg (by omega), if_neg (by omega), if_neg (by omega)]

section Distributor

variable (ht : t ∈ distributorTables) (hr : (s.isRouted || !t.routedOnly) = true) (hk : k < 32)
include ht hr hk

lemma readDistributorWord_table :
    s.readDistributorWord (t.offset + 4 * k)
      = s.readBits s.distributorView (t.first + k * 32) t.field := by
  rw [readDistributorWord, findTable?_eq apart_distributorTables ht hr (by omega)]

lemma writeDistributorWord_table (v : BitVec 32) :
    s.writeDistributorWord (t.offset + 4 * k) v
      = s.writeBits s.distributorView (t.first + k * 32) t.field t.rule v := by
  rw [writeDistributorWord, findTable?_eq apart_distributorTables ht hr (by omega)]

end Distributor

lemma readDistributorWord_triggers (hk : k < 64) :
    s.readDistributorWord (0xc00 + 4 * k) = s.readTriggers s.distributorView (k * 16) := by
  rw [readDistributorWord, findTable?_distributor_eq_none (by omega)]
  simp only
  rw [if_pos (by omega), show (0xc00 + 4 * k - 0xc00) / 4 = k by omega]

lemma writeDistributorWord_triggers (hk : k < 64) (h0 : 0 < k) (v : BitVec 32) :
    s.writeDistributorWord (0xc00 + 4 * k) v = s.writeTriggers s.distributorView (k * 16) v := by
  rw [writeDistributorWord, findTable?_distributor_eq_none (by omega)]
  simp only
  rw [if_pos (by omega), if_neg (by omega), show (0xc00 + 4 * k - 0xc00) / 4 = k by omega]

section Extended

variable (hs : s.isRouted = true)
include hs

lemma readDistributorWord_extendedTriggers (hk : k < 64) :
    s.readDistributorWord (0x3000 + 4 * k)
      = s.readTriggers s.distributorView (4096 + k * 16) := by
  rw [readDistributorWord, findTable?_distributor_eq_none (by omega)]
  simp only
  rw [if_neg (by omega), if_pos ⟨hs, by omega, by omega⟩,
    show (0x3000 + 4 * k - 0x3000) / 4 = k by omega]

lemma writeDistributorWord_extendedTriggers (hk : k < 64) (v : BitVec 32) :
    s.writeDistributorWord (0x3000 + 4 * k) v
      = s.writeTriggers s.distributorView (4096 + k * 16) v := by
  rw [writeDistributorWord, findTable?_distributor_eq_none (by omega)]
  simp only
  rw [if_neg (by omega), if_pos ⟨hs, by omega, by omega⟩,
    show (0x3000 + 4 * k - 0x3000) / 4 = k by omega]

lemma readDistributorByte_extended {i : Nat} (hi : i < 1024) :
    s.readDistributorByte (0x2000 + i)
      = ((s.distributorIrq? (4096 + i)).map (·.priority)).getD 0 := by
  rw [readDistributorByte, if_neg (by omega), if_pos hs, if_pos (by omega),
    Nat.add_sub_cancel_left]

lemma writeDistributorByte_extended {i : Nat} (hi : i < 1024) (v : BitVec 8) :
    s.writeDistributorByte (0x2000 + i) v
      = s.modifyDistributorIrq (4096 + i) fun q => { q with priority := v } := by
  rw [writeDistributorByte, if_neg (by omega), if_pos hs, if_pos (by omega),
    Nat.add_sub_cancel_left]

end Extended

lemma readDistributorByte_priority {i : Nat} (hi : i < 1020) :
    s.readDistributorByte (0x400 + i) = ((s.distributorIrq? i).map (·.priority)).getD 0 := by
  rw [readDistributorByte, if_pos (by omega), Nat.add_sub_cancel_left]

lemma writeDistributorByte_priority {i : Nat} (hi : i < 1020) (v : BitVec 8) :
    s.writeDistributorByte (0x400 + i) v
      = s.modifyDistributorIrq i fun q => { q with priority := v } := by
  rw [writeDistributorByte, if_pos (by omega), Nat.add_sub_cancel_left]

section Targets

variable (hs : s.isRouted = false) {i : Nat} (h32 : 32 ≤ i) (hi : i < 1020)
include hs h32 hi

lemma readDistributorByte_targets :
    s.readDistributorByte (0x800 + i) = ((s.distributorIrq? i).map (·.targets)).getD 0 := by
  rw [readDistributorByte, if_neg (by omega), if_neg (by simp [hs]), if_pos (by omega),
    if_neg (by omega), Nat.add_sub_cancel_left]

lemma writeDistributorByte_targets (v : BitVec 8) :
    s.writeDistributorByte (0x800 + i) v
      = s.modifyDistributorIrq i fun q => { q with targets := v } := by
  rw [writeDistributorByte, if_neg (by omega), if_neg (by simp [hs]), if_pos (by omega),
    if_neg (by omega), Nat.add_sub_cancel_left]

end Targets

/-! ### A redistributor -/

lemma readPrivateWord_table (cpu : Nat) (c : Core) (ht : t ∈ redistributorTables)
    (hs : s.isRouted = true) (hk : k < 3) :
    s.readPrivateWord cpu c (t.offset + 4 * k)
      = s.readBits (s.redistributorView cpu) (t.first + k * 32) t.field := by
  rw [readPrivateWord, findTable?_eq apart_redistributorTables ht (by simp [hs]) (by omega)]

lemma writePrivateWord_table (cpu : Nat) (ht : t ∈ redistributorTables) (hs : s.isRouted = true)
    (hk : k < 3) (v : BitVec 32) :
    s.writePrivateWord cpu (t.offset + 4 * k) v
      = s.writeBits (s.redistributorView cpu) (t.first + k * 32) t.field t.rule v := by
  rw [writePrivateWord, findTable?_eq apart_redistributorTables ht (by simp [hs]) (by omega)]

lemma readPrivateWord_triggers (cpu : Nat) (c : Core) (hk : k < 6) :
    s.readPrivateWord cpu c (0xc00 + 4 * k)
      = s.readTriggers (s.redistributorView cpu) (k * 16) := by
  rw [readPrivateWord, findTable?_redistributor_eq_none (by omega)]
  simp only
  rw [if_pos (by omega), show (0xc00 + 4 * k - 0xc00) / 4 = k by omega]

lemma writePrivateWord_triggers (cpu : Nat) (hk : k < 6) (h0 : 0 < k) (v : BitVec 32) :
    s.writePrivateWord cpu (0xc00 + 4 * k) v
      = s.writeTriggers (s.redistributorView cpu) (k * 16) v := by
  rw [writePrivateWord, findTable?_redistributor_eq_none (by omega)]
  simp only
  rw [if_pos (by omega), if_neg (by omega), show (0xc00 + 4 * k - 0xc00) / 4 = k by omega]

lemma readPrivateByte_priority (cpu : Nat) {i : Nat} (hi : i < 96) :
    s.readPrivateByte cpu (0x400 + i)
      = ((s.irqAt? (s.redistributorView cpu) i).map (·.priority)).getD 0 := by
  rw [readPrivateByte, if_pos (by omega), Nat.add_sub_cancel_left]

lemma writePrivateByte_priority (cpu : Nat) {i : Nat} (hi : i < 96) (v : BitVec 8) :
    s.writePrivateByte cpu (0x400 + i) v
      = s.modifyAt (s.redistributorView cpu) i fun q => { q with priority := v } := by
  rw [writePrivateByte, if_pos (by omega), Nat.add_sub_cancel_left]
  rfl

lemma stride_ge (o : Options) : 0x20000 ≤ o.stride := by
  unfold Options.stride
  split <;> omega

lemma stride_le (o : Options) : o.stride ≤ 0x40000 := by
  unfold Options.stride
  split <;> omega

/-- An offset in the two frames of core `k` that there always are. -/
lemma frame_of_offset (o : Options) (k : Nat) {i : Nat} (hi : i < 0x20000) :
    (k * o.stride + i) / o.stride = k ∧ (k * o.stride + i) % o.stride = i := by
  have hlt : i < o.stride := hi.trans_le (stride_ge o)
  have hpos : 0 < o.stride := Nat.zero_lt_of_lt hlt
  rw [Nat.mul_comm, Nat.mul_add_div hpos, Nat.mul_add_mod, Nat.div_eq_of_lt hlt, Nat.mod_eq_of_lt hlt]
  exact ⟨Nat.add_zero k, rfl⟩

section Frames

variable {cpu i : Nat} {c : Core} (hc : s.cores[cpu]? = some c)

include hc in
lemma readRedistributor_core (hi : i < 0x10000) (w : Width) :
    s.readRedistributor (cpu * s.options.stride + i) w
      = (s.readCoreFrame cpu c i w).setWidth w.bits := by
  obtain ⟨hd, hm⟩ := frame_of_offset s.options cpu (i := i) (by omega)
  simp only [readRedistributor, hd, hm, hc]
  rw [if_pos hi]

include hc in
lemma readRedistributor_byte (hi : i < 0x10000) :
    s.readRedistributor (cpu * s.options.stride + (0x10000 + i)) .byte
      = s.readPrivateByte cpu i := by
  obtain ⟨hd, hm⟩ := frame_of_offset s.options cpu (i := 0x10000 + i) (by omega)
  simp only [readRedistributor, hd, hm, hc]
  rw [if_neg (by omega), if_pos (by omega), Nat.add_sub_cancel_left]

include hc in
lemma readRedistributor_word (hi : i < 0x10000) :
    s.readRedistributor (cpu * s.options.stride + (0x10000 + i)) .word
      = s.readPrivateWord cpu c i := by
  obtain ⟨hd, hm⟩ := frame_of_offset s.options cpu (i := 0x10000 + i) (by omega)
  simp only [readRedistributor, hd, hm, hc]
  rw [if_neg (by omega), if_pos (by omega), Nat.add_sub_cancel_left, BitVec.setWidth_eq]

lemma writeRedistributor_core (hi : i < 0x10000) (w : Width) (v : BitVec w.bits) :
    s.writeRedistributor (cpu * s.options.stride + i) w v
      = s.writeCoreFrame cpu i (v.setWidth 32) := by
  obtain ⟨hd, hm⟩ := frame_of_offset s.options cpu (i := i) (by omega)
  simp only [writeRedistributor, hd, hm]
  rw [if_pos hi]

lemma writeRedistributor_byte (hi : i < 0x10000) (v : BitVec 8) :
    s.writeRedistributor (cpu * s.options.stride + (0x10000 + i)) .byte v
      = s.writePrivateByte cpu i v := by
  obtain ⟨hd, hm⟩ := frame_of_offset s.options cpu (i := 0x10000 + i) (by omega)
  simp only [writeRedistributor, hd, hm]
  rw [if_neg (by omega), if_pos (by omega), if_pos trivial, Nat.add_sub_cancel_left]
  exact congrArg _ (BitVec.setWidth_eq v)

lemma writeRedistributor_word (hi : i < 0x10000) (v : BitVec 32) :
    s.writeRedistributor (cpu * s.options.stride + (0x10000 + i)) .word v
      = s.writePrivateWord cpu i v := by
  obtain ⟨hd, hm⟩ := frame_of_offset s.options cpu (i := 0x10000 + i) (by omega)
  simp only [writeRedistributor, hd, hm]
  rw [if_neg (by omega), if_pos (by omega), if_neg (by decide), Nat.add_sub_cancel_left]
  exact congrArg _ (BitVec.setWidth_eq v)

end Frames

end State

end InterruptControl.Hardware
