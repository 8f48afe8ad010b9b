import InterruptControl.Proofs.Program

/-!
What the operations on a table do, on a device that answers accesses to the word in
question.
-/

namespace InterruptControl.Table

open Program

variable {σ : Type} {d : Device σ} {s s' : σ} {t : Table} {i : Nat} {v : BitVec 32}

lemma bit_eq_twoPow (i : Nat) : bit i = BitVec.twoPow 32 (i % 32) := rfl

lemma edgeBit_eq_twoPow (i : Nat) : edgeBit i = BitVec.twoPow 32 (i % 16 * 2 + 1) := rfl

lemma twoPow_ne_zero {k : Nat} (hk : k < 32) : BitVec.twoPow 32 k ≠ 0 := by
  intro h
  have := congrArg (·.getLsbD k) h
  simp [hk] at this

lemma and_twoPow_eq_zero {k : Nat} (hk : k < 32) :
    v &&& BitVec.twoPow 32 k = 0 ↔ v.getLsbD k = false := by
  rw [BitVec.and_twoPow]
  cases v.getLsbD k
  · simp
  · simpa using twoPow_ne_zero hk

lemma and_twoPow_bne_zero {k : Nat} (hk : k < 32) :
    (v &&& BitVec.twoPow 32 k != 0) = v.getLsbD k := by
  rw [Bool.eq_iff_iff, bne_iff_ne, ne_eq, and_twoPow_eq_zero hk]
  simp

/-- The bits of a word in which bit `k` was assigned. -/
lemma getLsbD_assign (v : BitVec 32) (k : Nat) {j : Nat} (hj : j < 32) (b : Bool) :
    (if b then v ||| BitVec.twoPow 32 k else v &&& ~~~BitVec.twoPow 32 k).getLsbD j
      = if j = k then b else v.getLsbD j := by
  rcases eq_or_ne j k with rfl | h
  · cases b <;> simp [hj]
  · cases b <;> simp [hj, h]

/-- The word is as it was if the bit was. -/
lemma assign_eq_self_iff (v : BitVec 32) {k : Nat} (hk : k < 32) (b : Bool) :
    (if b then v ||| BitVec.twoPow 32 k else v &&& ~~~BitVec.twoPow 32 k) = v ↔ v.getLsbD k = b := by
  constructor
  · intro he
    have hbit := getLsbD_assign v k hk b
    rwa [he, if_pos rfl] at hbit
  · intro he
    refine BitVec.eq_of_getLsbD_eq fun j hj => ?_
    rw [getLsbD_assign v k hj b]
    split
    next hjk => rw [hjk, he]
    next => rfl

lemma run_locateBit (h : i / 32 < t.words) :
    (t.locateBit i).run d s = (.ok (t.word (i / 32)), s) := by
  simp [locateBit, run_require_bind, h]

lemma run_locateTrigger (h : i / 16 < t.words) :
    (t.locateTrigger i).run d s = (.ok (t.word (i / 16)), s) := by
  simp [locateTrigger, run_require_bind, h]

section Bits

variable (h : i / 32 < t.words)
include h

lemma run_test (hr : d s (.read .word (t.word (i / 32))) = (.ok v, s)) :
    (t.test i).run d s = (.ok (v.getLsbD (i % 32)), s) := by
  rw [test, run_bind_ok (run_locateBit h), run_bind_ok (a := v) ((run_read32 ..).trans hr),
    run_pure, bit_eq_twoPow, and_twoPow_bne_zero (Nat.mod_lt _ (by decide))]

lemma run_set (hw : d s (.write .word (t.word (i / 32)) (bit i)) = (.ok (), s')) :
    (t.set i).run d s = (.ok (), s') := by
  rw [set, run_bind_ok (run_locateBit h)]
  exact (run_write32 ..).trans hw

lemma run_clear (hr : d s (.read .word (t.word (i / 32))) = (.ok v, s))
    (hw : d s (.write .word (t.word (i / 32)) (bit i)) = (.ok (), s')) :
    (t.clear i).run d s = (.ok (), if v.getLsbD (i % 32) then s' else s) := by
  rw [clear, run_bind_ok (run_locateBit h), run_bind_ok (a := v) ((run_read32 ..).trans hr),
    bit_eq_twoPow]
  simp only [and_twoPow_eq_zero (v := v) (Nat.mod_lt i (by decide : 0 < 32))]
  split
  next h => simp [h]
  next h =>
    rw [Bool.not_eq_false] at h
    simpa [h, bit_eq_twoPow] using hw

/-- `w` is the word with the one bit assigned. -/
lemma run_assign {b : Bool} {w : BitVec 32}
    (hb : w = if b then v ||| bit i else v &&& ~~~bit i)
    (hr : d s (.read .word (t.word (i / 32))) = (.ok v, s))
    (hw : d s (.write .word (t.word (i / 32)) w) = (.ok (), s')) :
    (t.assign i b).run d s = (.ok (), if w = v then s else s') := by
  rw [assign, run_bind_ok (run_locateBit h), run_bind_ok (a := v) ((run_read32 ..).trans hr)]
  simp only [← hb]
  split
  next hne => simpa [hne] using hw
  next he =>
    rw [not_not] at he
    simp [he]

end Bits

section Triggers

variable (h : i / 16 < t.words)
include h

lemma run_isEdge (hr : d s (.read .word (t.word (i / 16))) = (.ok v, s)) :
    (t.isEdge i).run d s = (.ok (v.getLsbD (i % 16 * 2 + 1)), s) := by
  rw [isEdge, run_bind_ok (run_locateTrigger h),
    run_bind_ok (a := v) ((run_read32 ..).trans hr), run_pure, edgeBit_eq_twoPow,
    and_twoPow_bne_zero (by omega)]

lemma run_setEdge {b : Bool} {w : BitVec 32}
    (hb : w = if b then v ||| edgeBit i else v &&& ~~~edgeBit i)
    (hr : d s (.read .word (t.word (i / 16))) = (.ok v, s))
    (hw : d s (.write .word (t.word (i / 16)) w) = (.ok (), s')) :
    (t.setEdge i b).run d s = (.ok (), s') := by
  rw [setEdge, run_bind_ok (run_locateTrigger h),
    run_bind_ok (a := v) ((run_read32 ..).trans hr), ← hb]
  exact (run_write32 ..).trans hw

end Triggers

/-! ### Words of triggers below a bound -/

lemma triggerWordsBelow_eq (ht : t.words < 0x100000000) (bound : BitVec 32) :
    t.triggerWordsBelow bound = min ((bound.toNat + 15) % 0x100000000 / 16) t.words := by
  have hsum : (bound + 16 - 1 : BitVec 32).toNat = (bound.toNat + 15) % 0x100000000 := by
    have h16 : (16 : BitVec 32).toNat = 16 := rfl
    have h1 : (1 : BitVec 32).toNat = 1 := rfl
    rw [BitVec.toNat_sub, BitVec.toNat_add, h1, h16]
    omega
  have hwords : (BitVec.ofNat 32 t.words).toNat = t.words := by
    rw [BitVec.toNat_ofNat]
    exact Nat.mod_eq_of_lt ht
  rw [triggerWordsBelow, Word.toNat_min, Word.ceilDiv, BitVec.toNat_udiv, hsum, hwords]
  rfl

/-- The last bounds for which the words are counted right. -/
lemma triggerWordsBelow_of_le (ht : t.words < 0x100000000) {bound : BitVec 32}
    (hbound : bound.toNat ≤ 0xfffffff0) :
    t.triggerWordsBelow bound = min ((bound.toNat + 15) / 16) t.words := by
  rw [triggerWordsBelow_eq ht, Nat.mod_eq_of_lt (by omega)]

/-- The count wraps to zero for all greater ones. -/
lemma triggerWordsBelow_of_lt (ht : t.words < 0x100000000) {bound : BitVec 32}
    (hbound : 0xfffffff0 < bound.toNat) : t.triggerWordsBelow bound = 0 := by
  have := bound.isLt
  rw [triggerWordsBelow_eq ht]
  omega

end InterruptControl.Table
