import InterruptControl.Registers.Fields
import Mathlib

/-!
The bits of a register that a field reads, and those of a register that it is put into.
-/

namespace InterruptControl.BitField

variable {w : Nat} (f : BitField w) (v r : BitVec w) (i : Nat)

lemma getLsbD_mask :
    f.mask.getLsbD i = (decide (f.offset ≤ i) && decide (i < f.offset + f.width)) := by
  have := f.fits
  rw [mask, BitVec.getLsbD_shiftLeft, BitVec.getLsbD_setWidth, BitVec.getLsbD_allOnes]
  rw [Bool.eq_iff_iff]
  simp only [Bool.and_eq_true, decide_eq_true_eq, Bool.not_eq_true', decide_eq_false_iff_not]
  omega

lemma getLsbD_get :
    (f.get v).getLsbD i = (decide (i < f.width) && v.getLsbD (f.offset + i)) := by
  rw [get, BitVec.getLsbD_ushiftRight, BitVec.getLsbD_and, getLsbD_mask]
  rcases Nat.lt_or_ge i f.width with h | h
  · simp [h]
  · simp [Nat.not_lt.mpr h]

lemma getLsbD_val : (f.val v).getLsbD i =
    (decide (f.offset ≤ i) && decide (i < f.offset + f.width) && v.getLsbD (i - f.offset)) := by
  have := f.fits
  rw [val, BitVec.getLsbD_and, BitVec.getLsbD_shiftLeft, getLsbD_mask]
  rcases Nat.lt_or_ge i f.offset with h | h
  · simp [h, Nat.not_le.mpr h]
  · rcases Nat.lt_or_ge i (f.offset + f.width) with h' | h'
    · simp [h, h', Nat.not_lt.mpr h, show i < w by omega]
    · simp [Nat.not_lt.mpr h']

/-- Only the bits that fit are put into a field. -/
lemma val_congr {v' : BitVec w} (h : ∀ i < f.width, v.getLsbD i = v'.getLsbD i) :
    f.val v = f.val v' := by
  refine BitVec.eq_of_getLsbD_eq fun i _ => ?_
  rw [getLsbD_val, getLsbD_val]
  by_cases hi : f.offset ≤ i ∧ i < f.offset + f.width
  · rw [h _ (by omega)]
  · rw [← Bool.decide_and, decide_eq_false hi, Bool.false_and, Bool.false_and]

lemma getLsbD_set : (f.set r v).getLsbD i =
    if f.offset ≤ i ∧ i < f.offset + f.width then v.getLsbD (i - f.offset) else r.getLsbD i := by
  have := f.fits
  rw [set, BitVec.getLsbD_or, BitVec.getLsbD_and, BitVec.getLsbD_not, getLsbD_mask, getLsbD_val]
  split
  next h => simp [h.1, h.2]
  next h =>
    rcases Nat.lt_or_ge i w with hi | hi
    · simp only [hi, decide_true, Bool.true_and]
      rcases Nat.lt_or_ge i f.offset with h' | h'
      · simp [Nat.not_le.mpr h']
      · simp [show ¬ i < f.offset + f.width by omega]
    · simp [BitVec.getLsbD_of_ge _ _ hi, show ¬ i < f.offset + f.width by omega]

lemma getLsbD_clear : (f.clear r).getLsbD i =
    if f.offset ≤ i ∧ i < f.offset + f.width then false else r.getLsbD i := by
  have := getLsbD_set f 0 r i
  simpa [set, val, clear] using this

lemma toNat_get : (f.get v).toNat = v.toNat / 2 ^ f.offset % 2 ^ f.width := by
  refine Nat.eq_of_testBit_eq fun i => ?_
  rw [Nat.testBit_mod_two_pow, Nat.testBit_div_two_pow, ← BitVec.getLsbD.eq_1, getLsbD_get,
    BitVec.getLsbD, Nat.add_comm]

/-- What a field shows is put back where it was. -/
lemma val_get : f.val (f.get r) = r &&& f.mask := by
  refine BitVec.eq_of_getLsbD_eq fun i _ => ?_
  rw [getLsbD_val, getLsbD_get, BitVec.getLsbD_and, getLsbD_mask]
  by_cases h : f.offset ≤ i ∧ i < f.offset + f.width
  · have hin : i - f.offset < f.width := by omega
    rw [decide_eq_true h.1, decide_eq_true h.2, decide_eq_true hin, Nat.add_sub_of_le h.1]
    simp
  · rw [← Bool.decide_and, decide_eq_false h, Bool.false_and, Bool.and_false]

/-- A field shows zero if none of its bits is set. -/
lemma get_eq_zero_iff : f.get r = 0 ↔ r &&& f.mask = 0 := by
  constructor
  · intro h
    rw [← val_get, h, val, BitVec.ofNat_eq_ofNat, BitVec.zero_shiftLeft, BitVec.zero_and]
  · intro h
    rw [get, h, BitVec.ofNat_eq_ofNat, BitVec.zero_ushiftRight]

lemma isSet_iff : f.isSet r = true ↔ f.get r ≠ 0 := by
  rw [isSet, bne_iff_ne, ne_eq, ne_eq, get_eq_zero_iff]

/-- A field of one bit is set if the bit is. -/
lemma isSet_of_width (h : f.width = 1) : f.isSet v = v.getLsbD f.offset := by
  have hbit (i : Nat) : (f.get v).getLsbD i = (decide (i = 0) && v.getLsbD f.offset) := by
    rw [getLsbD_get, h]
    rcases i with _ | i <;> simp
  rw [Bool.eq_iff_iff, isSet_iff]
  constructor
  · intro hne
    by_contra hoff
    refine hne (BitVec.eq_of_getLsbD_eq fun i _ => ?_)
    rw [hbit, Bool.eq_false_iff.mpr hoff, Bool.and_false, BitVec.ofNat_eq_ofNat, BitVec.getLsbD_zero]
  · intro hon hzero
    have hfirst := hbit 0
    rw [hzero, hon, BitVec.ofNat_eq_ofNat, BitVec.getLsbD_zero] at hfirst
    exact absurd hfirst (by decide)

lemma isSet_eq_getLsbD_get (h : f.width = 1) : f.isSet v = (f.get v).getLsbD 0 := by
  rw [isSet_of_width f v h, getLsbD_get, h]
  rfl

/-! ### Registers put together from parts -/

lemma get_or : f.get (v ||| r) = f.get v ||| f.get r := by
  refine BitVec.eq_of_getLsbD_eq fun i _ => ?_
  simp only [getLsbD_get, BitVec.getLsbD_or, Bool.and_or_distrib_left]

/-- A part that lies below the field. -/
lemma get_ofNat_below {n k sh : Nat} (hn : n < 2 ^ k) (hk : sh + k ≤ f.offset) :
    f.get (BitVec.ofNat w n <<< sh) = 0 := by
  refine BitVec.eq_of_getLsbD_eq fun i _ => ?_
  have : n.testBit (f.offset + i - sh) = false :=
    Nat.testBit_eq_false_of_lt (hn.trans_le (Nat.pow_le_pow_right Nat.two_pos (by omega)))
  rw [getLsbD_get, BitVec.getLsbD_shiftLeft, BitVec.getLsbD_ofNat, this]
  simp

/-- A part that lies above the field. -/
lemma get_shiftLeft_above {k : Nat} (h : f.offset + f.width ≤ k) : f.get (v <<< k) = 0 := by
  refine BitVec.eq_of_getLsbD_eq fun i _ => ?_
  rw [getLsbD_get, BitVec.getLsbD_shiftLeft]
  rcases Nat.lt_or_ge i f.width with hi | hi
  · simp [show f.offset + i < k by omega]
  · simp [Nat.not_lt.mpr hi]

/-- The part in the field. -/
lemma get_ofNat_shiftLeft {n : Nat} (hn : n < 2 ^ f.width) :
    f.get (BitVec.ofNat w n <<< f.offset) = BitVec.ofNat w n := by
  have := f.fits
  refine BitVec.eq_of_getLsbD_eq fun i hi => ?_
  rw [getLsbD_get, BitVec.getLsbD_shiftLeft, BitVec.getLsbD_ofNat, BitVec.getLsbD_ofNat]
  rcases Nat.lt_or_ge i f.width with h | h
  · simp [h, show f.offset + i < w by omega]
  · have : n.testBit i = false :=
      Nat.testBit_eq_false_of_lt (hn.trans_le (Nat.pow_le_pow_right Nat.two_pos h))
    simp [this]

lemma ofNat_and_mask {n k : Nat} (hn : n < 2 ^ k) (m : BitVec w) (hm : m.toNat = 2 ^ k - 1) :
    BitVec.ofNat w n &&& m = BitVec.ofNat w n := by
  refine BitVec.eq_of_toNat_eq ?_
  rw [BitVec.toNat_and, hm, Nat.and_two_pow_sub_one_eq_mod, BitVec.toNat_ofNat]
  exact Nat.mod_eq_of_lt ((Nat.mod_le _ _).trans_lt hn)

/-- What was put into a field is read from it, as far as it fits. -/
lemma toNat_get_val : (f.get (f.val v)).toNat = v.toNat % 2 ^ f.width := by
  have := f.fits
  refine Nat.eq_of_testBit_eq fun i => ?_
  rw [Nat.testBit_mod_two_pow, ← BitVec.getLsbD.eq_1, getLsbD_get, getLsbD_val, Nat.add_sub_cancel_left]
  rcases Nat.lt_or_ge i f.width with h | h
  · simp [h, BitVec.getLsbD]
  · simp [Nat.not_lt.mpr h]

lemma get_val (h : v.toNat < 2 ^ f.width) : f.get (f.val v) = v :=
  BitVec.eq_of_toNat_eq ((toNat_get_val f v).trans (Nat.mod_eq_of_lt h))

lemma get_val_setWidth {k : Nat} (x : BitVec k) (hk : k ≤ f.width) :
    f.get (f.val (x.setWidth w)) = x.setWidth w := by
  have hle : k ≤ w := hk.trans ((Nat.le_add_left ..).trans f.fits)
  refine f.get_val _ ?_
  rw [BitVec.toNat_setWidth_of_le hle]
  exact x.isLt.trans_le (Nat.pow_le_pow_right Nat.two_pos hk)

/-- What was put into another field is not. -/
lemma get_val_of_apart {g : BitField w}
    (h : f.offset + f.width ≤ g.offset ∨ g.offset + g.width ≤ f.offset) : f.get (g.val v) = 0 := by
  refine BitVec.eq_of_getLsbD_eq fun i hi => ?_
  rw [getLsbD_get, getLsbD_val, BitVec.ofNat_eq_ofNat, BitVec.getLsbD_zero]
  rcases Nat.lt_or_ge i f.width with h' | h'
  · have : ¬ (g.offset ≤ f.offset + i ∧ f.offset + i < g.offset + g.width) := by omega
    simp only [← Bool.decide_and, this, decide_false, Bool.false_and, Bool.and_false]
  · simp only [Nat.not_lt.mpr h', decide_false, Bool.false_and]

/-- The hardware looks at a field with a shift and a mask. -/
lemma shiftRight_and (m : BitVec w) (hm : m = (BitVec.allOnes f.width).setWidth w) :
    v >>> f.offset &&& m = f.get v := by
  refine BitVec.eq_of_getLsbD_eq fun i hi => ?_
  rw [getLsbD_get, BitVec.getLsbD_and, BitVec.getLsbD_ushiftRight, hm, BitVec.getLsbD_setWidth,
    BitVec.getLsbD_allOnes]
  simp [hi, Bool.and_comm]

/-- Or it takes just the bits of the field. -/
lemma setWidth_shiftRight {n : Nat} (hn : n ≤ f.width) :
    (v >>> f.offset).setWidth n = (f.get v).setWidth n := by
  refine BitVec.eq_of_getLsbD_eq fun i hi => ?_
  rw [BitVec.getLsbD_setWidth, BitVec.getLsbD_setWidth, BitVec.getLsbD_ushiftRight, getLsbD_get]
  simp [hi.trans_le hn]

@[simp] lemma isSet_bit {k : Nat} (h : k + 1 ≤ w) : (bit k h).isSet v = v.getLsbD k :=
  isSet_of_width _ v rfl

end InterruptControl.BitField
