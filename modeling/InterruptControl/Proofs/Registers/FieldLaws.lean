import InterruptControl.Proofs.Registers.BitField

/-!
The algebra of register fields.

A field is read back as it was put in, cut to its width, and the rest of the register stays as it
is. Fields that have no bit in common are independent of each other.

A shift of a machine word by its width or more means nothing. The checked operations fail at such a
shift, and on no field do they fail, not even on one that fills its register.
-/

namespace InterruptControl.BitField

variable {w : Nat} (f : BitField w) (r u v : BitVec w)

/-! ### One field -/

@[simp] lemma get_clear : f.get (f.clear r) = 0 := by
  refine BitVec.eq_of_getLsbD_eq fun i _ => ?_
  rw [getLsbD_get, getLsbD_clear, BitVec.ofNat_eq_ofNat, BitVec.getLsbD_zero]
  rcases Nat.lt_or_ge i f.width with h | h
  · rw [if_pos (by omega), Bool.and_false]
  · rw [decide_eq_false (Nat.not_lt.mpr h), Bool.false_and]

lemma get_set : f.get (f.set r v) = f.get (f.val v) := by
  rw [set, ← clear, get_or, get_clear]
  exact BitVec.zero_or

lemma set_get : f.set r (f.get r) = r := by
  refine BitVec.eq_of_getLsbD_eq fun i _ => ?_
  rw [getLsbD_set, getLsbD_get]
  split
  next h => rw [decide_eq_true (by omega), Bool.true_and, Nat.add_sub_of_le h.1]
  next => rfl

lemma set_set : f.set (f.set r u) v = f.set r v := by
  refine BitVec.eq_of_getLsbD_eq fun i _ => ?_
  rw [getLsbD_set, getLsbD_set, getLsbD_set]
  split <;> rfl

lemma set_zero : f.set r 0 = f.clear r := by
  refine BitVec.eq_of_getLsbD_eq fun i _ => ?_
  rw [getLsbD_set, getLsbD_clear, BitVec.ofNat_eq_ofNat, BitVec.getLsbD_zero]

lemma zero_set : f.set 0 v = f.val v := by
  rw [set, BitVec.ofNat_eq_ofNat, BitVec.zero_and, BitVec.zero_or]

lemma clear_outside : f.clear r &&& ~~~f.mask = r &&& ~~~f.mask := by
  rw [clear, BitVec.and_assoc, BitVec.and_self]

lemma set_outside : f.set r v &&& ~~~f.mask = r &&& ~~~f.mask := by
  refine BitVec.eq_of_getLsbD_eq fun i hi => ?_
  rw [BitVec.getLsbD_and, BitVec.getLsbD_and, BitVec.getLsbD_not, getLsbD_mask, getLsbD_set,
    ← Bool.decide_and]
  split
  next h => rw [decide_eq_true h, Bool.not_true, Bool.and_false, Bool.and_false, Bool.and_false]
  next => rfl

/-- What reading and writing a field have to do with each other, for every register and value. -/
structure Lawful : Prop where
  toNat_get_set : ∀ r v, (f.get (f.set r v)).toNat = v.toNat % 2 ^ f.width
  set_outside : ∀ r v, f.set r v &&& ~~~f.mask = r &&& ~~~f.mask
  clear_outside : ∀ r, f.clear r &&& ~~~f.mask = r &&& ~~~f.mask
  set_get : ∀ r, f.set r (f.get r) = r
  set_set : ∀ r u v, f.set (f.set r u) v = f.set r v
  clear_eq : ∀ r, f.clear r = f.set r 0
  isSet_iff : ∀ r, f.isSet r = true ↔ f.get r ≠ 0
  val_eq : ∀ v, f.val v = f.set 0 v

lemma lawful : f.Lawful where
  toNat_get_set r v := (congrArg BitVec.toNat (f.get_set r v)).trans (f.toNat_get_val v)
  set_outside := f.set_outside
  clear_outside := f.clear_outside
  set_get := f.set_get
  set_set := f.set_set
  clear_eq r := (f.set_zero r).symm
  isSet_iff := f.isSet_iff
  val_eq v := (f.zero_set v).symm

/-! ### Two fields -/

section Apart

variable {f} {g : BitField w}

/-- Masks without a common bit are those of fields that lie one after the other. -/
lemma apart_of_mask (h : f.mask &&& g.mask = 0) :
    f.offset + f.width ≤ g.offset ∨ g.offset + g.width ≤ f.offset := by
  have hf := f.width_pos
  have hg := g.width_pos
  have hbit := congrArg (·.getLsbD (max f.offset g.offset)) h
  simp only [BitVec.getLsbD_and, getLsbD_mask, BitVec.ofNat_eq_ofNat, BitVec.getLsbD_zero,
    ← Bool.decide_and, decide_eq_false_iff_not] at hbit
  omega

variable (f g) in
/-- Neither field has to do with what is put into the other. -/
structure Independent : Prop where
  set_comm : ∀ r u v, f.set (g.set r v) u = g.set (f.set r u) v
  get_left : ∀ r v, f.get (g.set r v) = f.get r
  get_right : ∀ r v, g.get (f.set r v) = g.get r

variable (h : f.offset + f.width ≤ g.offset ∨ g.offset + g.width ≤ f.offset)
include h

lemma set_comm_of_apart : f.set (g.set r v) u = g.set (f.set r u) v := by
  refine BitVec.eq_of_getLsbD_eq fun i _ => ?_
  rw [getLsbD_set, getLsbD_set, getLsbD_set, getLsbD_set]
  split
  next hf => rw [if_neg (by omega)]
  next => rfl

lemma get_set_of_apart : f.get (g.set r v) = f.get r := by
  refine BitVec.eq_of_getLsbD_eq fun i _ => ?_
  rw [getLsbD_get, getLsbD_get, getLsbD_set]
  rcases Nat.lt_or_ge i f.width with hi | hi
  · rw [if_neg (by omega)]
  · rw [decide_eq_false (Nat.not_lt.mpr hi), Bool.false_and, Bool.false_and]

lemma independent_of_apart : f.Independent g where
  set_comm r u v := set_comm_of_apart r u v h
  get_left r v := get_set_of_apart r v h
  get_right r v := get_set_of_apart r v h.symm

end Apart

/-! ### Shifts -/

/-- A shift to the left by less than the width of the word. -/
def shiftLeft? (x : BitVec w) (n : Nat) : Option (BitVec w) :=
  if n < w then some (x <<< n) else none

/-- A shift to the right by less than the width of the word. -/
def shiftRight? (x : BitVec w) (n : Nat) : Option (BitVec w) :=
  if n < w then some (x >>> n) else none

/-- As many ones as the field is wide. A one is not shifted out of a word that they fill. -/
def ones? : Option (BitVec w) :=
  if f.width = w then some (.allOnes w) else (shiftLeft? 1 f.width).map (· - 1)

def mask? : Option (BitVec w) := do shiftLeft? (← f.ones?) f.offset

def get? : Option (BitVec w) := do shiftRight? (r &&& (← f.mask?)) f.offset

def isSet? : Option Bool := do return r &&& (← f.mask?) != 0

def val? : Option (BitVec w) := do return (← shiftLeft? v f.offset) &&& (← f.mask?)

def set? : Option (BitVec w) := do return (r &&& ~~~(← f.mask?)) ||| (← f.val? v)

def clear? : Option (BitVec w) := do return r &&& ~~~(← f.mask?)

/-- None of the operations shifts too far, and the checked ones result in the same. -/
structure Checked : Prop where
  mask? : f.mask? = some f.mask
  get? : ∀ r, f.get? r = some (f.get r)
  isSet? : ∀ r, f.isSet? r = some (f.isSet r)
  val? : ∀ v, f.val? v = some (f.val v)
  set? : ∀ r v, f.set? r v = some (f.set r v)
  clear? : ∀ r, f.clear? r = some (f.clear r)

lemma shiftLeft_one_sub_one {n : Nat} (h : n < w) :
    (1 : BitVec w) <<< n - 1 = (BitVec.allOnes n).setWidth w := by
  have hone : (1#w).toNat = 1 := BitVec.toNat_one (by omega)
  have hpow : (1#w <<< n).toNat = 2 ^ n := by
    rw [← BitVec.twoPow_eq, BitVec.toNat_twoPow_of_lt h]
  have hle : 1#w ≤ 1#w <<< n := by
    rw [BitVec.le_def, hone, hpow]
    exact Nat.two_pow_pos n
  refine BitVec.eq_of_toNat_eq ?_
  rw [BitVec.ofNat_eq_ofNat, BitVec.toNat_sub_of_le hle, hpow, hone,
    BitVec.toNat_setWidth_of_le h.le, BitVec.toNat_allOnes]

lemma ones?_eq : f.ones? = some ((BitVec.allOnes f.width).setWidth w) := by
  have hfits := f.fits
  unfold ones?
  split
  next h => rw [h, BitVec.setWidth_eq]
  next h =>
    have hlt : f.width < w := by omega
    rw [shiftLeft?, if_pos hlt, Option.map_some, shiftLeft_one_sub_one hlt]

lemma mask?_eq : f.mask? = some f.mask := by
  rw [BitField.mask?, ones?_eq]
  exact if_pos f.offset_lt

lemma val?_eq : f.val? v = some (f.val v) := by
  rw [BitField.val?, shiftLeft?, if_pos f.offset_lt, mask?_eq]
  rfl

lemma checked : f.Checked where
  mask? := f.mask?_eq
  get? r := by
    rw [BitField.get?, mask?_eq]
    exact if_pos f.offset_lt
  isSet? r := by
    rw [BitField.isSet?, mask?_eq]
    rfl
  val? := f.val?_eq
  set? r v := by
    rw [BitField.set?, mask?_eq, val?_eq]
    rfl
  clear? r := by
    rw [BitField.clear?, mask?_eq]
    rfl

/-- **The algebra of fields.** Of any field of a register of any width: it is read as it was put in,
cut to its width, the bits outside of it stay, and no shift goes as far as the width of the
register. Two fields whose masks have no common bit are independent. -/
theorem field_algebra :
    f.Lawful ∧ f.Checked ∧ ∀ g : BitField w, f.mask &&& g.mask = 0 → f.Independent g :=
  ⟨f.lawful, f.checked, fun _ h => independent_of_apart (apart_of_mask h)⟩

/-- The fields of a redistributor's type register next to each other, and a field that fills its
register. -/
theorem field_algebra_of_neighbours :
    (Routed.RedistributorType.ppiNumber.mask &&& Routed.RedistributorType.affinity.mask = 0
      ∧ Routed.RedistributorType.ppiNumber.Independent Routed.RedistributorType.affinity)
      ∧ (BitField.of 0 64 : BitField 64).Lawful ∧ (BitField.of 0 64 : BitField 64).Checked := by
  have hapart : Routed.RedistributorType.ppiNumber.mask &&& Routed.RedistributorType.affinity.mask = 0 := by
    decide
  obtain ⟨hlawful, hchecked, -⟩ := field_algebra (BitField.of 0 64 : BitField 64)
  exact ⟨⟨hapart, (field_algebra _).2.2 _ hapart⟩, hlawful, hchecked⟩

end InterruptControl.BitField
