/-!
Arithmetic on machine words. A sum wraps at the width of the word, so rounding up a quotient
close to the largest word does not.
-/

namespace InterruptControl.Word

/-- The smaller of two words. -/
def min {w : Nat} (a b : BitVec w) : BitVec w := if a < b then a else b

/-- The number of parts of size `b` that cover `a`, as long as `a + b - 1` does not wrap. -/
def ceilDiv {w : Nat} (a b : BitVec w) : BitVec w := (a + b - 1) / b

theorem toNat_min {w : Nat} (a b : BitVec w) : (min a b).toNat = Nat.min a.toNat b.toNat := by
  unfold min
  split <;> rename_i h <;> rw [BitVec.lt_def] at h <;> simp only [Nat.min_def] <;> split <;> omega

/-- The word whose bit `i` is `p i`. -/
def ofBits (w : Nat) (p : Nat → Bool) : BitVec w :=
  (List.range w).foldr (fun i v => if p i then v ||| BitVec.twoPow w i else v) 0#w

theorem getLsbD_foldr_bits (w : Nat) (p : Nat → Bool) (l : List Nat) (i : Nat) (h : i < w) :
    (l.foldr (fun i v => if p i then v ||| BitVec.twoPow w i else v) 0#w).getLsbD i
      = (decide (i ∈ l) && p i) := by
  induction l with
  | nil => simp
  | cons j l ih =>
    rw [List.foldr_cons]
    by_cases hp : p j
    · rw [if_pos hp, BitVec.getLsbD_or, ih, BitVec.getLsbD_twoPow]
      grind
    · rw [if_neg hp, ih]
      grind

@[simp] theorem getLsbD_ofBits (w : Nat) (p : Nat → Bool) (i : Nat) (h : i < w) :
    (ofBits w p).getLsbD i = p i := by
  rw [ofBits, getLsbD_foldr_bits w p _ i h]
  simp [h]

end InterruptControl.Word
