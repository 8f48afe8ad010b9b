import InterruptControl.Block
import InterruptControl.Gic.Handlers
import Mathlib

/-!
The ranges of interrupt numbers as inequalities.
-/

namespace InterruptControl.IntId

variable (id : IntId)

lemma is_iff (c : Category) : id.is c = true ↔ c.first ≤ id.number ∧ id.number < c.first + c.size := by
  simp [IntId.is, Category.contains]

lemma isSgi_iff : id.isSgi = true ↔ id.number < 16 :=
  (id.is_iff .sgi).trans ⟨fun h => h.2, fun h => ⟨Nat.zero_le _, h⟩⟩

lemma isPpi_iff : id.isPpi = true ↔ 16 ≤ id.number ∧ id.number < 32 := id.is_iff .ppi

lemma isSpi_iff : id.isSpi = true ↔ 32 ≤ id.number ∧ id.number < 1020 := id.is_iff .spi

lemma isSpecial_iff : id.isSpecial = true ↔ 1020 ≤ id.number ∧ id.number < 1024 :=
  id.is_iff .special

lemma isExtendedPpi_iff : id.isExtendedPpi = true ↔ 1056 ≤ id.number ∧ id.number < 1120 :=
  id.is_iff .extendedPpi

lemma isExtendedSpi_iff : id.isExtendedSpi = true ↔ 4096 ≤ id.number ∧ id.number < 5120 :=
  id.is_iff .extendedSpi

lemma isLpi_iff : id.isLpi = true ↔ 8192 ≤ id.number := by
  refine (id.is_iff .lpi).trans ⟨fun h => h.1, fun h => ⟨h, ?_⟩⟩
  have : id.number < 2 ^ 32 := id.raw.isLt
  simp only [Category.first, Category.size]
  omega

lemma isLpi_eq : id.isLpi = decide (8192 ≤ id.number) := by
  rw [Bool.eq_iff_iff, isLpi_iff, decide_eq_true_iff]

lemma isPrivate_iff : id.isPrivate = true ↔
    id.number < 32 ∨ 1056 ≤ id.number ∧ id.number < 1120 := by
  rw [isPrivate, Bool.or_eq_true, Bool.or_eq_true, isSgi_iff, isPpi_iff, isExtendedPpi_iff]
  omega

lemma number_lt : id.number < 0x100000000 := id.raw.isLt

@[simp] lemma number_ofNat {n : Nat} (h : n < 0x100000000) : (ofNat n).number = n := by
  rw [ofNat, number, BitVec.toNat_ofNat, Nat.mod_eq_of_lt h]

@[ext] lemma ext_number {i j : IntId} (h : i.number = j.number) : i = j := by
  obtain ⟨i⟩ := i
  obtain ⟨j⟩ := j
  exact congrArg IntId.mk (BitVec.eq_of_toNat_eq h)

@[simp] lemma ofNat_number : ofNat id.number = id := by
  ext
  exact number_ofNat id.number_lt

end InterruptControl.IntId
