import InterruptControl.Targets.ClusterList
import Mathlib

/-!
A list of cores of one cluster as the set of its members.

A core can be added if it lies in the block of sixteen that the list is about. In there, the bit of
a core tells it from all others, so two lists with the same members are the same.
-/

namespace InterruptControl

namespace Affinity

/-- Both cores lie in one block of sixteen of one cluster. -/
def SameBlock (a b : Affinity) : Prop :=
  a.aff1 = b.aff1 ∧ a.aff2 = b.aff2 ∧ a.aff3 = b.aff3 ∧ a.aff0.toNat / 16 = b.aff0.toNat / 16

instance (a b : Affinity) : Decidable (a.SameBlock b) := inferInstanceAs (Decidable (_ ∧ _))

lemma SameBlock.symm {a b : Affinity} (h : a.SameBlock b) : b.SameBlock a :=
  ⟨h.1.symm, h.2.1.symm, h.2.2.1.symm, h.2.2.2.symm⟩

lemma SameBlock.trans {a b c : Affinity} (h : a.SameBlock b) (h' : b.SameBlock c) : a.SameBlock c :=
  ⟨h.1.trans h'.1, h.2.1.trans h'.2.1, h.2.2.1.trans h'.2.2.1, h.2.2.2.trans h'.2.2.2⟩

/-- There, cores differ in their place in the block. -/
lemma SameBlock.eq {a b : Affinity} (h : a.SameBlock b) (hbit : a.aff0.toNat % 16 = b.aff0.toNat % 16) :
    a = b := by
  obtain ⟨h1, h2, h3, hblock⟩ := h
  have h0 : a.aff0 = b.aff0 := BitVec.eq_of_toNat_eq (by omega)
  rcases a with ⟨a0, a1, a2, a3⟩
  rcases b with ⟨b0, b1, b2, b3⟩
  obtain ⟨rfl, rfl, rfl, rfl⟩ : a0 = b0 ∧ a1 = b1 ∧ a2 = b2 ∧ a3 = b3 := ⟨h0, h1, h2, h3⟩
  rfl

end Affinity

namespace ClusterList

variable {l l' : ClusterList} {a b : Affinity} {cores : List Affinity}

/-- The core is one of the list. -/
def contains (l : ClusterList) (a : Affinity) : Bool :=
  l.covers a && l.bitmap.getLsbD (a.aff0.toNat % blockSize)

lemma toNat_blockOf (a : Affinity) : (blockOf a).toNat = a.aff0.toNat / 16 := by
  rw [blockOf, BitVec.toNat_ofNat, blockSize]
  omega

lemma covers_iff : l.covers a = true ↔ a.aff1 = l.aff1 ∧ a.aff2 = l.aff2 ∧ a.aff3 = l.aff3
    ∧ a.aff0.toNat / 16 = l.range.toNat := by
  simp only [covers, Bool.and_eq_true, beq_iff_eq, and_assoc, ← BitVec.toNat_inj, toNat_blockOf]

lemma covers_around : (around a).covers b = true ↔ b.SameBlock a := by
  simp only [covers_iff, around, toNat_blockOf, Affinity.SameBlock]

lemma contains_around : (around a).contains b = false := by simp [contains, around]

lemma SameBlock.of_covers (ha : l.covers a = true) (hb : l.covers b = true) : a.SameBlock b := by
  rw [covers_iff] at ha hb
  exact ⟨ha.1.trans hb.1.symm, ha.2.1.trans hb.2.1.symm, ha.2.2.1.trans hb.2.2.1.symm,
    ha.2.2.2.trans hb.2.2.2.symm⟩

/-! ### Adding cores -/

lemma add?_eq_some : l.add? a = some l' ↔ l.covers a = true
    ∧ l' = { l with bitmap := l.bitmap ||| (1#16 <<< (a.aff0.toNat % blockSize)) } := by
  rw [add?, Option.ite_none_right_eq_some, Option.some.injEq, eq_comm (b := l')]

lemma isSome_add? : (l.add? a).isSome = l.covers a := by
  rw [add?]
  split <;> simp_all

/-- A list never changes what it is about. -/
lemma covers_of_add? (h : l.add? a = some l') (b : Affinity) : l'.covers b = l.covers b := by
  obtain ⟨-, rfl⟩ := add?_eq_some.mp h
  rfl

lemma contains_of_add? (h : l.add? a = some l') (b : Affinity) :
    l'.contains b = true ↔ l.contains b = true ∨ b = a := by
  have hcovers := covers_of_add? h b
  obtain ⟨ha, rfl⟩ := add?_eq_some.mp h
  have hbit : (1#16 <<< (a.aff0.toNat % blockSize)).getLsbD (b.aff0.toNat % blockSize)
      = decide (b.aff0.toNat % 16 = a.aff0.toNat % 16) := by
    rw [← BitVec.twoPow_eq, BitVec.getLsbD_twoPow, blockSize]
    have := Nat.mod_lt a.aff0.toNat (show 0 < 16 by decide)
    simp [this, eq_comm]
  rw [contains, hcovers, contains, BitVec.getLsbD_or, hbit]
  rcases hb : l.covers b with _ | _
  · have hne : b ≠ a := fun he => by simp [← he, hb] at ha
    simp [hne]
  · have hsame : b.aff0.toNat % 16 = a.aff0.toNat % 16 ↔ b = a :=
      ⟨fun he => (SameBlock.of_covers hb ha).eq he, fun he => he ▸ rfl⟩
    simp [hsame]

/-- All cores can be added if each one can. -/
lemma isSome_addAll? : (l.addAll? cores).isSome = true ↔ ∀ b ∈ cores, l.covers b = true := by
  induction cores generalizing l with
  | nil => simp [addAll?]
  | cons a rest ih =>
    rw [addAll?, List.foldlM_cons, List.forall_mem_cons]
    rcases h : l.add? a with _ | l₁
    · have hnot : l.covers a = false := by rw [← isSome_add?, h]; rfl
      simp [hnot]
    · have hcovers : l.covers a = true := (add?_eq_some.mp h).1
      have hrest := ih (l := l₁)
      simp only [covers_of_add? h, addAll?] at hrest
      simpa [hcovers] using hrest

lemma of_addAll? (h : l.addAll? cores = some l') :
    (∀ b, l'.covers b = l.covers b) ∧ ∀ b, l'.contains b = true ↔ l.contains b = true ∨ b ∈ cores := by
  induction cores generalizing l with
  | nil =>
    obtain rfl : l = l' := by simpa [addAll?] using h
    exact ⟨fun _ => rfl, by simp⟩
  | cons a rest ih =>
    rw [addAll?, List.foldlM_cons] at h
    obtain ⟨l₁, hadd, hrest⟩ := Option.bind_eq_some_iff.mp h
    obtain ⟨hcovers, hcontains⟩ := ih hrest
    refine ⟨fun b => (hcovers b).trans (covers_of_add? hadd b), fun b => ?_⟩
    rw [hcontains, contains_of_add? hadd, List.mem_cons, or_assoc]

/-! ### Lists made from cores -/

/-- What is added later might have been in the list from the start. -/
lemma ofCores?_bind_addAll? (a : Affinity) (rest more : List Affinity) :
    (ofCores? a rest).bind (·.addAll? more) = ofCores? a (rest ++ more) := by
  rw [ofCores?, ofCores?, ← List.cons_append, addAll?, addAll?, List.foldlM_append]
  rfl

/-- The cores of a list agree on cluster and block. -/
lemma isSome_ofCores? {rest : List Affinity} : (ofCores? a rest).isSome = true
    ↔ ∀ b ∈ a :: rest, ∀ b' ∈ a :: rest, b.SameBlock b' := by
  rw [ofCores?, isSome_addAll?]
  simp only [covers_around]
  constructor
  · exact fun h b hb b' hb' => (h b hb).trans (h b' hb').symm
  · exact fun h b hb => h b hb a (List.mem_cons_self ..)

lemma contains_of_ofCores? {rest : List Affinity} (h : ofCores? a rest = some l) (b : Affinity) :
    l.contains b = true ↔ b ∈ a :: rest := by
  rw [(of_addAll? h).2, contains_around]
  simp

lemma covers_of_ofCores? {rest : List Affinity} (h : ofCores? a rest = some l) : l.covers a = true := by
  rw [(of_addAll? h).1, covers_around]
  exact ⟨rfl, rfl, rfl, rfl⟩

/-- A list is known from its members. -/
lemma eq_of_contains (ha : l.covers a = true) (ha' : l'.covers a = true)
    (h : ∀ b, l.contains b = true ↔ l'.contains b = true) : l = l' := by
  obtain ⟨h1, h2, h3, hrange⟩ := covers_iff.mp ha
  obtain ⟨h1', h2', h3', hrange'⟩ := covers_iff.mp ha'
  have hbitmap : l.bitmap = l'.bitmap := by
    refine BitVec.eq_of_getLsbD_eq fun i hi => ?_
    -- the core of the block that the bit stands for
    have hlevel : (BitVec.ofNat 8 (a.aff0.toNat / 16 * 16 + i)).toNat = a.aff0.toNat / 16 * 16 + i := by
      rw [BitVec.toNat_ofNat]
      have := a.aff0.isLt
      omega
    have hb := h { a with aff0 := BitVec.ofNat 8 (a.aff0.toNat / 16 * 16 + i) }
    have hblock : (a.aff0.toNat / 16 * 16 + i) / 16 = a.aff0.toNat / 16 := by omega
    have hplace : (a.aff0.toNat / 16 * 16 + i) % 16 = i := by omega
    have hcovers : l.covers { a with aff0 := BitVec.ofNat 8 (a.aff0.toNat / 16 * 16 + i) } = true :=
      covers_iff.mpr ⟨h1, h2, h3, by rw [hlevel, hblock, hrange]⟩
    have hcovers' : l'.covers { a with aff0 := BitVec.ofNat 8 (a.aff0.toNat / 16 * 16 + i) } = true :=
      covers_iff.mpr ⟨h1', h2', h3', by rw [hlevel, hblock, hrange']⟩
    rw [contains, contains, hcovers, hcovers', Bool.true_and, Bool.true_and, hlevel, blockSize, hplace] at hb
    exact Bool.eq_iff_iff.mpr hb
  have hr : l.range = l'.range := BitVec.eq_of_toNat_eq (hrange.symm.trans hrange')
  rcases l with ⟨x1, x2, x3, x, r⟩
  rcases l' with ⟨y1, y2, y3, y, t⟩
  obtain ⟨rfl, rfl, rfl, rfl, rfl⟩ : x1 = y1 ∧ x2 = y2 ∧ x3 = y3 ∧ x = y ∧ r = t :=
    ⟨h1.symm.trans h1', h2.symm.trans h2', h3.symm.trans h3', hbitmap, hr⟩
  rfl

/-- Neither order nor repetition counts, nor which core comes first. -/
lemma ofCores?_congr {a' : Affinity} {rest rest' : List Affinity}
    (h : ∀ b, b ∈ a' :: rest' ↔ b ∈ a :: rest) : ofCores? a' rest' = ofCores? a rest := by
  have hsome : (ofCores? a' rest').isSome = (ofCores? a rest).isSome := by
    rw [Bool.eq_iff_iff, isSome_ofCores?, isSome_ofCores?]
    simp only [h]
  rcases hl : ofCores? a rest with _ | l
  · simpa [hl] using hsome
  · obtain ⟨l', hl'⟩ := Option.isSome_iff_exists.mp (hsome.trans (by rw [hl]; rfl))
    have hcovers : l'.covers a = true := by
      have hmem := (contains_of_ofCores? hl' a).mpr ((h a).mpr (List.mem_cons_self ..))
      exact (Bool.and_eq_true_iff.mp hmem).1
    rw [hl', eq_of_contains hcovers (covers_of_ofCores? hl) fun b => by
      rw [contains_of_ofCores? hl', contains_of_ofCores? hl, h]]

/-- The block of a core fits into four bits. -/
lemma range_lt (h : l.covers a = true) : l.range.toNat < 16 := by
  have := (covers_iff.mp h).2.2.2
  have := a.aff0.isLt
  omega

lemma contains_iff : l.contains a = true ↔ a.aff1 = l.aff1 ∧ a.aff2 = l.aff2 ∧ a.aff3 = l.aff3
    ∧ a.aff0.toNat / 16 = l.range.toNat ∧ l.bitmap.getLsbD (a.aff0.toNat % 16) = true := by
  rw [contains, Bool.and_eq_true, covers_iff, blockSize]
  simp only [and_assoc]

/-- The members of a list are the cores that can be added to no effect. -/
lemma contains_iff_add? : l.contains a = true ↔ l.add? a = some l := by
  have hlt : a.aff0.toNat % blockSize < 16 := Nat.mod_lt _ (by decide)
  rw [contains, Bool.and_eq_true, add?_eq_some, ← BitVec.twoPow_eq]
  refine and_congr_right fun _ => ⟨fun hbit => ?_, fun hl => ?_⟩
  · have hsame : l.bitmap ||| BitVec.twoPow 16 (a.aff0.toNat % blockSize) = l.bitmap := by
      refine BitVec.eq_of_getLsbD_eq fun i _ => ?_
      rw [BitVec.getLsbD_or, BitVec.getLsbD_twoPow]
      by_cases hi : a.aff0.toNat % blockSize = i
      · simp [← hi, hbit]
      · simp [hi]
    rw [hsame]
  · rw [hl, BitVec.getLsbD_or, BitVec.getLsbD_twoPow]
    simp [hlt]

/-! ### Ranges of eight bits -/

/-- The list with the four bits of its range that cores can have. -/
def folded (l : ClusterList) : ClusterList := { l with range := l.range &&& 0xf }

lemma toNat_range_folded (l : ClusterList) : l.folded.range.toNat = l.range.toNat % 16 := by
  rw [folded, BitVec.toNat_and]
  exact Nat.and_two_pow_sub_one_eq_mod _ 4

lemma folded_eq_self (h : l.range.toNat < 16) : l.folded = l := by
  have hrange : l.folded.range = l.range :=
    BitVec.eq_of_toNat_eq ((toNat_range_folded l).trans (Nat.mod_eq_of_lt h))
  exact congrArg (fun r => { l with range := r }) hrange

/-- No core lies in a block past the sixteenth. -/
lemma contains_of_le_range (h : 16 ≤ l.range.toNat) (a : Affinity) : l.contains a = false := by
  have hcovers : l.covers a = false := Bool.eq_false_iff.mpr fun hc => by
    have := range_lt hc
    omega
  rw [contains, hcovers, Bool.false_and]

end ClusterList

end InterruptControl
