import InterruptControl.Targets.CpuSet
import Mathlib

/-!
A byte of cores as the set of its members.

A core can be added if it has a bit, and its bit tells it from all others. So a set is known from
its members, whatever list it was made from, and scanning its bits gives them back.
-/

namespace InterruptControl

namespace CpuSet

variable {s s' : CpuSet} {cpu x y : Nat} {cores cores' : List Nat}

lemma contains_iff : s.contains x = true ↔ x < capacity ∧ s.mask.getLsbD x = true := by
  rw [contains, Bool.and_eq_true, decide_eq_true_eq]

lemma lt_of_contains (h : s.contains x = true) : x < capacity := (contains_iff.mp h).1

@[simp] lemma contains_empty : empty.contains x = false := by simp [contains, empty]

/-- A set is known from its members. -/
lemma eq_of_contains (h : ∀ x, s.contains x = true ↔ s'.contains x = true) : s = s' := by
  have hmask : s.mask = s'.mask := BitVec.eq_of_getLsbD_eq fun i hi => by
    have hbit := h i
    rw [contains_iff, contains_iff] at hbit
    exact Bool.eq_iff_iff.mpr (by simpa [capacity, hi] using hbit)
  rcases s with ⟨m⟩
  rcases s' with ⟨m'⟩
  exact congrArg mk hmask

/-! ### Adding cores -/

lemma add?_eq_some : s.add? cpu = some s' ↔ cpu < capacity ∧ s' = ⟨s.mask ||| (1#8 <<< cpu)⟩ := by
  rw [add?, Option.ite_none_right_eq_some, Option.some.injEq, eq_comm (b := s')]

lemma isSome_add? : (s.add? cpu).isSome = true ↔ cpu < capacity := by
  simp [add?]

lemma contains_of_add? (h : s.add? cpu = some s') (x : Nat) :
    s'.contains x = true ↔ s.contains x = true ∨ x = cpu := by
  obtain ⟨hcpu, rfl⟩ := add?_eq_some.mp h
  have hbit : (1#8 <<< cpu).getLsbD x = decide (x < capacity ∧ x = cpu) := by
    rw [← BitVec.twoPow_eq, BitVec.getLsbD_twoPow, ← Bool.decide_and]
    refine decide_eq_decide.mpr ⟨fun he => ?_, fun he => ⟨he.2 ▸ hcpu, he.2.symm⟩⟩
    exact ⟨he.2 ▸ hcpu, he.2.symm⟩
  rw [contains_iff, contains_iff, BitVec.getLsbD_or, hbit, Bool.or_eq_true, decide_eq_true_eq]
  constructor
  · rintro ⟨hx, hold | ⟨-, rfl⟩⟩
    exacts [.inl ⟨hx, hold⟩, .inr rfl]
  · rintro (⟨hx, hold⟩ | rfl)
    exacts [⟨hx, .inl hold⟩, ⟨hcpu, .inr ⟨hcpu, rfl⟩⟩]

/-- All cores can be added if each one can. -/
lemma isSome_addAll? : (s.addAll? cores).isSome = true ↔ ∀ x ∈ cores, x < capacity := by
  induction cores generalizing s with
  | nil => simp [addAll?]
  | cons cpu rest ih =>
    rw [addAll?, List.foldlM_cons, List.forall_mem_cons]
    rcases h : s.add? cpu with _ | s₁
    · have hnot : ¬ cpu < capacity := by rw [← isSome_add? (s := s), h]; simp
      simp [hnot]
    · simpa [addAll?, (add?_eq_some.mp h).1] using ih (s := s₁)

lemma contains_of_addAll? (h : s.addAll? cores = some s') (x : Nat) :
    s'.contains x = true ↔ s.contains x = true ∨ x ∈ cores := by
  induction cores generalizing s with
  | nil =>
    obtain rfl : s = s' := by simpa [addAll?] using h
    simp
  | cons cpu rest ih =>
    rw [addAll?, List.foldlM_cons] at h
    obtain ⟨s₁, hadd, hrest⟩ := Option.bind_eq_some_iff.mp h
    rw [ih hrest, contains_of_add? hadd, List.mem_cons, or_assoc]

/-- Neither order nor repetition counts. -/
lemma addAll?_congr (h : ∀ x, x ∈ cores' ↔ x ∈ cores) : s.addAll? cores' = s.addAll? cores := by
  have hsome : (s.addAll? cores').isSome = (s.addAll? cores).isSome := by
    rw [Bool.eq_iff_iff, isSome_addAll?, isSome_addAll?]
    simp only [h]
  rcases hl : s.addAll? cores with _ | t
  · simpa [hl] using hsome
  · obtain ⟨t', ht'⟩ := Option.isSome_iff_exists.mp (hsome.trans (by rw [hl]; rfl))
    have hsame : t' = t := eq_of_contains fun x => by
      rw [contains_of_addAll? ht', contains_of_addAll? hl, h]
    rw [ht', hsame]

/-! ### Sets made from lists, and back -/

lemma contains_of_ofList? (h : ofList? cores = some s) (x : Nat) :
    s.contains x = true ↔ x ∈ cores := by
  simp [contains_of_addAll? h]

lemma ofList?_eq_none : ofList? cores = none ↔ ∃ x ∈ cores, capacity ≤ x := by
  rw [← Option.not_isSome_iff_eq_none, ofList?, isSome_addAll?]
  push Not
  rfl

lemma mem_toList : x ∈ s.toList ↔ s.contains x = true := by
  rw [toList, List.mem_filter, List.mem_range]
  exact and_iff_right_of_imp lt_of_contains

lemma pairwise_toList : s.toList.Pairwise (· < ·) := List.pairwise_lt_range.filter _

lemma ofList?_toList (s : CpuSet) : ofList? s.toList = some s := by
  have hsome : (ofList? s.toList).isSome = true :=
    isSome_addAll?.mpr fun x hx => lt_of_contains (mem_toList.mp hx)
  obtain ⟨t, ht⟩ := Option.isSome_iff_exists.mp hsome
  have hsame : t = s := eq_of_contains fun x => by rw [contains_of_ofList? ht, mem_toList]
  rw [ht, hsame]

/-- Cores that are added one after the other are the list of them. -/
lemma add?_bind_add? (s : CpuSet) (x y : Nat) :
    (s.add? x).bind (·.add? y) = s.addAll? [x, y] := by
  simp [addAll?]

lemma add?_eq_addAll? (s : CpuSet) (x : Nat) : s.add? x = s.addAll? [x] := by simp [addAll?]

/-- **A set of cores is faithful to the list it is made from.** It is refused for a core without a
bit only, depends on the members of the list and on nothing else, and scanning it gives each of them
once, in ascending order. Every byte is the set of what scanning it gives. In which order cores are
added does not count, nor does adding one again. -/
theorem ofList_faithful (cores : List Nat) :
    (ofList? cores = none ↔ ∃ x ∈ cores, 8 ≤ x)
    ∧ (∀ cores', (∀ x, x ∈ cores' ↔ x ∈ cores) → ofList? cores' = ofList? cores)
    ∧ (∀ s, ofList? cores = some s → (∀ x, s.contains x = true ↔ x ∈ cores)
      ∧ s.toList.Pairwise (· < ·) ∧ ∀ x, x ∈ s.toList ↔ x ∈ cores)
    ∧ (∀ mask : BitVec 8, ofList? (CpuSet.mk mask).toList = some ⟨mask⟩)
    ∧ ∀ (s : CpuSet) (x y : Nat), (s.add? x).bind (·.add? y) = (s.add? y).bind (·.add? x)
      ∧ (s.add? x).bind (·.add? x) = s.add? x := by
  refine ⟨ofList?_eq_none, fun _ h => addAll?_congr h, fun s h => ?_, fun mask => ofList?_toList _,
    fun s x y => ⟨?_, ?_⟩⟩
  · refine ⟨contains_of_ofList? h, pairwise_toList, fun x => ?_⟩
    rw [mem_toList, contains_of_ofList? h]
  · rw [add?_bind_add?, add?_bind_add?]
    exact addAll?_congr fun z => by simp [or_comm]
  · rw [add?_bind_add?, add?_eq_addAll?]
    exact addAll?_congr fun z => by simp

/-- Cores 5 and 0, the former named twice. -/
theorem ofList_faithful_repeated :
    ofList? [5, 0, 5] = some ⟨0x21⟩ ∧ ofList? [0, 5] = some ⟨0x21⟩
    ∧ (∀ x, (CpuSet.mk 0x21).contains x = true ↔ x ∈ [5, 0, 5]) ∧ (CpuSet.mk 0x21).toList = [0, 5] := by
  obtain ⟨-, hsame, hmembers, -, -⟩ := ofList_faithful [5, 0, 5]
  have hset : ofList? [5, 0, 5] = some ⟨0x21⟩ := by decide
  have hmem : ∀ x, x ∈ [0, 5] ↔ x ∈ [5, 0, 5] := fun x => by simp; tauto
  exact ⟨hset, (hsame [0, 5] hmem).trans hset, (hmembers _ hset).1, by decide⟩

end CpuSet

end InterruptControl
