import InterruptControl.Affinity
import InterruptControl.Hardware.Distributor
import InterruptControl.Proofs.Registers.BitField

/-!
The layouts of an affinity: packed, in the register of a core, and in a route. The last two may
have other bits between the levels, which change nothing about the affinity that is read.
-/

namespace InterruptControl.Affinity

open Hardware

/-! ### Packed -/

lemma getLsbD_packed (a : Affinity) (i : Nat) : a.packed.getLsbD i =
    if i < 8 then a.aff0.getLsbD i
    else if i < 16 then a.aff1.getLsbD (i - 8)
    else if i < 24 then a.aff2.getLsbD (i - 16)
    else a.aff3.getLsbD (i - 24) := by
  simp only [packed, BitVec.getLsbD_or, BitVec.getLsbD_shiftLeft, BitVec.getLsbD_setWidth]
  by_cases h0 : i < 8
  · simp [h0, show i < 16 by omega, show i < 24 by omega, show i < 32 by omega]
  by_cases h1 : i < 16
  · simp [h0, h1, show 8 ≤ i by omega, show i < 24 by omega, show i < 32 by omega,
      show i - 8 < 32 by omega]
  by_cases h2 : i < 24
  · simp [h0, h1, h2, show 8 ≤ i by omega, show 8 ≤ i - 8 by omega,
      show i < 32 by omega, show i - 16 < 32 by omega]
  by_cases h3 : i < 32
  · simp [h0, h1, h2, h3, show 8 ≤ i by omega,
      show 8 ≤ i - 8 by omega, show 8 ≤ i - 16 by omega, show i - 24 < 32 by omega]
  · simp [h0, h1, h2, h3, show 8 ≤ i - 24 by omega]

lemma ofPacked_packed (a : Affinity) : ofPacked a.packed = a := by
  have hbyte (n : Nat) (x : BitVec 8) (hx : ∀ i < 8, a.packed.getLsbD (n + i) = x.getLsbD i) :
      (a.packed >>> n).setWidth 8 = x := by
    refine BitVec.eq_of_getLsbD_eq fun i hi => ?_
    rw [BitVec.getLsbD_setWidth, BitVec.getLsbD_ushiftRight, hx i hi]
    simp [hi]
  have h0 := hbyte 0 a.aff0 fun i hi => by
    rw [getLsbD_packed, Nat.zero_add, if_pos hi]
  have h1 := hbyte 8 a.aff1 fun i hi => by
    rw [getLsbD_packed, if_neg (by omega), if_pos (by omega), Nat.add_sub_cancel_left]
  have h2 := hbyte 16 a.aff2 fun i hi => by
    rw [getLsbD_packed, if_neg (by omega), if_neg (by omega), if_pos (by omega),
      Nat.add_sub_cancel_left]
  have h3 := hbyte 24 a.aff3 fun i hi => by
    rw [getLsbD_packed, if_neg (by omega), if_neg (by omega), if_neg (by omega),
      Nat.add_sub_cancel_left]
  rw [BitVec.ushiftRight_zero] at h0
  rw [ofPacked, h0, h1, h2, h3]

lemma ofPacked_injective {v w : BitVec 32} (h : ofPacked v = ofPacked w) : v = w := by
  have h0 := congrArg (·.aff0.toNat) h
  have h1 := congrArg (·.aff1.toNat) h
  have h2 := congrArg (·.aff2.toNat) h
  have h3 := congrArg (·.aff3.toNat) h
  simp only [ofPacked, BitVec.toNat_setWidth, BitVec.toNat_ushiftRight,
    Nat.shiftRight_eq_div_pow] at h0 h1 h2 h3
  apply BitVec.eq_of_toNat_eq
  omega

/-- The four levels in a row, the lowest one in the low byte. -/
def word (a : Affinity) : BitVec 32 := a.aff3 ++ a.aff2 ++ a.aff1 ++ a.aff0

lemma word_eq_packed (a : Affinity) : a.word = a.packed := by
  refine BitVec.eq_of_getLsbD_eq fun i _ => ?_
  simp only [word, BitVec.getLsbD_append, getLsbD_packed, Nat.sub_sub]
  have h16 : i - 8 < 8 ↔ i < 16 := by omega
  have h24 : i - (8 + 8) < 8 ↔ i < 24 := by omega
  simp only [h16, h24]

/-- A packed affinity is read as its levels. -/
lemma ofPacked_eq_iff {v : BitVec 32} {a : Affinity} : ofPacked v = a ↔ v = a.word := by
  rw [word_eq_packed]
  refine ⟨fun h => ofPacked_injective (h.trans (ofPacked_packed a).symm), ?_⟩
  rintro rfl
  exact ofPacked_packed a

/-! ### The register of a core -/

lemma getLsbD_packAffinity (v : BitVec 64) {i : Nat} (hi : i < 32) :
    (packAffinity v).getLsbD i = v.getLsbD (if i < 24 then i else i + 8) := by
  have hmask : (0xffffff : BitVec 64) = BitVec.setWidth 64 (BitVec.allOnes 24) := by decide
  simp only [packAffinity, BitVec.getLsbD_or, BitVec.getLsbD_shiftLeft, BitVec.getLsbD_setWidth,
    BitVec.getLsbD_and, BitVec.getLsbD_ushiftRight, hmask, BitVec.getLsbD_allOnes]
  split
  next h =>
    simp [hi, h]
    omega
  next h =>
    have hadd : 32 + (i - 24) = i + 8 := by omega
    simp [hi, h, hadd, show i - 24 < 8 by omega, show i - 24 < 32 by omega]

/-- The software reads the affinity from the register of a core as the hardware packs it. -/
lemma ofPacked_packAffinity (v : BitVec 64) : ofPacked (packAffinity v) = ofCoreRegister v := by
  have hget (f : BitField 64) {n : Nat} (hw : f.width = 8) (hn : n < 32 - 7)
      (hf : ∀ i < 8, (if n + i < 24 then n + i else n + i + 8) = f.offset + i) :
      ((packAffinity v) >>> n).setWidth 8 = (f.get v).setWidth 8 := by
    refine BitVec.eq_of_getLsbD_eq fun i hi => ?_
    rw [BitVec.getLsbD_setWidth, BitVec.getLsbD_setWidth, BitVec.getLsbD_ushiftRight,
      getLsbD_packAffinity v (by omega), hf i hi, BitField.getLsbD_get, hw]
    simp [hi]
  have h0 := hget Routed.CoreAffinity.aff0 (n := 0) rfl (by omega) (by decide)
  rw [BitVec.ushiftRight_zero] at h0
  simp only [ofPacked, ofCoreRegister]
  congr 1
  · exact hget Routed.CoreAffinity.aff1 rfl (by omega) (by decide)
  · exact hget Routed.CoreAffinity.aff2 rfl (by omega) (by decide)
  · exact hget Routed.CoreAffinity.aff3 rfl (by omega) (by decide)

/-- So the two pack it to the same word. -/
lemma packed_ofCoreRegister (v : BitVec 64) : (ofCoreRegister v).packed = packAffinity v :=
  ofPacked_injective ((ofPacked_packed _).trans (ofPacked_packAffinity v).symm)

lemma word_ofCoreRegister (v : BitVec 64) : (ofCoreRegister v).word = packAffinity v :=
  (word_eq_packed _).trans (packed_ofCoreRegister v)

lemma packAffinity_eq_iff {v w : BitVec 64} :
    packAffinity v = packAffinity w ↔ ofCoreRegister v = ofCoreRegister w := by
  have hinjective : Function.Injective ofPacked := fun _ _ => ofPacked_injective
  rw [← hinjective.eq_iff, ofPacked_packAffinity, ofPacked_packAffinity]

/-! ### Routes -/

/-- The bits of a route that hold levels. -/
def levelMask : BitVec 64 := 0xff00ffffff

lemma getLsbD_levelMask (i : Nat) :
    levelMask.getLsbD i = (decide (i < 24) || decide (32 ≤ i ∧ i < 40)) := by
  have hmask : levelMask = (BitVec.allOnes 24).setWidth 64 ||| (BitVec.allOnes 8).setWidth 64 <<< 32 := by
    decide
  rw [hmask, BitVec.getLsbD_or, BitVec.getLsbD_shiftLeft, BitVec.getLsbD_setWidth,
    BitVec.getLsbD_setWidth, BitVec.getLsbD_allOnes, BitVec.getLsbD_allOnes]
  grind

lemma getLsbD_toRoute (a : Affinity) (i : Nat) : a.toRoute.getLsbD i =
    (decide (i < 8) && a.aff0.getLsbD i || decide (8 ≤ i ∧ i < 16) && a.aff1.getLsbD (i - 8)
      || decide (16 ≤ i ∧ i < 24) && a.aff2.getLsbD (i - 16)
      || decide (32 ≤ i ∧ i < 40) && a.aff3.getLsbD (i - 32)) := by
  have hval (f : BitField 64) (v : BitVec 8) : (f.val (v.setWidth 64)).getLsbD i
      = (decide (f.offset ≤ i ∧ i < f.offset + f.width) && v.getLsbD (i - f.offset)) := by
    have := f.fits
    rw [BitField.getLsbD_val, BitVec.getLsbD_setWidth, Bool.decide_and]
    by_cases h : i < f.offset + f.width
    · simp [show i - f.offset < 64 by omega]
    · simp [h]
  simp only [toRoute, BitVec.getLsbD_or, hval, Routed.Route.aff0, Routed.Route.aff1, Routed.Route.aff2,
    Routed.Route.aff3, BitField.of, Nat.zero_le, true_and, Nat.zero_add, Nat.sub_zero, Nat.reduceAdd]

/-- A route names the core that it was made for. -/
lemma ofRoute_toRoute (a : Affinity) : ofRoute a.toRoute = a := by
  have hlevel (x : BitVec 8) : (x.setWidth 64).setWidth 8 = x := by simp
  simp (disch := decide) only [ofRoute, toRoute, BitField.get_or, BitField.get_val_setWidth,
    BitField.get_val_of_apart, BitVec.ofNat_eq_ofNat, BitVec.or_zero, BitVec.zero_or, hlevel]

/-- What is between the levels is lost. -/
lemma toRoute_ofRoute (v : BitVec 64) : (ofRoute v).toRoute = v &&& levelMask := by
  have hlevel (f : BitField 64) (hw : f.width = 8) {i : Nat} (hi : f.offset ≤ i)
      (hlt : i - f.offset < 8) : ((f.get v).setWidth 8).getLsbD (i - f.offset) = v.getLsbD i := by
    rw [BitVec.getLsbD_setWidth, BitField.getLsbD_get, hw, Nat.add_sub_cancel' hi]
    simp [hlt]
  refine BitVec.eq_of_getLsbD_eq fun i _ => ?_
  rw [getLsbD_toRoute, BitVec.getLsbD_and, getLsbD_levelMask]
  have h0 := hlevel Routed.Route.aff0 rfl (i := i) (Nat.zero_le _)
  have h1 := hlevel Routed.Route.aff1 rfl (i := i)
  have h2 := hlevel Routed.Route.aff2 rfl (i := i)
  have h3 := hlevel Routed.Route.aff3 rfl (i := i)
  simp only [Routed.Route.aff0, Routed.Route.aff1, Routed.Route.aff2, Routed.Route.aff3, BitField.of,
    Nat.sub_zero] at h0 h1 h2 h3
  simp only [ofRoute, Routed.Route.aff0, Routed.Route.aff1, Routed.Route.aff2, Routed.Route.aff3,
    BitField.of]
  grind

/-- A route to a core has levels only. -/
lemma toRoute_and (a : Affinity) {m : BitVec 64} (hm : levelMask &&& m = levelMask) :
    a.toRoute &&& m = a.toRoute := by
  have hlevels : a.toRoute &&& levelMask = a.toRoute := by
    rw [← toRoute_ofRoute, ofRoute_toRoute]
  rw [← hlevels, BitVec.and_assoc, hm]

/-- Routes are read alike if they have the same levels. -/
lemma ofRoute_eq_iff {v w : BitVec 64} :
    ofRoute v = ofRoute w ↔ v &&& levelMask = w &&& levelMask := by
  rw [← toRoute_ofRoute, ← toRoute_ofRoute]
  refine ⟨congrArg toRoute, fun h => ?_⟩
  rw [← ofRoute_toRoute (ofRoute v), h, ofRoute_toRoute]

/-- A mask that spares the levels. -/
lemma ofRoute_and (v : BitVec 64) {m : BitVec 64} (hm : m &&& levelMask = levelMask) :
    ofRoute (v &&& m) = ofRoute v := by
  rw [ofRoute_eq_iff, BitVec.and_assoc, hm]

/-- The levels stand in a route where they stand in the register of a core. -/
lemma ofRoute_eq_ofCoreRegister (v : BitVec 64) : ofRoute v = ofCoreRegister v := rfl

/-- The hardware reads a route as it reads the register of the core that it was made for. -/
lemma ofCoreRegister_toRoute (a : Affinity) : ofCoreRegister (a.toRoute &&& State.routeMask) = a :=
  (ofRoute_and _ (by decide)).trans (ofRoute_toRoute a)

/-- So the hardware packs it to the levels of that core. -/
lemma packAffinity_toRoute (a : Affinity) : packAffinity (a.toRoute &&& State.routeMask) = a.word := by
  rw [← word_ofCoreRegister, ofCoreRegister_toRoute]

/-- A route to one core is not the route to any. -/
lemma toRoute_one (a : Affinity) : (a.toRoute &&& State.routeMask).getLsbD 31 = false := by
  rw [BitVec.getLsbD_and, getLsbD_toRoute]
  simp

end InterruptControl.Affinity
