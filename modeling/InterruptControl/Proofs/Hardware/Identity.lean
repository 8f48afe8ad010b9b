import InterruptControl.Proofs.Bus.Bank
import InterruptControl.Proofs.Registers.BitField

/-!
What the software learns of the hardware from the registers that identify it, and that it
is right if everything that is built in fits the fields that report it.
-/

namespace InterruptControl

open Hardware Bus Program

/-- Everything that is built in fits the field that reports it; the number of a core stays
clear of the fields above it. -/
structure Hardware.Options.Fits (o : Options) : Prop where
  lines : o.lines < 32
  extendedSpiRange : o.extendedSpiRange < 32
  ppiNumber : o.ppiNumber < 32
  cpus : o.cpus ≤ 0x80000

namespace Hardware.Options

/-- A GICv3 with all kinds of interrupts. -/
def manifold : Options :=
  { routed with
    lines := 1
    extendedSpi := true
    ppiNumber := 1
    lpis := true }

lemma fits_manifold : manifold.Fits := ⟨by decide, by decide, by decide, by decide⟩

variable {o : Options}

lemma Fits.sharedLimit (h : o.Fits) : o.sharedLimit = min ((o.lines + 1) * 32) 1020 := by
  have := h.lines
  rw [Options.sharedLimit, Nat.mod_eq_of_lt (by omega)]

lemma Fits.extendedCount (h : o.Fits) : o.extendedCount =
    if o.isRouted && o.extendedSpi then (o.extendedSpiRange + 1) * 32 else 0 := by
  have := h.extendedSpiRange
  rw [Options.extendedCount, Nat.mod_eq_of_lt (by omega)]

/-! ### The distributor -/

/-- The part of the word that both generations have. -/
def commonWord (o : Options) : BitVec 32 :=
  (BitVec.ofNat 32 o.lines &&& 0x1f) ||| BitVec.ofNat 32 (min o.cpus 8 - 1) <<< 5

/-- The part about extended SPIs. -/
def extendedWord (o : Options) : BitVec 32 :=
  if o.isRouted && o.extendedSpi then 0x100#32 ||| BitVec.ofNat 32 o.extendedSpiRange <<< 27
  else 0#32

/-- What else the word may say, about security and LPIs. -/
def otherWords : List (BitVec 32) := [0, 0xa20000, 0x7a0400, 0x7a0000, 0x480400, 0x480000]

lemma exists_typeWord (o : Options) :
    ∃ v ∈ otherWords, o.typeWord = o.commonWord ||| o.extendedWord ||| v := by
  unfold typeWord extendedWord
  rcases hr : o.isRouted with _ | _
  · exact ⟨0, by decide, by simp [commonWord]⟩
  · rcases o.singleSecurity with _ | _ <;> rcases o.lpis with _ | _ <;>
      simp [commonWord, otherWords, BitVec.or_assoc]

/-- A field that the other words leave alone. -/
lemma get_typeWord {f : BitField 32} (hf : otherWords.all (f.get · == 0) = true) :
    f.get o.typeWord = f.get o.commonWord ||| f.get o.extendedWord := by
  obtain ⟨v, hv, he⟩ := exists_typeWord o
  rw [he, BitField.get_or, BitField.get_or, eq_of_beq (List.all_eq_true.mp hf v hv)]
  exact BitVec.or_zero

lemma get_extendedWord (f : BitField 32) : f.get o.extendedWord =
    if o.isRouted && o.extendedSpi then
      f.get 0x100#32 ||| f.get (BitVec.ofNat 32 o.extendedSpiRange <<< 27)
    else f.get 0#32 := by
  rw [extendedWord, apply_ite f.get, BitField.get_or]

section Typed

open Routed.DistributorType

variable (h : o.Fits)
include h

lemma get_commonWord (f : BitField 32) : f.get o.commonWord = f.get (BitVec.ofNat 32 o.lines <<< 0)
    ||| f.get (BitVec.ofNat 32 (min o.cpus 8 - 1) <<< 5) := by
  rw [commonWord, BitField.ofNat_and_mask (k := 5) h.lines _ rfl, BitField.get_or,
    BitVec.shiftLeft_zero]

/-- A field past the common part. -/
lemma get_commonWord_above {f : BitField 32} (hf : 8 ≤ f.offset) : f.get o.commonWord = 0 := by
  rw [get_commonWord h, f.get_ofNat_below (k := 5) h.lines (by omega),
    f.get_ofNat_below (k := 3) (by omega) (by omega)]
  exact BitVec.or_zero

lemma get_linesNumber : linesNumber.get o.typeWord = BitVec.ofNat 32 o.lines := by
  have hlines : linesNumber.get (BitVec.ofNat 32 o.lines <<< 0) = BitVec.ofNat 32 o.lines :=
    linesNumber.get_ofNat_shiftLeft h.lines
  have hrange := linesNumber.get_shiftLeft_above (BitVec.ofNat 32 o.extendedSpiRange) (k := 27)
    (by decide)
  rw [get_typeWord (by decide), get_commonWord h, hlines, get_extendedWord, hrange,
    linesNumber.get_shiftLeft_above _ (by decide), show linesNumber.get 0x100#32 = 0 by decide,
    show linesNumber.get 0#32 = 0 by decide]
  simp

lemma get_cpuNumber : cpuNumber.get o.typeWord = BitVec.ofNat 32 (min o.cpus 8 - 1) := by
  have hcpus : cpuNumber.get (BitVec.ofNat 32 (min o.cpus 8 - 1) <<< 5)
      = BitVec.ofNat 32 (min o.cpus 8 - 1) :=
    cpuNumber.get_ofNat_shiftLeft (show min o.cpus 8 - 1 < 2 ^ 3 by omega)
  have hrange := cpuNumber.get_shiftLeft_above (BitVec.ofNat 32 o.extendedSpiRange) (k := 27)
    (by decide)
  rw [get_typeWord (by decide), get_commonWord h, hcpus, get_extendedWord, hrange,
    cpuNumber.get_ofNat_below (k := 5) h.lines (by decide),
    show cpuNumber.get 0x100#32 = 0 by decide, show cpuNumber.get 0#32 = 0 by decide]
  simp

lemma isSet_extendedSpi : Routed.DistributorType.extendedSpi.isSet o.typeWord
    = (o.isRouted && o.extendedSpi) := by
  have hrange := Routed.DistributorType.extendedSpi.get_shiftLeft_above
    (BitVec.ofNat 32 o.extendedSpiRange) (k := 27) (by decide)
  rw [BitField.isSet_eq_getLsbD_get _ _ rfl, get_typeWord (by decide),
    get_commonWord_above h (by decide), get_extendedWord, hrange,
    show Routed.DistributorType.extendedSpi.get 0x100#32 = 1 by decide,
    show Routed.DistributorType.extendedSpi.get 0#32 = 0 by decide]
  split <;> simp_all

lemma get_extendedSpiRange (he : (o.isRouted && o.extendedSpi) = true) :
    Routed.DistributorType.extendedSpiRange.get o.typeWord
      = BitVec.ofNat 32 o.extendedSpiRange := by
  have hrange : Routed.DistributorType.extendedSpiRange.get
      (BitVec.ofNat 32 o.extendedSpiRange <<< 27) = BitVec.ofNat 32 o.extendedSpiRange :=
    BitField.get_ofNat_shiftLeft _ h.extendedSpiRange
  rw [get_typeWord (by decide), get_commonWord_above h (by decide), get_extendedWord, if_pos he,
    hrange, show Routed.DistributorType.extendedSpiRange.get 0x100#32 = 0 by decide]
  simp

/-- The software counts the lines and the extended SPIs right. -/
lemma linesOf_typeWord : Routed.Distributor.linesOf o.typeWord = o.sharedLimit := by
  have := h.lines
  rw [Routed.Distributor.linesOf, get_linesNumber h, h.sharedLimit, BitVec.toNat_ofNat,
    Nat.mod_eq_of_lt (by omega)]
  rfl

lemma extendedSpiCountOf_typeWord :
    Routed.Distributor.extendedSpiCountOf o.typeWord = o.extendedCount := by
  have := h.extendedSpiRange
  rw [Routed.Distributor.extendedSpiCountOf, isSet_extendedSpi h, h.extendedCount]
  split
  next he =>
    rw [get_extendedSpiRange h he, BitVec.toNat_ofNat, Nat.mod_eq_of_lt (by omega)]
  next => rfl

end Typed

/-- The interrupts that the distributor of a routed controller takes for its own, of the extended
ones those that are reported. -/
def reports (o : Options) (id : IntId) : Bool :=
  id.isSpi || (id.isExtendedSpi &&
    decide (id.number - 4096 < Routed.Distributor.extendedSpiCountOf o.typeWord))

lemma Fits.reports (h : o.Fits) (id : IntId) : o.reports id =
    (id.isSpi || (id.isExtendedSpi && decide (id.number - 4096 < o.extendedCount))) := by
  rw [Options.reports, extendedSpiCountOf_typeWord h]

/-- The distributor tells nothing of private interrupts, and of at most eight cores. -/
lemma reports_of_lt (hlines : o.lines < 32) (hrange : o.extendedSpiRange < 32) (id : IntId) :
    o.reports id =
      (id.isSpi || (id.isExtendedSpi && decide (id.number - 4096 < o.extendedCount))) := by
  obtain ⟨o', ho'⟩ : ∃ o' : Options, o' = { o with ppiNumber := 0, cpus := min o.cpus 8 } := ⟨_, rfl⟩
  have hfit : o'.Fits := ho' ▸ ⟨hlines, hrange, Nat.zero_lt_succ _, (Nat.min_le_right ..).trans (by decide)⟩
  have hword : o'.typeWord = o.typeWord := by
    rw [ho', typeWord, typeWord, Nat.min_assoc, Nat.min_self]
    rfl
  have hcount : o'.extendedCount = o.extendedCount := ho' ▸ rfl
  have hreports := hfit.reports id
  rwa [Options.reports, hword, hcount] at hreports

end Hardware.Options

/-! ### The counts of a distributor -/

section Counts

variable {s : State} (hfit : s.options.Fits)

lemma Hardware.State.answer_readType (s : State) :
    Board.answer (.controller s) (.read .word (Region.distributor.base + 0x4))
      = (.ok s.options.typeWord, .controller s) :=
  (Board.answer_read_distributor (o := 0x4) .word rfl (by omega)).trans
    (congrArg (fun v => (Except.ok v, _)) (readDistributorWord_register (by omega)))

/-- The extended SPIs are counted as they are reported. -/
lemma Routed.Distributor.run_reportedSpiCount (s : State) (security : SecurityState) :
    (Distributor.mk Region.distributor.base security).extendedSpiCount.run Board.answer (.controller s)
      = (.ok (extendedSpiCountOf s.options.typeWord), .controller s) :=
  run_bind_ok ((run_read32 ..).trans (State.answer_readType s))

include hfit

/-- A banked controller tells of at most eight cores. -/
lemma Banked.Distributor.run_cpuCount :
    (Distributor.mk Region.distributor.base).cpuCount.run Board.answer (.controller s)
      = (.ok (min s.options.cpus 8 - 1 + 1), .controller s) := by
  refine (run_bind_ok ((run_read32 ..).trans (State.answer_readType s))).trans ?_
  have hword : DistributorType.cpuNumber.get s.options.typeWord
      = BitVec.ofNat 32 (min s.options.cpus 8 - 1) := Options.get_cpuNumber hfit
  rw [run_pure, hword, BitVec.toNat_ofNat, Nat.mod_eq_of_lt (by omega)]

lemma Routed.Distributor.run_extendedSpiCount (security : SecurityState) :
    (Distributor.mk Region.distributor.base security).extendedSpiCount.run Board.answer (.controller s)
      = (.ok s.options.extendedCount, .controller s) := by
  rw [run_reportedSpiCount, Options.extendedSpiCountOf_typeWord hfit]

end Counts

/-! ### A redistributor -/

namespace Hardware.State

variable {s : State} {cpu : Nat} (c : Core)

section Typed

open Routed.RedistributorType

/-- A field of what a redistributor reports, part by part. -/
lemma get_redistributorType (f : BitField 64) : f.get (s.redistributorType cpu c) =
    f.get (BitVec.ofNat 64 c.redistributorAffinity.toNat <<< 32) ||| f.get (BitVec.ofNat 64 cpu <<< 8)
      ||| f.get ((BitVec.ofNat 64 s.options.ppiNumber &&& 0x1f) <<< 27)
      ||| (if s.options.lpis then f.get 1 else f.get 0)
      ||| (if cpu + 1 = s.cores.size then f.get (1#64 <<< 4) else f.get 0) := by
  simp only [redistributorType, BitField.get_or, apply_ite f.get, BitVec.ofNat_toNat]
  rcases s.options.lpis with _ | _ <;> rfl

lemma ofNat_ppiNumber (h : s.options.Fits) : BitVec.ofNat 64 s.options.ppiNumber &&& 0x1f
    = BitVec.ofNat 64 s.options.ppiNumber := BitField.ofNat_and_mask (k := 5) h.ppiNumber _ rfl

lemma isSet_last :
    last.isSet (s.redistributorType cpu c) = decide (cpu + 1 = s.cores.size) := by
  rw [BitField.isSet_eq_getLsbD_get _ _ rfl, get_redistributorType,
    last.get_shiftLeft_above _ (by decide), last.get_shiftLeft_above _ (by decide),
    last.get_shiftLeft_above _ (by decide), show last.get 1 = 0 by decide,
    show last.get 0 = 0 by decide, show last.get (1#64 <<< 4) = 1 by decide]
  rcases Nat.decEq (cpu + 1) s.cores.size with hl | hl <;> simp [hl]

/-- The number of a core that stays clear of the affinity. -/
lemma get_affinity (hcpu : cpu < 2 ^ 24) : affinity.get (s.redistributorType cpu c)
    = c.redistributorAffinity.setWidth 64 := by
  have haff : affinity.get (BitVec.ofNat 64 c.redistributorAffinity.toNat <<< 32)
      = BitVec.ofNat 64 c.redistributorAffinity.toNat :=
    affinity.get_ofNat_shiftLeft c.redistributorAffinity.isLt
  have hppi : BitVec.ofNat 64 s.options.ppiNumber &&& 0x1f
      = BitVec.ofNat 64 (s.options.ppiNumber % 2 ^ 5) := by
    refine BitVec.eq_of_toNat_eq ?_
    rw [BitVec.toNat_and, BitVec.toNat_ofNat, BitVec.toNat_ofNat]
    exact (Nat.and_two_pow_sub_one_eq_mod _ 5).trans (by omega)
  rw [get_redistributorType, hppi, haff, affinity.get_ofNat_below hcpu (by decide),
    affinity.get_ofNat_below (k := 5) (Nat.mod_lt _ (by decide)) (by decide),
    show affinity.get 1 = 0 by decide, show affinity.get 0 = 0 by decide,
    show affinity.get (1#64 <<< 4) = 0 by decide]
  simp

variable (h : s.options.Fits) (hcpu : cpu < s.options.cpus)
include h hcpu

lemma get_ppiNumber : ppiNumber.get (s.redistributorType cpu c)
    = BitVec.ofNat 64 s.options.ppiNumber := by
  have hlt : cpu < 2 ^ 19 := hcpu.trans_le h.cpus
  have hppi : ppiNumber.get (BitVec.ofNat 64 s.options.ppiNumber <<< 27)
      = BitVec.ofNat 64 s.options.ppiNumber := ppiNumber.get_ofNat_shiftLeft h.ppiNumber
  rw [get_redistributorType, ofNat_ppiNumber h, hppi, ppiNumber.get_shiftLeft_above _ (by decide),
    ppiNumber.get_ofNat_below hlt (by decide), show ppiNumber.get 1 = 0 by decide,
    show ppiNumber.get 0 = 0 by decide, show ppiNumber.get (1#64 <<< 4) = 0 by decide]
  simp

/-- The software learns how many private interrupts there are. -/
lemma privateCount_ofWord (hs : s.isRouted = true) :
    (Routed.RedistributorInfo.ofWord (s.redistributorType cpu c)).privateCount
      = s.options.privateCount := by
  have hlt : s.options.ppiNumber < 2 ^ 64 := h.ppiNumber.trans (by decide)
  have hnumber : (ppiNumber.get (s.redistributorType cpu c)).toNat = s.options.ppiNumber := by
    rw [get_ppiNumber c h hcpu, BitVec.toNat_ofNat, Nat.mod_eq_of_lt hlt]
  have hcount (n : Nat) : n = if s.isRouted = true then n else 32 := (if_pos hs).symm
  refine (hcount _).trans ?_
  exact congrArg (fun n => Options.privateCount { s.options with ppiNumber := n }) hnumber

end Typed

end Hardware.State

end InterruptControl
