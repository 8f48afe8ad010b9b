import InterruptControl.Proofs.Redistributor
import InterruptControl.Proofs.Registers.BitField
import InterruptControl.Proofs.Targets.ClusterList

/-!
SGIs of a routed controller, from the call to the cores that they reach.

The request holds the list of cores in fields of its own, which the hardware takes apart again and
compares with the affinity of every core. It finds the members of the list.
-/

namespace InterruptControl

open Bus Hardware Program

/-! ### The cluster of a core -/

namespace Affinity

/-- The cluster is what is left without the lowest level. -/
lemma ofPacked_and_not (v : BitVec 32) :
    ofPacked (v &&& ~~~0xff) = { ofPacked v with aff0 := 0 } := by
  have hmask (i : Nat) : (~~~(0xff : BitVec 32)).getLsbD i = (decide (i < 32) && decide (8 ≤ i)) := by
    have hff : (0xff : BitVec 32) = (BitVec.allOnes 8).setWidth 32 := by decide
    rw [BitVec.getLsbD_not, hff, BitVec.getLsbD_setWidth, BitVec.getLsbD_allOnes]
    by_cases h : i < 8
    · simp [h, Nat.not_le.mpr h]
    · simp [h, Nat.le_of_not_lt h]
  have hbyte (n : Nat) (hn : 8 ≤ n) :
      ((v &&& ~~~0xff) >>> n).setWidth 8 = (v >>> n).setWidth 8 := by
    refine BitVec.eq_of_getLsbD_eq fun i hi => ?_
    simp only [BitVec.getLsbD_setWidth, BitVec.getLsbD_ushiftRight, BitVec.getLsbD_and, hmask]
    rcases Nat.lt_or_ge (n + i) 32 with h | h
    · simp [h, show 8 ≤ n + i by omega]
    · simp [BitVec.getLsbD_of_ge v _ h]
  have hlow : (v &&& ~~~0xff).setWidth 8 = 0#8 := by
    refine BitVec.eq_of_getLsbD_eq fun i hi => ?_
    rw [BitVec.getLsbD_setWidth, BitVec.getLsbD_and, hmask]
    simp [Nat.not_le.mpr hi]
  simp only [ofPacked, hbyte 8 le_rfl, hbyte 16 (by decide), hbyte 24 (by decide), hlow]
  rfl

/-- What the hardware compares with the bits of a list is the lowest level of a core. -/
lemma toNat_packAffinity_and (v : BitVec 64) :
    (packAffinity v &&& 0xff).toNat = (ofCoreRegister v).aff0.toNat := by
  rw [← ofPacked_packAffinity, ofPacked, BitVec.toNat_and, BitVec.toNat_setWidth]
  exact Nat.and_two_pow_sub_one_eq_mod _ 8

/-- And with its cluster, the other three. -/
lemma packAffinity_and_not_eq_iff (v : BitVec 64) (a1 a2 a3 : BitVec 8) :
    packAffinity v &&& ~~~0xff = (mk 0 a1 a2 a3).packed ↔ (ofCoreRegister v).aff1 = a1
      ∧ (ofCoreRegister v).aff2 = a2 ∧ (ofCoreRegister v).aff3 = a3 := by
  have hinjective : Function.Injective ofPacked := fun _ _ => ofPacked_injective
  rw [← hinjective.eq_iff, ofPacked_and_not, ofPacked_packed, ofPacked_packAffinity]
  simp

end Affinity

/-! ### What an SGI changes -/

namespace Hardware

/-- A core that an SGI has reached. -/
def Core.signalled (sgi sender : Nat) (c : Core) : Core :=
  if h : sgi < 96 then
    let q := c.own[sgi]
    { c with own := c.own.set sgi { q with pending := true, source := BitVec.ofNat 32 sender } h }
  else c

namespace State

variable {s : State} {c : Core}

/-- An SGI of the current core has reached the cores that `p` picks. -/
def signalled (s : State) (sgi : Nat) (p : Nat → Core → Bool) : State :=
  { s with cores := s.cores.mapIdx fun cpu c => if p cpu c then c.signalled sgi s.current else c }

/-- Each of the cores is changed once. -/
lemma sendTo_eq (s : State) (sgi : Nat) {cores : List Nat} (h : cores.Nodup) : s.sendTo sgi cores
    = s.signalled sgi fun cpu _ => decide (cpu ∈ cores) := by
  have hfold : ∀ (cores : List Nat), cores.Nodup → ∀ t : State,
      cores.foldl (fun t cpu => t.receiveSgi cpu sgi s.current) t
        = { t with cores := t.cores.mapIdx fun cpu c =>
              if cpu ∈ cores then c.signalled sgi s.current else c } := by
    intro cores
    induction cores with
    | nil =>
      intro _ t
      have hcores : (t.cores.mapIdx fun _ c => c) = t.cores := Array.ext_getElem? (by simp)
      simp only [List.foldl_nil, List.not_mem_nil, if_false, hcores]
    | cons cpu rest ih =>
      intro hnodup t
      obtain ⟨hnew, hrest⟩ := List.nodup_cons.mp hnodup
      have hone : t.receiveSgi cpu sgi s.current
          = { t with cores := t.cores.modify cpu (Core.signalled sgi s.current) } := rfl
      rw [List.foldl_cons, ih hrest, hone]
      simp only
      congr 1
      refine Array.ext_getElem? fun i => ?_
      rw [Array.getElem?_mapIdx, Array.getElem?_mapIdx, Array.getElem?_modify]
      rcases eq_or_ne i cpu with rfl | hi
      · simp [hnew, Function.comp_def]
      · simp [hi, hi.symm]
  rw [sendTo, hfold cores h, signalled]
  simp only [decide_eq_true_eq]

lemma signalled_congr {sgi : Nat} {p p' : Nat → Core → Bool}
    (h : ∀ cpu c, s.cores[cpu]? = some c → p cpu c = p' cpu c) :
    s.signalled sgi p = s.signalled sgi p' := by
  rw [signalled, signalled]
  congr 1
  refine Array.ext_getElem? fun i => ?_
  rw [Array.getElem?_mapIdx, Array.getElem?_mapIdx]
  rcases hc : s.cores[i]? with _ | c
  · rfl
  · simp only [Option.map_some, h i c hc]

/-- The SGI goes to all cores with a property. -/
lemma sendTo_filter (sgi : Nat) (p : Nat → Core → Bool) : s.sendTo sgi
    ((List.range s.cores.size).filter fun cpu => s.cores[cpu]?.any (p cpu)) = s.signalled sgi p := by
  rw [sendTo_eq s sgi (List.nodup_range.filter _)]
  refine signalled_congr fun cpu c hc => ?_
  have hlt := (Array.getElem?_eq_some_iff.mp hc).1
  simp only [List.mem_filter, List.mem_range, hlt, hc, Option.any_some, true_and, Bool.decide_eq_true]

end State

end Hardware

/-! ### The request -/

namespace Routed.CpuInterface

open SoftwareInterrupt

variable {s : State} {c : Core} {l : ClusterList} {n : Nat}

/-- The request for an SGI to a list. -/
def listWord (n : Nat) (l : ClusterList) : BitVec 64 :=
  SoftwareInterrupt.id.val (BitVec.ofNat 64 n) ||| targetWord l

section Fields

variable (hn : n < 16) (hl : l.range.toNat < 16)
include hn hl

/-- Every part of the request is found in its field. -/
lemma get_listWord : SoftwareInterrupt.id.get (listWord n l) = BitVec.ofNat 64 n
    ∧ aff1.get (listWord n l) = l.aff1.setWidth 64 ∧ aff2.get (listWord n l) = l.aff2.setWidth 64
    ∧ aff3.get (listWord n l) = l.aff3.setWidth 64
    ∧ SoftwareInterrupt.range.get (listWord n l) = l.range.setWidth 64
    ∧ targets.get (listWord n l) = l.bitmap.setWidth 64
    ∧ SoftwareInterrupt.allOther.get (listWord n l) = 0 := by
  have hid : SoftwareInterrupt.id.get (SoftwareInterrupt.id.val (BitVec.ofNat 64 n)) = BitVec.ofNat 64 n := by
    refine BitField.get_val _ _ ?_
    rw [BitVec.toNat_ofNat]
    exact (Nat.mod_le ..).trans_lt hn
  have hrange : SoftwareInterrupt.range.get (SoftwareInterrupt.range.val (l.range.setWidth 64))
      = l.range.setWidth 64 := by
    refine BitField.get_val _ _ ?_
    rw [BitVec.toNat_setWidth_of_le (by decide)]
    exact hl
  simp only [listWord, targetWord, BitField.get_or, hid, hrange]
  simp (disch := decide) [BitField.get_val_of_apart, BitField.get_val_setWidth]

/-- The hardware compares the clusters by the packed affinity. -/
lemma cluster_listWord : ((((listWord n l) >>> 48).setWidth 8).setWidth 32 <<< 24)
      ||| (((listWord n l >>> 32).setWidth 8).setWidth 32 <<< 16)
      ||| (((listWord n l >>> 16).setWidth 8).setWidth 32 <<< 8)
    = (Affinity.mk 0 l.aff1 l.aff2 l.aff3).packed := by
  obtain ⟨-, h1, h2, h3, -⟩ := get_listWord hn hl
  have hbyte {f : BitField 64} {x : BitVec 8} (hwidth : 8 ≤ f.width)
      (hf : f.get (listWord n l) = x.setWidth 64) : (listWord n l >>> f.offset).setWidth 8 = x := by
    rw [f.setWidth_shiftRight _ hwidth, hf]
    exact BitVec.setWidth_setWidth_of_le x (by decide)
  have hbytes := And.intro (hbyte (by decide) h1) (And.intro (hbyte (by decide) h2) (hbyte (by decide) h3))
  simp only [aff1, aff2, aff3, BitField.of] at hbytes
  rw [hbytes.1, hbytes.2.1, hbytes.2.2, Affinity.packed]
  exact BitVec.or_zero.symm

/-- The hardware finds the members of the list. -/
lemma sgiTargets_listWord (s : State) : s.sgiTargets (listWord n l)
    = (List.range s.cores.size).filter fun cpu =>
        s.cores[cpu]?.any fun c => l.contains (.ofCoreRegister c.affinityRegister) := by
  obtain ⟨-, -, -, -, hrange, htargets, hother⟩ := get_listWord hn hl
  have hlisted : (listWord n l).getLsbD 40 = false := by
    have := congrArg (·.getLsbD 0) hother
    rw [BitField.getLsbD_get] at this
    exact this
  have hblock : ((listWord n l >>> 44) &&& 0xf).toNat = l.range.toNat := by
    have h := SoftwareInterrupt.range.shiftRight_and (listWord n l) 0xf (by decide)
    rw [hrange] at h
    exact (congrArg BitVec.toNat h).trans (BitVec.toNat_setWidth_of_le (by decide))
  have hmembers : listWord n l &&& 0xffff = l.bitmap.setWidth 64 := by
    have h := targets.shiftRight_and (listWord n l) 0xffff (by decide)
    rw [htargets] at h
    exact h
  rw [State.sgiTargets, hlisted, if_neg Bool.false_ne_true]
  refine List.filter_congr fun cpu _ => ?_
  rcases s.cores[cpu]? with _ | c
  · rfl
  · rw [Option.any_some, Bool.eq_iff_iff, ClusterList.contains]
    simp only [cluster_listWord hn hl, hblock, hmembers, Affinity.toNat_packAffinity_and,
      Bool.and_eq_true, beq_iff_eq, Affinity.packAffinity_and_not_eq_iff, ClusterList.covers_iff,
      and_assoc, ClusterList.blockSize]
    generalize (Affinity.ofCoreRegister c.affinityRegister).aff0 = level
    have hbit : (l.bitmap.setWidth 64).getLsbD (level.toNat % 16) = l.bitmap.getLsbD (level.toNat % 16) := by
      have hlt : level.toNat % 16 < 64 := (Nat.mod_lt _ (by decide)).trans (by decide)
      rw [BitVec.getLsbD_setWidth, decide_eq_true hlt, Bool.true_and]
    rw [hbit]

end Fields

/-! ### The call -/

section Call

variable {id : IntId} (hc : s.cores[s.current]? = some c) (hid : id.isSgi = true)
include hc hid

/-- The request of the current core makes the SGI pending on the cores that the hardware finds. -/
lemma run_sendSgi_of_word {dest : Destination ClusterList} {w : BitVec 64}
    (hdest : (destinationWord dest).run Board.answer (.controller s) = (.ok w, .controller s))
    (hw : ((SoftwareInterrupt.id.val (BitVec.ofNat 64 id.number) ||| w) >>> 24 &&& 0xf).toNat = id.number)
    {p : Nat → Core → Bool}
    (htargets : s.sgiTargets (SoftwareInterrupt.id.val (BitVec.ofNat 64 id.number) ||| w)
      = (List.range s.cores.size).filter fun cpu => s.cores[cpu]?.any (p cpu)) :
    (sendSgi id dest).run Board.answer (.controller s)
      = (.ok (), .controller (s.signalled id.number p)) := by
  have hraw : id.raw.setWidth 64 = BitVec.ofNat 64 id.number := by
    refine BitVec.eq_of_toNat_eq ?_
    rw [BitVec.toNat_setWidth, BitVec.toNat_ofNat]
    rfl
  have hwrite : Board.answer (.controller s) (.writeSystem .softwareInterrupt1
      (SoftwareInterrupt.id.val (id.raw.setWidth 64) ||| w))
        = (.ok (), .controller (s.signalled id.number p)) := by
    rw [Board.answer_writeSystem, State.writeSystem, hc, hraw]
    simp only [hw, htargets, State.sendTo_filter]
  rw [sendSgi, run_require_bind, if_pos hid]
  refine (run_bind_ok hdest).trans ?_
  exact run_bind_ok ((run_writeSystem ..).trans hwrite)

lemma run_sendSgi_of_list {dest : Destination ClusterList} {l : ClusterList}
    (hdest : (destinationWord dest).run Board.answer (.controller s) = (.ok (targetWord l), .controller s))
    (hl : l.range.toNat < 16) : (sendSgi id dest).run Board.answer (.controller s)
      = (.ok (), .controller (s.signalled id.number fun _ d =>
          l.contains (.ofCoreRegister d.affinityRegister))) := by
  have hn : id.number < 16 := id.isSgi_iff.mp hid
  have hnumber := congrArg BitVec.toNat (SoftwareInterrupt.id.shiftRight_and
    (listWord id.number l) 0xf (by decide))
  rw [(get_listWord hn hl).1, BitVec.toNat_ofNat, Nat.mod_eq_of_lt (hn.trans (by decide))] at hnumber
  exact run_sendSgi_of_word hc hid hdest hnumber (sgiTargets_listWord hn hl s)

lemma run_sendSgi_listed {a : Affinity} {rest : List Affinity} {l : ClusterList}
    (hl : ClusterList.ofCores? a rest = some l) : (sendSgi id (.listed l)).run Board.answer (.controller s)
      = (.ok (), .controller (s.signalled id.number fun _ d =>
          decide (.ofCoreRegister d.affinityRegister ∈ a :: rest))) := by
  have hrange := ClusterList.range_lt (ClusterList.covers_of_ofCores? hl)
  rw [run_sendSgi_of_list hc hid (run_pure ..) hrange]
  simp only [← ClusterList.contains_of_ofCores? hl, Bool.decide_eq_true]

/-- The sender makes a list of itself. -/
lemma run_sendSgi_current : (sendSgi id .current).run Board.answer (.controller s)
    = (.ok (), .controller (s.signalled id.number fun _ d =>
        decide (Affinity.ofCoreRegister d.affinityRegister = .ofCoreRegister c.affinityRegister))) := by
  have hsome : (ClusterList.ofCores? (.ofCoreRegister c.affinityRegister) []).isSome = true := by
    refine ClusterList.isSome_ofCores?.mpr fun b hb b' hb' => ?_
    rw [List.mem_singleton.mp hb, List.mem_singleton.mp hb']
    exact ⟨rfl, rfl, rfl, rfl⟩
  obtain ⟨l, hl⟩ := Option.isSome_iff_exists.mp hsome
  have hone : (ClusterList.around (.ofCoreRegister c.affinityRegister)).add? (.ofCoreRegister c.affinityRegister)
      = some l := by
    rw [← hl, ClusterList.ofCores?, ClusterList.addAll?, List.foldlM_cons]
    simp
  have hdest : (destinationWord .current).run Board.answer (.controller s)
      = (.ok (targetWord l), .controller s) := by
    refine (run_bind_ok (Affinity.run_current hc)).trans ?_
    rw [hone]
    rfl
  have hrange := ClusterList.range_lt (ClusterList.covers_of_ofCores? hl)
  rw [run_sendSgi_of_list hc hid hdest hrange]
  have hself (b : Affinity) : l.contains b = decide (b = .ofCoreRegister c.affinityRegister) := by
    rw [Bool.eq_iff_iff, ClusterList.contains_of_ofCores? hl, List.mem_singleton, decide_eq_true_iff]
  simp only [hself]

lemma run_sendSgi_allOther : (sendSgi id .allOther).run Board.answer (.controller s)
    = (.ok (), .controller (s.signalled id.number fun cpu _ => decide (cpu ≠ s.current))) := by
  have hother : ∀ n < 16, let v := SoftwareInterrupt.id.val (BitVec.ofNat 64 n) ||| SoftwareInterrupt.allOther.mask
      (v >>> 24 &&& 0xf).toNat = n ∧ v.getLsbD 40 = true := by decide
  obtain ⟨hnumber, hall⟩ := hother id.number (id.isSgi_iff.mp hid)
  refine run_sendSgi_of_word hc hid (run_pure ..) hnumber ?_
  rw [State.sgiTargets, hall, if_pos rfl]
  refine List.filter_congr fun cpu hcpu => ?_
  have hcore := Array.getElem?_eq_getElem (List.mem_range.mp hcpu)
  rw [hcore, Option.any_some]

end Call

/-- SGIs reach exactly the addressed cores. A list can be made of cores, and added to, if they
all agree on cluster and block; neither their order nor repetition counts. Whatever the affinities
of the cores, the SGI then is pending on those with an affinity of the list, for the sender on
those with its own affinity, and for the others on all but the sender. -/
theorem sgi_reaches_addressed {s : State} {c : Core} (hc : s.cores[s.current]? = some c) {id : IntId}
    (hid : id.isSgi = true) :
    (∀ (a : Affinity) (rest : List Affinity),
      ((ClusterList.ofCores? a rest).isSome = true ↔
        ∀ b ∈ a :: rest, ∀ b' ∈ a :: rest, b.SameBlock b')
      ∧ (∀ more, (ClusterList.ofCores? a rest).bind (·.addAll? more)
          = ClusterList.ofCores? a (rest ++ more))
      ∧ (∀ a' rest', (∀ b, b ∈ a' :: rest' ↔ b ∈ a :: rest) →
          ClusterList.ofCores? a' rest' = ClusterList.ofCores? a rest)
      ∧ ∀ l, ClusterList.ofCores? a rest = some l →
          (sendSgi id (.listed l)).run Board.answer (.controller s)
            = (.ok (), .controller (s.signalled id.number fun _ d =>
                decide (.ofCoreRegister d.affinityRegister ∈ a :: rest))))
    ∧ (sendSgi id .current).run Board.answer (.controller s)
        = (.ok (), .controller (s.signalled id.number fun _ d =>
            decide (Affinity.ofCoreRegister d.affinityRegister = .ofCoreRegister c.affinityRegister)))
    ∧ (sendSgi id .allOther).run Board.answer (.controller s)
        = (.ok (), .controller (s.signalled id.number fun cpu _ => decide (cpu ≠ s.current))) := by
  refine ⟨fun a rest => ⟨?_, ?_, ?_, ?_⟩, ?_, ?_⟩
  · exact ClusterList.isSome_ofCores?
  · exact fun more => ClusterList.ofCores?_bind_addAll? a rest more
  · exact fun a' rest' h => ClusterList.ofCores?_congr h
  · exact fun l hl => run_sendSgi_listed hc hid hl
  · exact run_sendSgi_current hc hid
  · exact run_sendSgi_allOther hc hid

/-- Four cores, of which two share a block. -/
def scattered : State :=
  { State.reset .routed with
    cores := #[.ofRegister 0x80020113, .ofRegister 0x8002011f, .ofRegister 0x80020105,
      .ofRegister 0x180020113]
    current := 1 }

theorem sgi_reaches_addressed_scattered :
    scattered.cores[scattered.current]? = some (.ofRegister 0x8002011f)
    ∧ (IntId.ofNat 5).isSgi = true
    ∧ ClusterList.ofCores? ⟨0x13, 1, 2, 0⟩ [⟨0x1f, 1, 2, 0⟩, ⟨0x13, 1, 2, 0⟩] = some ⟨1, 2, 0, 0x8008, 1⟩
    ∧ ∃ t, (sendSgi (.ofNat 5) (.listed ⟨1, 2, 0, 0x8008, 1⟩)).run Board.answer (.controller scattered)
        = (.ok (), .controller t)
      ∧ t.cores.toList.map (fun d => (d.own[5].pending, d.own[5].source))
          = [(true, 1), (true, 1), (false, 0), (false, 0)] := by
  have hl : ClusterList.ofCores? ⟨0x13, 1, 2, 0⟩ [⟨0x1f, 1, 2, 0⟩, ⟨0x13, 1, 2, 0⟩]
      = some ⟨1, 2, 0, 0x8008, 1⟩ := by decide
  have hid : (IntId.ofNat 5).isSgi = true := by decide
  have hc : scattered.cores[scattered.current]? = some (.ofRegister 0x8002011f) := rfl
  have h := sgi_reaches_addressed hc hid
  exact ⟨hc, hid, hl, _, (h.1 _ _).2.2.2 _ hl, by rfl⟩

/-! ### Lists made from a bitmap -/

/-- The field for the range has four bits. -/
lemma targetWord_folded (l : ClusterList) : targetWord l.folded = targetWord l := by
  have hrange : SoftwareInterrupt.range.val ((l.range &&& 0xf).setWidth 64)
      = SoftwareInterrupt.range.val (l.range.setWidth 64) := by
    refine BitField.val_congr _ _ fun i (hi : i < 4) => ?_
    have hmask : (0xf : BitVec 8).getLsbD i = true := by interval_cases i <;> rfl
    rw [BitVec.getLsbD_setWidth, BitVec.getLsbD_setWidth, BitVec.getLsbD_and, hmask, Bool.and_true]
  rw [targetWord, targetWord, ClusterList.folded, hrange]

/-- Any list goes through, with what fits of its range. -/
lemma run_sendSgi_bitmap (hc : s.cores[s.current]? = some c) {id : IntId} (hid : id.isSgi = true)
    (l : ClusterList) : (sendSgi id (.listed l)).run Board.answer (.controller s)
      = (.ok (), .controller (s.signalled id.number fun _ d =>
          l.folded.contains (.ofCoreRegister d.affinityRegister))) := by
  have hdest : (destinationWord (.listed l)).run Board.answer (.controller s)
      = (.ok (targetWord l.folded), .controller s) := by
    rw [targetWord_folded]
    rfl
  have hrange : l.folded.range.toNat < 16 :=
    (ClusterList.toNat_range_folded l).trans_lt (Nat.mod_lt _ (by decide))
  exact run_sendSgi_of_list hc hid hdest hrange

/-- **An SGI to a list reaches the members of the list, as long as its range is that of a core.** The
members are the cores of the cluster and the block that the list is about whose bit is set, and these
are the cores that can be added to it to no effect. Whatever the affinities of the cores, the SGI is
pending on those that are members once the range is cut to four bits, which is the list itself for the
ranges below 16. A list with a greater range has no members at all, but may still reach cores. -/
theorem sgi_to_bitmap_reaches_folded {s : State} {c : Core} (hc : s.cores[s.current]? = some c) (id : IntId)
    (l : ClusterList) :
    (id.isSgi = false → (sendSgi id (.listed l)).run Board.answer (.controller s)
        = (.error .assertion, .controller s))
      ∧ (id.isSgi = true → (sendSgi id (.listed l)).run Board.answer (.controller s)
        = (.ok (), .controller (s.signalled id.number fun _ d =>
            l.folded.contains (.ofCoreRegister d.affinityRegister))))
      ∧ (l.range.toNat < 16 → l.folded = l)
      ∧ (16 ≤ l.range.toNat → ∀ a, l.contains a = false)
      ∧ ∀ a, (l.contains a = true ↔ a.aff1 = l.aff1 ∧ a.aff2 = l.aff2 ∧ a.aff3 = l.aff3
          ∧ a.aff0.toNat / 16 = l.range.toNat ∧ l.bitmap.getLsbD (a.aff0.toNat % 16) = true)
        ∧ (l.contains a = true ↔ l.add? a = some l) := by
  refine ⟨fun hid => ?_, fun hid => run_sendSgi_bitmap hc hid l, ClusterList.folded_eq_self,
    ClusterList.contains_of_le_range, fun a => ⟨ClusterList.contains_iff, ClusterList.contains_iff_add?⟩⟩
  rw [sendSgi, run_require_bind, hid, if_neg Bool.false_ne_true]

/-- The list is about the block of two of the cores, and names one of them. -/
theorem sgi_to_bitmap_reaches_folded_scattered :
    scattered.cores[scattered.current]? = some (.ofRegister 0x8002011f)
    ∧ ∃ t, (sendSgi (.ofNat 5) (.listed ⟨1, 2, 0, 0x8, 1⟩)).run Board.answer (.controller scattered)
        = (.ok (), .controller t)
      ∧ t.cores.toList.map (fun d => d.own[5].pending) = [true, false, false, false] := by
  have hc : scattered.cores[scattered.current]? = some (.ofRegister 0x8002011f) := rfl
  exact ⟨hc, _, (sgi_to_bitmap_reaches_folded hc _ _).2.1 (by decide), by rfl⟩

/-- Range 16 is that of no core, but the request holds range 0, in which there is core 1. -/
theorem sgi_to_bitmap_reaches_outside :
    (∀ a, (ClusterList.mk 0 0 0 2 16).contains a = false)
    ∧ ∃ t, (sendSgi (.ofNat 5) (.listed ⟨0, 0, 0, 2, 16⟩)).run Board.answer
          (.controller (.reset .routed)) = (.ok (), .controller t)
      ∧ t.cores.toList.map (fun d => d.own[5].pending) = [false, true, false, false] := by
  have hc : (State.reset .routed).cores[0]? = some (.ofRegister (Options.routed.affinityRegister 0)) := by
    decide +kernel
  exact ⟨ClusterList.contains_of_le_range (by decide), _, run_sendSgi_bitmap hc (by decide) _,
    by decide +kernel⟩

end Routed.CpuInterface

end InterruptControl
