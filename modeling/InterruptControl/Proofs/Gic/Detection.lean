import InterruptControl.Gic.Basic
import InterruptControl.Proofs.Bus.Board
import InterruptControl.Proofs.Hardware.Registers
import InterruptControl.Proofs.Registers.BitField

/-!
Which version is detected, whatever was done to the controller before.

Where a banked controller has its revision, a routed one has flags of interrupts 832 to 863: those
that make them non-maskable. Four of them are read as the revision. The version is detected unless
they show the one of a banked controller.
-/

namespace InterruptControl

open Bus Hardware Program

/-- The version that the hardware has. -/
def Hardware.Options.version (o : Options) : Version :=
  match o.generation, o.revision with
  | .banked, 1 => .v1
  | .banked, 2 => .v2
  | .routed, 3 => .v3
  | .routed, 4 => .v4
  | _, _ => .unknown

lemma Hardware.Options.of_version {o : Options} (h : o.version ≠ .unknown) :
    o.isRouted = false ∧ (o.revision = 1 ∧ o.version = .v1 ∨ o.revision = 2 ∧ o.version = .v2)
      ∨ o.isRouted = true ∧ (o.revision = 3 ∧ o.version = .v3 ∨ o.revision = 4 ∧ o.version = .v4) := by
  unfold version at h ⊢
  rw [isRouted]
  split at h <;> simp_all

namespace Hardware.State

variable {s : State}

/-- The interrupt is not maskable. -/
def flagged (s : State) (id : Nat) : Bool := (s.irq? id s.current).any (·.nonMaskable)

/-- A routed controller shows revision 1 or 2 where a banked one has its revision. -/
def Mimics (s : State) : Prop :=
  s.isRouted = true ∧ s.flagged 836 ≠ s.flagged 837 ∧ s.flagged 838 = false ∧ s.flagged 839 = false

instance (s : State) : Decidable s.Mimics := inferInstanceAs (Decidable (_ ∧ _))

/-- The revision as it is read from the register of a banked controller, from its bits 4 to 7. -/
def shownRevision (s : State) : Nat := ((s.readDistributorWord 0xfe8).extractLsb' 4 4).toNat

/-- The software reads it off the same bits. -/
lemma shownRevision_eq (s : State) : s.shownRevision
    = (Routed.DistributorIdentity.architecture.get (s.readDistributorWord 0xfe8)).toNat := by
  rw [shownRevision, BitVec.extractLsb'_toNat, BitField.toNat_get, Nat.shiftRight_eq_div_pow]
  rfl

lemma architecture_revisionWord {o : Options} (h : o.revision < 16) :
    (Routed.DistributorIdentity.architecture.get o.revisionWord).toNat = o.revision := by
  have hget := Routed.DistributorIdentity.architecture.get_ofNat_shiftLeft (n := o.revision) h
  refine (congrArg BitVec.toNat hget).trans ?_
  rw [BitVec.toNat_ofNat]
  omega

/-- A banked controller shows its revision. -/
lemma shownRevision_banked (hr : s.isRouted = false) (h : s.options.revision < 16) :
    s.shownRevision = s.options.revision := by
  have hnone : findTable? distributorTables false 0x80 0xfe8 = none := by decide
  have hword : s.readDistributorWord 0xfe8 = s.options.revisionWord := by
    rw [readDistributorWord, hr, hnone]
    simp [readDistributorRegister, hr]
  rw [shownRevision_eq, hword, architecture_revisionWord h]

/-- A routed one shows four flags. -/
lemma testBit_shownRevision (hr : s.isRouted = true) {i : Nat} (hi : i < 4) :
    s.shownRevision.testBit i = s.flagged (836 + i) := by
  have hword : s.readDistributorWord 0xfe8 = s.readBits s.distributorView 832 .nonMaskable :=
    readDistributorWord_table (t := ⟨0xf80, .nonMaskable, .plain, 0, true⟩) (k := 26) (by decide)
      (by rw [hr]; rfl) (by decide)
  have hview : s.distributorView (836 + i) = s.place? (836 + i) s.current := by
    rw [distributorView, decide_eq_false (by omega), Bool.and_false, if_neg Bool.false_ne_true]
  have hbit : (s.readBits s.distributorView 832 .nonMaskable).getLsbD (4 + i)
      = s.flagged (836 + i) := by
    rw [getLsbD_readBits _ (by omega), ← Nat.add_assoc, bitAt, irqAt?, hview, flagged, irq?]
    rcases (s.place? (836 + i) s.current).bind s.at? with _ | q <;> rfl
  rw [shownRevision, hword, ← BitVec.getLsbD.eq_1, BitVec.getLsbD_extractLsb', ← hbit,
    decide_eq_true hi, Bool.true_and]

lemma shownRevision_lt (s : State) : s.shownRevision < 16 := BitVec.isLt _

lemma mimics_iff (hr : s.isRouted = true) :
    s.Mimics ↔ s.shownRevision = 1 ∨ s.shownRevision = 2 := by
  have hbits : ∀ n < 16, n = 1 ∨ n = 2 ↔
      n.testBit 0 ≠ n.testBit 1 ∧ n.testBit 2 = false ∧ n.testBit 3 = false := by decide
  rw [hbits _ s.shownRevision_lt, testBit_shownRevision hr (by decide),
    testBit_shownRevision hr (by decide), testBit_shownRevision hr (by decide),
    testBit_shownRevision hr (by decide)]
  exact and_iff_right hr

end Hardware.State

namespace Gic

variable {s : State}

lemma run_bankedArchitecture :
    (Banked.Distributor.mk Region.distributor.base).architecture.run Board.answer (.controller s)
      = (.ok s.shownRevision, .controller s) := by
  rw [State.shownRevision_eq]
  exact run_bind_ok ((run_read32 ..).trans (Board.answer_read_distributor (o := 0xfe8) .word rfl (by decide)))

lemma run_routedArchitecture (hr : s.isRouted = true) (h : s.options.revision < 16) :
    (Routed.Distributor.mk Region.distributor.base .nonSecure).architecture.run Board.answer
      (.controller s) = (.ok s.options.revision, .controller s) := by
  have hnone : findTable? distributorTables true 0x80 0xffe8 = none := by decide
  have hword : s.readDistributorWord 0xffe8 = s.options.revisionWord := by
    rw [State.readDistributorWord, hr, hnone]
    simp [State.readDistributorRegister, hr]
  have hread : Board.answer (.controller s) (.read .word (Region.distributor.base + 0xffe8))
      = (.ok s.options.revisionWord, .controller s) := by
    rw [Board.answer_read_distributor (o := 0xffe8) .word rfl (by decide), ← hword]
    rfl
  refine (run_bind_ok ((run_read32 ..).trans hread)).trans ?_
  rw [run_pure, State.architecture_revisionWord h]

/-- The other register tells the later versions. -/
lemma run_detect_of_shown {o : Options} (ho : s.options = o) (h : o.version ≠ .unknown)
    (hshown : s.shownRevision ≠ 1 ∧ s.shownRevision ≠ 2) :
    (detect Region.distributor.base).run Board.answer (.controller s)
      = (.ok o.version, .controller s) := by
  subst ho
  rcases Hardware.Options.of_version h with ⟨hr, hrev⟩ | ⟨hr, hrev⟩
  · have hown := State.shownRevision_banked hr (by omega)
    omega
  have hrouted := run_routedArchitecture hr (by omega)
  refine (run_bind_ok run_bankedArchitecture).trans ?_
  split
  · exact absurd ‹_› hshown.1
  · exact absurd ‹_› hshown.2
  · refine (run_bind_ok hrouted).trans ?_
    rcases hrev with ⟨hrev, hversion⟩ | ⟨hrev, hversion⟩ <;> rw [hrev, hversion] <;> rfl

lemma run_detect_one (hshown : s.shownRevision = 1) :
    (detect Region.distributor.base).run Board.answer (.controller s) = (.ok .v1, .controller s) := by
  refine (run_bind_ok run_bankedArchitecture).trans ?_
  rw [hshown]
  rfl

lemma run_detect_two (hshown : s.shownRevision = 2) :
    (detect Region.distributor.base).run Board.answer (.controller s) = (.ok .v2, .controller s) := by
  refine (run_bind_ok run_bankedArchitecture).trans ?_
  rw [hshown]
  rfl

/-- A controller that shows the revision of a banked one is taken for that. -/
lemma exists_run_detect_of_shown (hshown : s.shownRevision = 1 ∨ s.shownRevision = 2) :
    ∃ v, (detect Region.distributor.base).run Board.answer (.controller s) = (.ok v, .controller s)
      ∧ (s.shownRevision = 1 ∧ v = .v1 ∨ s.shownRevision = 2 ∧ v = .v2) :=
  hshown.elim (fun h => ⟨_, run_detect_one h, .inl ⟨h, rfl⟩⟩)
    fun h => ⟨_, run_detect_two h, .inr ⟨h, rfl⟩⟩

/-- Some version is detected, the right one unless a routed controller mimics a banked one. Then it is
the one that is shown. -/
lemma exists_run_detect {o : Options} (ho : s.options = o) (h : o.version ≠ .unknown) :
    ∃ v, (detect Region.distributor.base).run Board.answer (.controller s) = (.ok v, .controller s)
      ∧ (v = o.version ↔ ¬ s.Mimics)
      ∧ (s.Mimics → s.shownRevision = 1 ∧ v = .v1 ∨ s.shownRevision = 2 ∧ v = .v2) := by
  have hcases := Hardware.Options.of_version h
  subst ho
  by_cases hshown : s.shownRevision = 1 ∨ s.shownRevision = 2
  · obtain ⟨v, hrun, hv⟩ := exists_run_detect_of_shown hshown
    refine ⟨v, hrun, ?_, fun _ => hv⟩
    rcases hcases with ⟨hr, hrev⟩ | ⟨hr, hrev⟩
    · -- a banked controller has shown its own revision
      have hown := State.shownRevision_banked hr (by omega)
      refine iff_of_true ?_ fun hm => Bool.false_ne_true (hr.symm.trans hm.1)
      rcases hrev with ⟨hrev, hversion⟩ | ⟨hrev, hversion⟩ <;> rw [hversion]
      · exact (hv.resolve_right fun h => by omega).2
      · exact (hv.resolve_left fun h => by omega).2
    · refine iff_of_false ?_ (not_not_intro ((State.mimics_iff hr).mpr hshown))
      rcases hv with ⟨-, rfl⟩ | ⟨-, rfl⟩ <;> rcases hrev with ⟨-, hversion⟩ | ⟨-, hversion⟩ <;>
        rw [hversion] <;> decide
  · have hnot : ¬ s.Mimics := fun hm => hshown ((State.mimics_iff hm.1).mp hm)
    exact ⟨_, run_detect_of_shown rfl h (not_or.mp hshown), iff_of_true rfl hnot,
      fun hm => absurd hm hnot⟩

/-- The version is detected in every state but those in which a routed controller mimics a banked
one. Then it is not, and the one that is shown is taken for it. -/
theorem detects_version {o : Options} {s : State} (hs : Reachable o s) (h : o.version ≠ .unknown)
    (H : Type) (interface : Nat) (twoStep : Bool) :
    ∃ g : Gic H, (construct Region.distributor.base interface .unknown twoStep).run Board.answer
        (.controller s) = (.ok g, .controller s)
      ∧ (g.version = o.version ↔ ¬ s.Mimics)
      ∧ (s.Mimics → s.shownRevision = 1 ∧ g.version = .v1
        ∨ s.shownRevision = 2 ∧ g.version = .v2) := by
  obtain ⟨v, hrun, hv⟩ := exists_run_detect hs.sound.options h
  refine ⟨⟨v, engineOf v Region.distributor.base interface, twoStep, .empty⟩, ?_, hv⟩
  exact (run_bind_ok hrun).trans (run_pure ..)

/-- A GICv3 with all lines, some of whose interrupts were made non-maskable. -/
def unmaskable (flags : BitVec 32) : State :=
  State.after (.reset { Options.routed with lines := 31 })
    (.access (.write .word (Region.distributor.base + 0xfe8) flags))

lemma reachable_unmaskable (flags : BitVec 32) :
    Reachable { Options.routed with lines := 31 } (unmaskable flags) := Reachable.reset.after _

set_option maxRecDepth 100000 in
/-- Interrupts 836 and 838 do not look like a revision, and interrupt 837 alone looks like the second
one. -/
theorem detects_version_unmaskable :
    Options.version { Options.routed with lines := 31 } = .v3
      ∧ (∃ g : Gic Unit, (construct Region.distributor.base Region.redistributors.base .unknown
          false).run Board.answer (.controller (unmaskable 0x50))
          = (.ok g, .controller (unmaskable 0x50)) ∧ g.version = .v3)
      ∧ ∃ g : Gic Unit, (construct Region.distributor.base Region.redistributors.base .unknown
          false).run Board.answer (.controller (unmaskable 0x20))
          = (.ok g, .controller (unmaskable 0x20)) ∧ g.version = .v2 := by
  have hnot : ¬ (unmaskable 0x50).Mimics := by decide +kernel
  have hmimics : (unmaskable 0x20).Mimics ∧ (unmaskable 0x20).flagged 836 = false := by decide +kernel
  have hshown : (unmaskable 0x20).shownRevision ≠ 1 := by
    intro hone
    have hbit := State.testBit_shownRevision (s := unmaskable 0x20) (i := 0) rfl (by decide)
    rw [hone, hmimics.2] at hbit
    exact absurd hbit (by decide)
  obtain ⟨g, hrun, hv, -⟩ := detects_version (reachable_unmaskable 0x50) (by decide) Unit
    Region.redistributors.base false
  obtain ⟨g', hrun', -, hv'⟩ := detects_version (reachable_unmaskable 0x20) (by decide) Unit
    Region.redistributors.base false
  refine ⟨rfl, ⟨g, hrun, hv.mpr hnot⟩, g', hrun', ?_⟩
  exact ((hv' hmimics.1).resolve_left fun h => hshown h.1).2

set_option maxRecDepth 100000 in
/-- Interrupt 836 alone does, and the controller is taken for a GICv1. -/
theorem detects_first_version_unmaskable :
    Reachable { Options.routed with lines := 31 } (unmaskable 0x10)
      ∧ Options.version { Options.routed with lines := 31 } = .v3
      ∧ ∃ g : Gic Unit, (construct Region.distributor.base Region.redistributors.base .unknown
          false).run Board.answer (.controller (unmaskable 0x10))
          = (.ok g, .controller (unmaskable 0x10)) ∧ g.version = .v1 := by
  have hshown : (unmaskable 0x10).shownRevision = 1 := by decide +kernel
  exact ⟨reachable_unmaskable 0x10, rfl, _,
    (run_bind_ok (run_detect_one hshown)).trans (run_pure ..), rfl⟩

end Gic

end InterruptControl
