import InterruptControl.Proofs.Gic.Interface
import InterruptControl.Proofs.Script.Session

/-!
An interrupt is completed and deactivated with the word that was read when it was acknowledged.

An acknowledge takes a word apart, into a number and, for an SGI of a banked controller, its sender.
What ends the interrupt puts the parts together again. Nothing else of the word is kept, and nothing
that the caller held before gets into it.
-/

namespace InterruptControl

open Program

/-! ### A banked controller -/

namespace Banked.CpuInterface

variable (c : CpuInterface) (v : BitVec 32)

lemma get_id_eq : Acknowledge.id.get v = v &&& 0x3ff := BitVec.ushiftRight_zero _

lemma number_of_word : (IntId.mk (Acknowledge.id.get v)).number = v.toNat % 0x400 := by
  rw [get_id_eq]
  exact (BitVec.toNat_and ..).trans (Nat.and_two_pow_sub_one_eq_mod _ 10)

variable {v}

lemma decode_eq_none (h : 1020 ≤ v.toNat % 0x400) : decode v = none :=
  if_pos (by rwa [number_of_word])

lemma exists_decode (h : v.toNat % 0x400 < 1020) : ∃ a, decode v = some a
    ∧ a.id.raw = v &&& 0x3ff ∧ a.id.isSpecial = false
    ∧ encode a = v &&& if a.id.isSgi then 0x1fff else 0x3ff := by
  have hnumber := number_of_word v
  refine ⟨_, if_neg (by omega), get_id_eq v, ?_, ?_⟩
  · rw [Bool.eq_false_iff, ne_eq, IntId.isSpecial_iff, hnumber]
    omega
  rcases hsgi : (IntId.mk (Acknowledge.id.get v)).isSgi with _ | _
  · simp only [encode]
    exact Acknowledge.id.val_get v
  · -- The fields of the number and of the sender lie side by side.
    simp only [encode, if_true, BitField.val_get, ← BitVec.and_or_distrib_left]
    rfl

variable {a : Ack} (h : a.id.isSpecial = false)
include h

lemma complete_eq : c.complete a = write32 c.endAddress (encode a) := by
  rw [complete, h]
  rfl

lemma deactivate_eq : c.deactivate a = write32 c.deactivateAddress (encode a) := by
  rw [deactivate, h]
  rfl

end Banked.CpuInterface

/-! ### A routed controller -/

namespace Routed.CpuInterface

variable (v : BitVec 64)

/-- The number in the word fits into half of it. -/
lemma setWidth_get_acknowledgedId :
    ((acknowledgedId.get v).setWidth 32).setWidth 64 = v &&& 0xffffff := by
  have hget : acknowledgedId.get v = v &&& 0xffffff := BitVec.ushiftRight_zero _
  have hle : (v &&& 0xffffff).toNat ≤ 0xffffff := (BitVec.toNat_and ..).trans_le Nat.and_le_right
  refine BitVec.eq_of_toNat_eq ?_
  rw [hget, BitVec.toNat_setWidth_of_le (by decide), BitVec.toNat_setWidth]
  exact Nat.mod_eq_of_lt (by omega)

lemma number_of_word :
    (IntId.mk ((acknowledgedId.get v).setWidth 32)).number = v.toNat % 0x1000000 := by
  have h := congrArg BitVec.toNat (setWidth_get_acknowledgedId v)
  rw [BitVec.toNat_setWidth_of_le (by decide)] at h
  exact h.trans ((BitVec.toNat_and ..).trans (Nat.and_two_pow_sub_one_eq_mod _ 24))

variable {v}

lemma decode_eq_none (h : 1020 ≤ v.toNat % 0x1000000 ∧ v.toNat % 0x1000000 ≤ 1023) :
    decode v = none := by
  refine if_pos ?_
  rw [IntId.isSpecial_iff, number_of_word]
  omega

lemma exists_decode (h : ¬ (1020 ≤ v.toNat % 0x1000000 ∧ v.toNat % 0x1000000 ≤ 1023)) :
    ∃ a, decode v = some a ∧ a.id.raw.setWidth 64 = v &&& 0xffffff ∧ a.id.isSpecial = false
      ∧ a.source = none := by
  have hspecial : ¬ (IntId.mk ((acknowledgedId.get v).setWidth 32)).isSpecial = true := by
    rw [IntId.isSpecial_iff, number_of_word]
    omega
  exact ⟨_, if_neg hspecial, setWidth_get_acknowledgedId v, Bool.eq_false_iff.mpr hspecial, rfl⟩

variable {a : Ack} (h : a.id.isSpecial = false)
include h

lemma complete_eq : complete a = writeSystem .endOfInterrupt1 (a.id.raw.setWidth 64) := by
  rw [complete, h]
  rfl

lemma deactivate_eq : deactivate a = writeSystem .deactivate (a.id.raw.setWidth 64) := by
  rw [deactivate, h]
  rfl

end Routed.CpuInterface

/-! ### What the caller holds -/

namespace CpuInterface

variable {σ : Type} {d : Device σ} {s t : σ}

/-- An acknowledge by a caller who holds an interrupt: whether there is a new one, which takes its
place, and what is held then. -/
def acknowledgeInto (p : Program (Option Ack)) (held : Ack) : Program (Bool × Ack) := do
  let found ← p
  pure (found.isSome, found.getD held)

lemma run_acknowledgeInto {p : Program (Option Ack)} {found : Option Ack} (held : Ack)
    (h : p.run d s = (.ok found, t)) :
    (acknowledgeInto p held).run d s = (.ok (found.isSome, found.getD held), t) :=
  run_bind_ok h

/-- The steps of a script acknowledge in this way. -/
lemma perform_acknowledge (i : Script.InterfaceCalls) (held : Ack) :
    Script.InterfaceOp.perform i (.acknowledge held)
      = Script.ask (acknowledgeInto i.acknowledge held) fun r => .acknowledged r.1 r.2 := by
  rw [Script.ask, Script.report, acknowledgeInto, Script.Session.perform_bind,
    LawfulMonad.bind_assoc]
  rfl

variable (d s t)

/-- **Interrupts end with the word they were acknowledged with.** Whatever a banked controller
shows, an acknowledge finds nothing and leaves what is held if the number in the word is 1020 or
more. Otherwise both ends of the interrupt write the number as it was read, with the sender if it is
an SGI. On a routed controller, they write the number, and no sender is held. -/
theorem completed_with_word_read (held : Ack) :
    (∀ (c : Banked.CpuInterface) (v : BitVec 32),
        d s (.read .word c.acknowledgeAddress) = (.ok v, t) →
        (1020 ≤ v.toNat % 0x400 →
          (acknowledgeInto c.acknowledge held).run d s = (.ok (false, held), t))
        ∧ (v.toNat % 0x400 < 1020 → ∃ a,
          (acknowledgeInto c.acknowledge held).run d s = (.ok (true, a), t)
            ∧ a.id.raw = v &&& 0x3ff
            ∧ c.complete a = write32 c.endAddress (v &&& if a.id.isSgi then 0x1fff else 0x3ff)
            ∧ c.deactivate a
              = write32 c.deactivateAddress (v &&& if a.id.isSgi then 0x1fff else 0x3ff)))
      ∧ (∀ v : BitVec 64, d s (.readSystem .acknowledge1) = (.ok v, t) →
        (1020 ≤ v.toNat % 0x1000000 ∧ v.toNat % 0x1000000 ≤ 1023 →
          (acknowledgeInto Routed.CpuInterface.acknowledge held).run d s = (.ok (false, held), t))
        ∧ (¬ (1020 ≤ v.toNat % 0x1000000 ∧ v.toNat % 0x1000000 ≤ 1023) → ∃ a,
          (acknowledgeInto Routed.CpuInterface.acknowledge held).run d s = (.ok (true, a), t)
            ∧ a.id.raw.setWidth 64 = v &&& 0xffffff ∧ a.source = none
            ∧ Routed.CpuInterface.complete a = writeSystem .endOfInterrupt1 (v &&& 0xffffff)
            ∧ Routed.CpuInterface.deactivate a = writeSystem .deactivate (v &&& 0xffffff)))
      ∧ ∀ i : Script.InterfaceCalls, Script.InterfaceOp.perform i (.acknowledge held)
        = Script.ask (acknowledgeInto i.acknowledge held) fun r => .acknowledged r.1 r.2 := by
  refine ⟨fun c v hread => ?_, fun v hread => ?_, fun i => perform_acknowledge i held⟩
  · have hrun := run_acknowledgeInto held (Banked.CpuInterface.run_acknowledge_of_read hread)
    constructor
    · intro h
      rwa [Banked.CpuInterface.decode_eq_none h] at hrun
    · intro h
      obtain ⟨a, ha, hraw, hspecial, hword⟩ := Banked.CpuInterface.exists_decode h
      rw [ha] at hrun
      refine ⟨a, hrun, hraw, ?_, ?_⟩
      · rw [Banked.CpuInterface.complete_eq c hspecial, hword]
      · rw [Banked.CpuInterface.deactivate_eq c hspecial, hword]
  · have hrun := run_acknowledgeInto held (Routed.CpuInterface.run_acknowledge_of_read hread)
    constructor
    · intro h
      rwa [Routed.CpuInterface.decode_eq_none h] at hrun
    · intro h
      obtain ⟨a, ha, hraw, hspecial, hsource⟩ := Routed.CpuInterface.exists_decode h
      rw [ha] at hrun
      refine ⟨a, hrun, hraw, hsource, ?_, ?_⟩
      · rw [Routed.CpuInterface.complete_eq hspecial, hraw]
      · rw [Routed.CpuInterface.deactivate_eq hspecial, hraw]

/-- A machine that shows the SGI 5 of core 3 of a banked controller, and the LPI 8193 of a routed
one, in words whose other bits are all set. -/
def showing : Bus.Machine where
  board := .memory {}
  feeds := (({} : Bus.Feeds).add (.address (Bus.Region.interface.base + 0xc)) [(0xffffec05, 1)]).add
    (.register .acknowledge1) [(0xffffffffff002001, 1)]

/-- What is held before has a sender that does not get into the words written. -/
theorem completed_with_word_read_of_showing :
    let held : Ack := ⟨.ofNat 34, some 6⟩
    let c : Banked.CpuInterface := ⟨Bus.Region.interface.base⟩
    (∃ a m, (acknowledgeInto c.acknowledge held).run Bus.Machine.answer showing = (.ok (true, a), m)
        ∧ c.complete a = write32 c.endAddress 0xc05)
      ∧ ∃ a m, (acknowledgeInto Routed.CpuInterface.acknowledge held).run Bus.Machine.answer showing
          = (.ok (true, a), m)
        ∧ a.source = none ∧ Routed.CpuInterface.complete a = writeSystem .endOfInterrupt1 0x2001 := by
  intro held c
  have hword : Bus.Machine.answer showing (.read .word c.acknowledgeAddress)
      = (.ok 0xffffec05, _) := Prod.ext (by rfl) rfl
  have hsystem : Bus.Machine.answer showing (.readSystem .acknowledge1)
      = (.ok 0xffffffffff002001, _) := Prod.ext (by rfl) rfl
  constructor
  · obtain ⟨a, hrun, hraw, hcomplete, -⟩ :=
      ((completed_with_word_read _ _ _ held).1 c _ hword).2 (by decide)
    have hsgi : a.id.isSgi = true := by
      rw [IntId.isSgi_iff, IntId.number, hraw]
      decide
    have hkept : (0xffffec05 &&& 0x1fff : BitVec 32) = 0xc05 := by decide
    rw [hsgi, if_pos rfl, hkept] at hcomplete
    exact ⟨a, _, hrun, hcomplete⟩
  · obtain ⟨a, hrun, -, hsource, hcomplete, -⟩ :=
      ((completed_with_word_read _ _ _ held).2.1 _ hsystem).2 (by decide)
    have hkept : (0xffffffffff002001 &&& 0xffffff : BitVec 64) = 0x2001 := by decide
    rw [hkept] at hcomplete
    exact ⟨a, _, hrun, hsource, hcomplete⟩

end CpuInterface

end InterruptControl
