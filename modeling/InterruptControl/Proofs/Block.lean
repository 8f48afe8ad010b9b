import InterruptControl.Proofs.Bus.Bank
import InterruptControl.Proofs.Registers.Table

/-!
What the operations on one interrupt do to a controller that keeps the bank they reach: a
setter changes the one interrupt behind the index, and a getter shows it.
-/

namespace InterruptControl.Block

open Bus Hardware Program

/-- The block finds the interrupt in the bank, at index `i`. -/
structure Finds (b : Block) (id : IntId) (bank : Bank) (i : Nat) (s : State) : Prop where
  keeps : bank.Keeps s
  locate : (b.locate id).run Board.answer (.controller s)
    = (.ok ⟨bank.layout, i⟩, .controller s)
  lt : i < bank.size

namespace Finds

variable {b : Block} {id : IntId} {bank : Bank} {i : Nat} {s : State}

/-- The bit of the interrupt in its word of a table. -/
lemma getLsbD_word (f : Field) :
    (s.readBits bank.view (bank.first + i / 32 * 32) f).getLsbD (i % 32)
      = s.bitAt bank.view f (bank.first + i) := by
  rw [State.getLsbD_readBits f (Nat.mod_lt i (by decide))]
  congr 1
  omega

lemma getLsbD_triggerWord :
    (s.readTriggers bank.view (bank.first + i / 16 * 16)).getLsbD (i % 16 * 2 + 1)
      = s.edgeAt bank.view (bank.first + i) := by
  rw [State.getLsbD_readTriggers (Nat.mod_lt i (by decide))]
  congr 1
  omega

variable (h : b.Finds id bank i s)
include h

lemma lt_bits : i / 32 < bank.layout.bitWords := by
  have := h.lt
  have := h.keeps.size_bits
  omega

lemma lt_triggers : i / 16 < bank.layout.triggerWords := by
  have := h.lt
  have := h.keeps.size_triggers
  omega

/-- A lone one, written to a table that sets or clears flags. -/
lemma writeBits_bit (f : Field) {v : Bool} {r : WriteRule} (hr : r = if v then .set else .clear) :
    s.writeBits bank.view (bank.first + i / 32 * 32) f r (Table.bit i)
      = s.modifyAt bank.view (bank.first + i) (·.put f v) := by
  rw [Table.bit_eq_twoPow, State.writeBits_twoPow hr h.keeps.injective (Nat.mod_lt i (by decide))]
  congr 1
  omega

lemma run_setFlag (f : Flag) (v : Bool) : (b.setFlag f id v).run Board.answer (.controller s)
    = (.ok (), .controller (s.modifyAt bank.view (bank.first + i) (·.put f.field v))) := by
  rw [setFlag, run_bind_ok h.locate]
  cases v with
  | true =>
    rw [if_pos rfl, ← h.writeBits_bit f.field (v := true) rfl]
    exact Table.run_set h.lt_bits (h.keeps.writeBits (.setting f) h.lt_bits _)
  | false =>
    rw [if_neg (by decide), Table.run_clear h.lt_bits (h.keeps.readBits (.clearing f) h.lt_bits)
      (h.keeps.writeBits (.clearing f) h.lt_bits _), getLsbD_word,
      h.writeBits_bit f.field (v := false) (r := .clear) rfl]
    split
    next => rfl
    next hbit =>
      rw [Bool.not_eq_true] at hbit
      rw [State.modifyAt_put_of_bitAt hbit]

lemma run_hasFlag (f : Flag) : (b.hasFlag f id).run Board.answer (.controller s)
    = (.ok (s.bitAt bank.view f.field (bank.first + i)), .controller s) := by
  rw [hasFlag, run_bind_ok h.locate, Table.run_test h.lt_bits
    (h.keeps.readBits (.setting f) h.lt_bits), getLsbD_word]

lemma run_setAttribute {a : Attribute} (ha : bank.offers a = true) (v : Bool) :
    (b.setAttribute a id v).run Board.answer (.controller s)
      = (.ok (), .controller (s.modifyAt bank.view (bank.first + i) (·.put a.field v))) := by
  have hmod : i % 32 < 32 := Nat.mod_lt i (by decide)
  have hnumber : bank.first + i / 32 * 32 + i % 32 = bank.first + i := by omega
  let old := s.readBits bank.view (bank.first + i / 32 * 32) a.field
  obtain ⟨w, hw⟩ : ∃ w, w = if v then old ||| Table.bit i else old &&& ~~~Table.bit i := ⟨_, rfl⟩
  have hbits : ∀ k < 32, w.getLsbD k = if k = i % 32 then v else old.getLsbD k := fun k hk => by
    rw [hw, Table.bit_eq_twoPow, Table.getLsbD_assign _ _ hk]
  rw [setAttribute, run_bind_ok h.locate, Table.run_assign h.lt_bits hw
    (h.keeps.readBits (.plain ha) h.lt_bits) (h.keeps.writeBits (.plain ha) h.lt_bits _),
    State.writeBits_assign (b := v) h.keeps.injective hmod, hnumber]
  · split
    next hsame =>
      -- nothing was written, as the bit was right already
      have hbit := hbits (i % 32) hmod
      rw [if_pos rfl, hsame, getLsbD_word] at hbit
      rw [State.modifyAt_put_of_bitAt hbit]
    next => rfl
  intro k hk
  rw [hbits k hk, State.getLsbD_readBits _ hk]

lemma run_hasAttribute {a : Attribute} (ha : bank.offers a = true) :
    (b.hasAttribute a id).run Board.answer (.controller s)
      = (.ok (s.bitAt bank.view a.field (bank.first + i)), .controller s) := by
  rw [hasAttribute, run_bind_ok h.locate, Table.run_test h.lt_bits
    (h.keeps.readBits (.plain ha) h.lt_bits), getLsbD_word]

lemma run_setPriority (p : Priority) : (b.setPriority id p).run Board.answer (.controller s)
    = (.ok (), .controller
        (s.modifyAt bank.view (bank.first + i) fun q => { q with priority := p })) := by
  rw [setPriority, run_bind_ok h.locate]
  exact (run_write8 ..).trans (h.keeps.writePriority h.lt p)

lemma run_priority : (b.priority id).run Board.answer (.controller s)
    = (.ok (((s.irqAt? bank.view (bank.first + i)).map (·.priority)).getD 0), .controller s) := by
  rw [priority, run_bind_ok h.locate]
  exact (run_read8 ..).trans (h.keeps.readPriority h.lt)

lemma run_setTrigger_of_sgi (hid : id.isSgi = true) (t : Trigger) :
    (b.setTrigger id t).run Board.answer (.controller s) = (.ok (), .controller s) := by
  rw [setTrigger, run_bind_ok h.locate, if_pos hid, run_pure]

lemma run_trigger_of_sgi (hid : id.isSgi = true) :
    (b.trigger id).run Board.answer (.controller s) = (.ok .edge, .controller s) := by
  rw [trigger, run_bind_ok h.locate, if_pos hid, run_pure]

lemma run_setTrigger (hid : id.isSgi = false) (hfixed : bank.fixed ≤ i / 16) (t : Trigger) :
    (b.setTrigger id t).run Board.answer (.controller s)
      = (.ok (), .controller
          (s.modifyAt bank.view (bank.first + i) fun q => { q with edge := t.isEdge })) := by
  have hmod : i % 16 < 16 := Nat.mod_lt i (by decide)
  have hnumber : bank.first + i / 16 * 16 + i % 16 = bank.first + i := by omega
  rw [setTrigger, run_bind_ok h.locate, if_neg (by simp [hid]), Table.run_setEdge h.lt_triggers rfl
    (h.keeps.readTriggers h.lt_triggers) (h.keeps.writeTriggers h.lt_triggers hfixed _),
    Table.edgeBit_eq_twoPow, State.writeTriggers_assign (b := t.isEdge) h.keeps.injective hmod,
    hnumber]
  intro k hk
  rw [Table.getLsbD_assign _ _ (by omega), State.getLsbD_readTriggers hk]
  congr 1
  simp

lemma run_trigger (hid : id.isSgi = false) : (b.trigger id).run Board.answer (.controller s)
    = (.ok (.ofIsEdge (s.edgeAt bank.view (bank.first + i))), .controller s) := by
  rw [trigger, run_bind_ok h.locate, if_neg (by simp [hid]), run_bind_ok
    (Table.run_isEdge h.lt_triggers (h.keeps.readTriggers h.lt_triggers)), getLsbD_triggerWord,
    run_pure]

end Finds

end InterruptControl.Block
