import InterruptControl.Proofs.Distributor.Routes
import InterruptControl.Proofs.Interleaving

/-!
Shared interrupts that are made pending by a message.

A message carries a number of thirteen bits, by which the hardware looks the interrupt up. The tables
have the interrupt at an index, as a bit of a word. Both ways end at one place, so whoever looks at
the controller cannot tell which one was taken.
-/

namespace InterruptControl

open Bus Hardware Program

/-! ### A message -/

namespace Hardware.State

variable {s : State} {id : IntId}

/-- The numbers of all shared interrupts fit into a message. -/
lemma toNat_message (h : id.number < 8192) :
    (Routed.messageId.val id.raw &&& 0x1fff).toNat = id.number := by
  have hget : Routed.messageId.val id.raw &&& 0x1fff
      = Routed.messageId.get (Routed.messageId.val id.raw) := (BitVec.ushiftRight_zero _).symm
  rw [hget, BitField.toNat_get_val]
  exact Nat.mod_eq_of_lt h

/-- The registers that messages go to: the one that sets and the one that clears. -/
lemma writeDistributorWord_message (hr : s.isRouted = true) (v : Bool) (w : BitVec 32) :
    s.writeDistributorWord (if v then 0x40 else 0x48) w
      = s.modifyDistributorIrq (w &&& 0x1fff).toNat fun q => { q with pending := v } := by
  rw [writeDistributorWord_register (by cases v <;> decide), writeDistributorRegister]
  cases v <;> simp [hr]

lemma answer_message (h : s.Routable id) (v : Bool) :
    Board.answer (.controller s) (.write .word (Region.distributor.base + if v then 0x40 else 0x48)
        (Routed.messageId.val id.raw))
      = (.ok (), .controller (s.modifyIrq id.number s.current fun q => { q with pending := v })) := by
  have hlt : id.number < 8192 := by
    rcases Routed.Distributor.cases_of_reports h.reports with h | h <;> omega
  refine (Board.answer_write_distributor .word _ rfl (by cases v <;> decide)).trans ?_
  rw [writeDistributor, writeDistributorWord_message h.isRouted, toNat_message hlt,
    modifyDistributorIrq, Routed.Distributor.distributorView_of_reports h.reports]
  rfl

end Hardware.State

namespace Routed

variable {s : State} {id : IntId}

/-- A call that makes an interrupt pending or takes that back, by a message or in the tables. -/
structure PendingCall where
  cpu : Nat
  byMessage : Bool
  id : IntId
  value : Bool

namespace Distributor

variable (security : SecurityState)

lemma isShared_of_routable (h : s.Routable id) : (id.isSpi || id.isExtendedSpi) = true := by
  have hid := h.reports
  rw [Options.reports, Bool.or_eq_true, Bool.and_eq_true] at hid
  rw [Bool.or_eq_true]
  exact hid.imp_right And.left

lemma run_signal (h : s.Routable id) :
    (signal ⟨Region.distributor.base, security⟩ id).run Board.answer (.controller s)
      = (.ok (), .controller (s.modifyIrq id.number s.current fun q => { q with pending := true })) := by
  rw [signal, run_require_bind, if_pos (isShared_of_routable h), run_write32]
  exact State.answer_message h true

lemma run_unsignal (h : s.Routable id) :
    (unsignal ⟨Region.distributor.base, security⟩ id).run Board.answer (.controller s)
      = (.ok (), .controller (s.modifyIrq id.number s.current fun q => { q with pending := false })) := by
  rw [unsignal, run_require_bind, if_pos (isShared_of_routable h), run_write32]
  exact State.answer_message h false

lemma run_setPending (h : s.Routable id) (v : Bool) :
    ((Distributor.mk Region.distributor.base security).block.setFlag .pending id v).run Board.answer
        (.controller s)
      = (.ok (), .controller (s.modifyIrq id.number s.current fun q => { q with pending := v })) := by
  have hreaches : (Keeper.routed security).Reaches s id := ⟨h.isRouted, h.reports⟩
  refine (hreaches.finds.run_setFlag .pending v).trans ?_
  rw [hreaches.modifyAt_view]
  rfl

end Distributor

namespace PendingCall

open Distributor

variable {c c' : PendingCall} {calls : List PendingCall}

def program (security : SecurityState) (c : PendingCall) : Program Unit :=
  let d : Distributor := ⟨Region.distributor.base, security⟩
  if c.byMessage then if c.value then d.signal c.id else d.unsignal c.id
  else d.block.setFlag .pending c.id c.value

/-- The same call, made in the tables. -/
def tabled (c : PendingCall) : PendingCall := { c with byMessage := false }

/-- The call is about a shared interrupt that is built in, and there is the core that makes it. -/
structure Implemented (s : State) (c : PendingCall) : Prop where
  shared : c.id.isSpi = true ∨ c.id.isExtendedSpi = true
  built : (s.irq? c.id.number c.cpu).isSome = true

/-- What the call leaves, whichever way it goes. -/
def after (s : State) (c : PendingCall) : State :=
  (s.on c.cpu).modifyIrq c.id.number c.cpu fun q => { q with pending := c.value }

/-- The calls are made one after the other, each by its core, and all of them return. -/
inductive Completes (security : SecurityState) : State → List PendingCall → State → Prop
  | nil (s : State) : Completes security s [] s
  | cons {s t u : State} {c : PendingCall} {rest : List PendingCall}
    (h : (c.program security).run Board.answer (.controller (s.on c.cpu)) = (.ok (), .controller t))
    (hrest : Completes security t rest u) : Completes security s (c :: rest) u

lemma run_program (security : SecurityState) (h : (s.on c.cpu).Routable c.id) :
    (c.program security).run Board.answer (.controller (s.on c.cpu))
      = (.ok (), .controller (after s c)) := by
  rcases c with ⟨cpu, _ | _, id, v⟩
  · exact run_setPending security h v
  · cases v with
    | false => exact run_unsignal security h
    | true => exact run_signal security h

lemma options_after (s : State) (c : PendingCall) : (after s c).options = s.options :=
  (State.options_of_bare (State.bare_modifyIrq ..) : (after s c).options = (s.on c.cpu).options)

/-- Pending or not, what is built in stays so. -/
lemma Implemented.after (h : c.Implemented s) (c' : PendingCall) : c.Implemented (after s c') :=
  ⟨h.shared, (State.isSome_irq?_modifyIrq (s.on c'.cpu) _).trans h.built⟩

section Counted

variable (hr : s.isRouted = true) (hlines : s.options.lines < 32)
  (hspis : s.options.extendedSpiRange < 32)
include hr hlines hspis

lemma Implemented.routable (h : c.Implemented s) : (s.on c.cpu).Routable c.id :=
  State.routable_of_lt (s := s.on c.cpu) hr hlines hspis h.shared h.built

/-- A call at a time: none fails, and what is left does not depend on the ways they went. -/
lemma completes (security : SecurityState) (hcalls : ∀ c ∈ calls, c.Implemented s) :
    Completes security s calls (calls.foldl after s) := by
  induction calls generalizing s with
  | nil => exact .nil s
  | cons c rest ih =>
    obtain ⟨hc, hrest⟩ := List.forall_mem_cons.mp hcalls
    have hoptions := options_after s c
    refine .cons (run_program security (hc.routable hr hlines hspis)) ?_
    refine ih ?_ (hoptions ▸ hlines) (hoptions ▸ hspis) fun c' hc' => (hrest c' hc').after c
    rw [State.isRouted, hoptions]
    exact hr

end Counted

end PendingCall

namespace Distributor

open PendingCall in
/-- **Messages and tables agree on what is pending.** For a shared interrupt that is built in, a message
leaves what the call that sets the flag in the tables leaves, and taking it back what the call leaves
that clears it, whichever core calls. So of any calls, mixed in any order, each might as well have been
made in the tables. -/
theorem messages_agree_with_tables {o : Options} {s : State} (hs : Reachable o s)
    (ho : o.isRouted = true) (hlines : o.lines < 32) (hspis : o.extendedSpiRange < 32)
    (security : SecurityState) :
    (∀ (cpu : Nat) (id : IntId), id.isSpi = true ∨ id.isExtendedSpi = true →
      (s.irq? id.number cpu).isSome = true →
      let d : Distributor := ⟨Region.distributor.base, security⟩
      let left (v : Bool) := (s.on cpu).modifyIrq id.number cpu fun q => { q with pending := v }
      (d.signal id).run Board.answer (.controller (s.on cpu)) = (.ok (), .controller (left true))
        ∧ (d.block.setFlag .pending id true).run Board.answer (.controller (s.on cpu))
          = (.ok (), .controller (left true))
        ∧ (d.unsignal id).run Board.answer (.controller (s.on cpu)) = (.ok (), .controller (left false))
        ∧ (d.block.setFlag .pending id false).run Board.answer (.controller (s.on cpu))
          = (.ok (), .controller (left false)))
    ∧ ∀ calls : List PendingCall, (∀ c ∈ calls, c.Implemented s) →
      ∃ t, Completes security s calls t ∧ Completes security s (calls.map tabled) t := by
  obtain rfl := hs.sound.options
  refine ⟨fun cpu id hid hbuilt => ?_, fun calls hcalls => ?_⟩
  · have hroutable := Implemented.routable (c := ⟨cpu, true, id, true⟩) ho hlines hspis ⟨hid, hbuilt⟩
    exact ⟨run_signal security hroutable, run_setPending security hroutable true,
      run_unsignal security hroutable, run_setPending security hroutable false⟩
  · have htabled : ∀ c ∈ calls.map tabled, c.Implemented s := by
      rintro _ hmem
      obtain ⟨c, hc, rfl⟩ := List.mem_map.mp hmem
      exact ⟨(hcalls c hc).shared, (hcalls c hc).built⟩
    have hleft : (calls.map tabled).foldl after s = calls.foldl after s := List.foldl_map ..
    exact ⟨_, completes ho hlines hspis security hcalls,
      hleft ▸ completes ho hlines hspis security htabled⟩

/-- Core 2 signals the second extended SPI, and core 0 clears it in the tables. -/
theorem messages_agree_with_tables_of_extended_spi :
    let calls : List PendingCall := [⟨2, true, .ofNat 4097, true⟩, ⟨0, false, .ofNat 4097, false⟩]
    (∀ c ∈ calls, c.Implemented (.reset .manifold))
    ∧ (signal ⟨Region.distributor.base, .single⟩ (.ofNat 4097)).run Board.answer
        (.controller ((State.reset .manifold).on 2))
      = ((Distributor.mk Region.distributor.base .single).block.setFlag .pending (.ofNat 4097) true).run
        Board.answer (.controller ((State.reset .manifold).on 2))
    ∧ ∃ t, PendingCall.Completes .single (.reset .manifold) calls t
      ∧ PendingCall.Completes .single (.reset .manifold) (calls.map PendingCall.tabled) t := by
  intro calls
  have hcalls : ∀ c ∈ calls, c.Implemented (.reset .manifold) := by
    simp only [calls, List.forall_mem_cons, List.not_mem_nil, false_implies, implies_true, and_true]
    exact ⟨⟨.inr rfl, rfl⟩, ⟨.inr rfl, rfl⟩⟩
  obtain ⟨hone, hmany⟩ := messages_agree_with_tables (.reset (o := .manifold)) rfl (by decide) (by decide)
    .single
  obtain ⟨hsignal, hset, -, -⟩ := hone 2 (.ofNat 4097) (.inr rfl) rfl
  exact ⟨hcalls, hsignal.trans hset.symm, hmany calls hcalls⟩

end Distributor

end Routed

end InterruptControl
