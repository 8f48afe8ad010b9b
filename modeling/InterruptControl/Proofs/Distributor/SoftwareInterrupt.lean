import InterruptControl.Proofs.CpuInterface.SoftwareInterrupt
import InterruptControl.Proofs.Gic.Interface
import InterruptControl.Proofs.Hardware.Evolution

/-!
SGIs of a banked controller, from the call on the sending core to the completion on a core that
they reached.

The request names the cores by one bit each. What a core reads to acknowledge the SGI tells who
sent it, however much happened in between, and what it writes to complete the SGI is taken for
that SGI of its own.
-/

namespace InterruptControl

open Bus Hardware Program

/-- On behalf of core `sender`, the destination means core `cpu`. -/
def Destination.addresses (dest : Destination CpuSet) (sender cpu : Nat) : Bool :=
  match dest with
  | .listed l => l.contains cpu
  | .allOther => decide (cpu ≠ sender)
  | .current => decide (cpu = sender)

namespace Banked.Distributor

/-! ### The request -/

section Request

open SoftwareInterrupt hiding id targets

variable (id : IntId) (dest : Destination CpuSet)

/-- How a destination is told: by the list, or by the kind alone. -/
def kindWord : Destination CpuSet → BitVec 32
  | .listed _ => 0
  | .allOther => 1
  | .current => 2

def listMask : Destination CpuSet → BitVec 8
  | .listed l => l.mask
  | _ => 0

lemma sgiWord_eq : sgiWord id dest = SoftwareInterrupt.id.val id.raw
    ||| (filter.val (kindWord dest) ||| SoftwareInterrupt.targets.val ((listMask dest).setWidth 32)) := by
  have hnone : SoftwareInterrupt.targets.val ((0 : BitVec 8).setWidth 32) = 0#32 := by decide
  cases dest with
  | listed l => rfl
  | allOther | current => simp only [sgiWord, kindWord, listMask, hnone, BitVec.or_zero]

/-- Every part of the request is found in its field. -/
lemma get_sgiWord : (SoftwareInterrupt.id.get (sgiWord id dest)).toNat = id.number % 16
    ∧ filter.get (sgiWord id dest) = kindWord dest
    ∧ SoftwareInterrupt.targets.get (sgiWord id dest) = (listMask dest).setWidth 32 := by
  have hkind : filter.get (filter.val (kindWord dest)) = kindWord dest := by
    refine BitField.get_val _ _ ?_
    rcases dest with _ | _ | _ <;> simp [kindWord, filter, BitField.of]
  have hid := BitField.toNat_get_val SoftwareInterrupt.id id.raw
  simp only [sgiWord_eq, BitField.get_or, hkind]
  simp (disch := decide) [BitField.get_val_of_apart, BitField.get_val_setWidth]
  exact hid

variable {s : State} (hcurrent : s.current < CpuSet.capacity)
include hcurrent

/-- The hardware finds the cores that are meant. -/
lemma getLsbD_sgiMask {cpu : Nat} (hcpu : cpu < CpuSet.capacity) :
    (s.sgiMask (sgiWord id dest)).getLsbD cpu = dest.addresses s.current cpu := by
  obtain ⟨-, hkind, hlist⟩ := get_sgiWord id dest
  have hfilter := (filter.shiftRight_and (sgiWord id dest) 3 (by decide)).trans hkind
  have htargets := (SoftwareInterrupt.targets.shiftRight_and (sgiWord id dest) 0xff (by decide)).trans hlist
  have hmasks : ∀ i < 8, ∀ cpu < 8, (1#32 <<< i).getLsbD cpu = decide (cpu = i)
      ∧ (0xff#32 &&& ~~~(1#32 <<< i)).getLsbD cpu = decide (cpu ≠ i) := by decide
  obtain ⟨hone, hother⟩ := hmasks _ hcurrent _ hcpu
  rw [State.sgiMask, show (24 : Nat) = filter.offset from rfl, hfilter]
  cases dest with
  | listed l =>
    refine (congrArg (·.getLsbD cpu) htargets).trans ?_
    simp only [listMask, BitVec.getLsbD_setWidth, Destination.addresses, CpuSet.contains]
    rw [decide_eq_true hcpu, decide_eq_true (hcpu.trans (by decide : CpuSet.capacity < 32))]
  | allOther => exact hother
  | current => exact hone

end Request

/-! ### The call -/

section Call

variable {o : Options} {s : State} (hs : s.Sound o) (ho : o.isRouted = false) (hsome : 0 < o.cpus)
  (hfew : o.cpus ≤ CpuSet.capacity) {id : IntId} (hid : id.isSgi = true) (dest : Destination CpuSet)
include hs ho hsome hfew hid

/-- The request makes the SGI pending on the cores that are meant. -/
lemma answer_sgi : Board.answer (.controller s)
      (.write .word (Region.distributor.base + 0xf00) (sgiWord id dest))
    = (.ok (), .controller (s.signalled id.number fun cpu _ => dest.addresses s.current cpu)) := by
  have hr : s.isRouted = false := hs.isRouted.trans ho
  have hnumber : (sgiWord id dest &&& 0xf).toNat = id.number := by
    have h := SoftwareInterrupt.id.shiftRight_and (sgiWord id dest) 0xf (by decide)
    refine (congrArg BitVec.toNat h).trans ((get_sgiWord id dest).1.trans ?_)
    exact Nat.mod_eq_of_lt (id.isSgi_iff.mp hid)
  refine (Board.answer_write_distributor (o := 0xf00) .word _ rfl (by decide)).trans
    (congrArg (fun t => (Except.ok (), Board.controller t)) ?_)
  refine (State.writeDistributorWord_register (.inr (by decide)) _).trans ?_
  rw [State.writeDistributorRegister, if_neg (by decide), if_neg (by decide), if_pos rfl, hr,
    if_neg Bool.false_ne_true, State.writeSgi, hnumber, ← State.sendTo_filter]
  refine congrArg _ (List.filter_congr fun cpu hcpu => ?_)
  have hlt := List.mem_range.mp hcpu
  rw [Array.getElem?_eq_getElem hlt, Option.any_some]
  refine getLsbD_sgiMask id dest ((hs.current hsome).trans_le hfew) ?_
  exact (hs.size ▸ hlt).trans_le hfew

lemma run_sendSgi_signalled :
    ((Distributor.mk Region.distributor.base).sendSgi id dest).run Board.answer (.controller s)
      = (.ok (), .controller (s.signalled id.number fun cpu _ => dest.addresses s.current cpu)) := by
  rw [sendSgi, run_require_bind, if_pos hid]
  exact (run_write32 ..).trans (answer_sgi hs ho hsome hfew hid dest)

end Call

end Banked.Distributor

/-! ### What the receiver is told -/

namespace Hardware.State

variable {s : State} {c : Core} {sgi cpu : Nat}

/-- A core that was reached knows the sender. -/
lemma sender?_signalled {p : Nat → Core → Bool} (hsgi : sgi < 96) (hc : s.cores[cpu]? = some c)
    (hp : p cpu c = true) :
    (s.signalled sgi p).sender? cpu sgi = some (BitVec.ofNat 32 s.current) := by
  simp [sender?, at?, signalled, Core.signalled, Array.getElem?_mapIdx, hc, hp, hsgi]

/-- And is told when it takes the SGI. -/
lemma ack_of_sender (hr : s.isRouted = false) (hc : s.cores[s.current]? = some c) (hsgi : sgi < 16)
    {x : BitVec 32} (hx : s.sender? s.current sgi = some x) :
    s.ack sgi = ⟨.ofNat sgi, some (x &&& 7)⟩ := by
  have hirq : s.irq? sgi s.current = s.at? (.own s.current sgi) :=
    irq?_of_place _ _ _ (place?_of_lt s hc (by omega))
  rw [sender?, ← hirq] at hx
  obtain ⟨q, hq, rfl⟩ := Option.map_eq_some_iff.mp hx
  rw [ack, hr, hq, decide_eq_true hsgi]
  rfl

/-- The core has acknowledged the interrupt, and not dropped its priority yet. -/
def Serves (s : State) (cpu id : Nat) : Prop :=
  ∃ c, s.cores[cpu]? = some c ∧ c.running.any (·.id == id) = true

end Hardware.State

namespace Banked

open InterruptControl.Banked.CpuInterface

/-- Completing and deactivating an interrupt touch that of core `cpu` and nothing else. Completing
drops the priority that it was served with, and makes it inactive unless this is left to a second
step, deactivating. -/
structure Completes (s : State) (cpu : Nat) (a : Ack) : Prop where
  complete (h : s.Serves cpu a.id.number) : (onBus.complete a).run Board.answer (.controller s)
    = (.ok (), .controller (s.ended cpu a.id.number (s.twoStep false)))
  deactivate : (onBus.deactivate a).run Board.answer (.controller s)
    = (.ok (), .controller (s.modifyIrq a.id.number cpu fun q => { q with active := false }))

lemma completes_of_sgi {s : State} (hr : s.isRouted = false) {a : Ack} (ha : a.id.isSgi = true) :
    Completes s s.current a := by
  have hnumber : a.id.number < 16 := a.id.isSgi_iff.mp ha
  have hspecial : a.id.isSpecial = false := by
    rw [Bool.eq_false_iff, ne_eq, IntId.isSpecial_iff]
    omega
  constructor
  · rintro ⟨c, hc, hruns⟩
    rw [run_complete hr hc (by omega) hspecial, State.endInterrupt, if_neg (by omega),
      State.twoStep_eq hc]
    simp only [hc, hruns, if_true]
    rfl
  · rw [run_deactivate hr (by omega) hspecial, State.deactivate, if_neg (by omega), if_neg (by omega)]

/-- **SGIs reach exactly the addressed cores, and tell their sender.** On every reachable state, a
request leaves the SGI pending, with the calling core as its sender, on those of the cores that the
destination means, and changes nothing else. Whatever happens then, if no further SGI of that
number is sent to one of them and it acknowledges that SGI, it is told the number and the sender.
With what it was told it completes and deactivates that SGI of its own, then or later. -/
theorem sgi_carries_sender {o : Options} (ho : o.isRouted = false) (hsome : 0 < o.cpus)
    (hfew : o.cpus ≤ CpuSet.capacity) {s : State} (hs : Reachable o s) {id : IntId}
    (hid : id.isSgi = true) (dest : Destination CpuSet) :
    let sent := s.signalled id.number fun cpu _ => dest.addresses s.current cpu
    ((Distributor.mk Region.distributor.base).sendSgi id dest).run Board.answer (.controller s)
        = (.ok (), .controller sent)
      ∧ ∀ target < o.cpus, dest.addresses s.current target = true → ∀ meanwhile : List Event,
        sent.Unsignalled target id.number meanwhile →
        let u := meanwhile.foldl State.after sent
        u.current = target → ∀ p, u.next? target = some (id.number, p) →
          let a : Ack := ⟨id, some (BitVec.ofNat 32 s.current)⟩
          let served := u.take target (id.number, p)
          onBus.acknowledge.run Board.answer (.controller u) = (.ok (some a), .controller served)
            ∧ served.Serves target id.number
            ∧ ∀ later : List Event,
              let v := later.foldl State.after served
              v.current = target → Completes v target a := by
  intro sent
  have hanswer := Distributor.answer_sgi hs.sound ho hsome hfew hid dest
  refine ⟨Distributor.run_sendSgi_signalled hs.sound ho hsome hfew hid dest, ?_⟩
  intro target htarget hmeant meanwhile hnone u hcurrent p hnext a served
  -- the request is an access, so all that follows is reachable
  have hsent : Reachable o sent := by
    have := hs.after (.access (.write .word (Region.distributor.base + 0xf00)
      (Distributor.sgiWord id dest)))
    rwa [State.after, hanswer] at this
  have hreach := hsent.foldl meanwhile
  have hr : u.isRouted = false := hreach.sound.isRouted.trans ho
  have hnumber : id.number < 16 := id.isSgi_iff.mp hid
  obtain ⟨c, hc⟩ := hreach.sound.exists_core_of_lt htarget
  obtain ⟨d, hd⟩ := hs.sound.exists_core_of_lt htarget
  have hsender : u.sender? target id.number = some (BitVec.ofNat 32 s.current) :=
    (State.recalls_foldl hnone).sender.trans (State.sender?_signalled (by omega) hd hmeant)
  have hsource : BitVec.ofNat 32 s.current &&& 7 = BitVec.ofNat 32 s.current :=
    BitField.ofNat_and_mask (k := 3) ((hs.sound.current hsome).trans_le hfew) _ rfl
  subst hcurrent
  have hack : u.ack id.number = a := by
    rw [State.ack_of_sender hr hc hnumber hsender, hsource, IntId.ofNat_number]
  have htaken : u.after (.access (.read .word (Region.interface.base + 0xc))) = served := by
    rw [State.after, answer_read hr hc (by decide)]
    simp [served, State.readInterfaceWord, State.acknowledge, hnext, Board.hardware]
  refine ⟨?_, ?_, ?_⟩
  · rw [run_acknowledge hr hc hreach.sound, State.taken, hnext, Option.map_some, hack]
  · obtain ⟨c', hc', hruns⟩ := State.running_of_take (u := served) rfl hc
    exact ⟨c', hc', by rw [hruns, List.any_cons, beq_self_eq_true, Bool.true_or]⟩
  · intro later v hv
    have hlater := (hreach.after (.access (.read .word (Region.interface.base + 0xc)))).foldl later
    rw [htaken] at hlater
    have hcompletes : Completes v v.current a := completes_of_sgi (hlater.sound.isRouted.trans ho) hid
    rwa [hv] at hcompletes

/-- Core 2 is ready for SGI 5, and core 1 goes on. -/
def listening : State :=
  [.access (.write .word Region.distributor.base 3), .setCurrent 2,
    .access (.write .word Region.interface.base 3),
    .access (.write .word (Region.interface.base + 4) 0xff),
    .access (.write .word (Region.distributor.base + 0x100) 0x20),
    .setCurrent 1].foldl State.after (.reset .banked)

/-- Before core 2 looks, core 3 sends the same number to core 0. -/
def chatter : List Event :=
  [.setCurrent 3, .access (.write .word (Region.distributor.base + 0xf00) 0x10005), .setCurrent 2]

set_option maxRecDepth 100000 in
theorem sgi_carries_sender_between_cores :
    let sent := listening.signalled 5 fun cpu _ => (Destination.listed ⟨5⟩).addresses 1 cpu
    let u := chatter.foldl State.after sent
    Reachable .banked listening ∧ sent.Unsignalled 2 5 chatter ∧ u.next? 2 = some (5, 0)
      ∧ ((Distributor.mk Region.distributor.base).sendSgi (.ofNat 5) (.listed ⟨5⟩)).run Board.answer
          (.controller listening) = (.ok (), .controller sent)
      ∧ onBus.acknowledge.run Board.answer (.controller u)
          = (.ok (some ⟨.ofNat 5, some 1⟩), .controller (u.take 2 (5, 0)))
      ∧ Completes (u.take 2 (5, 0)) 2 ⟨.ofNat 5, some 1⟩ := by
  intro sent u
  have hreach : Reachable .banked listening := Reachable.reset.foldl _
  have hfacts : listening.current = 1 ∧ u.current = 2 ∧ u.next? 2 = some (5, 0)
      ∧ (u.take 2 (5, 0)).current = 2 ∧ (sent.after (.setCurrent 3)).sgiMask 0x10005 = 1 := by decide +kernel
  obtain ⟨hone, htwo, hnext, hstill, hmask⟩ := hfacts
  have hquiet : sent.Unsignalled 2 5 chatter := by
    refine ⟨id, fun h => ?_, id, trivial⟩
    rw [Event.Signals, State.Signals, hmask] at h
    exact absurd h.2.2.2 (by decide)
  have hid : (IntId.ofNat 5).isSgi = true := by decide
  have h := sgi_carries_sender (by decide) (by decide) (by decide) hreach hid (.listed ⟨5⟩)
  have hnumber : (IntId.ofNat 5).number = 5 := by decide
  rw [hone, hnumber] at h
  obtain ⟨hsend, hserve⟩ := h
  obtain ⟨hack, -, hlater⟩ := hserve 2 (by decide) (by decide) chatter hquiet htwo 0 hnext
  exact ⟨hreach, hquiet, hnext, hsend, hack, hlater [] hstill⟩

end Banked

end InterruptControl
